import PackSpec.Proofs.Relationship.Rereading
import PackSpec.Proofs.Specification.Relinked

set_option autoImplicit false

namespace PackSpec

namespace Schema

/-- The schema can be drawn: its class names fit in brackets, and the relation names that are shown
consist of letters. -/
structure Drawable (s : Schema) : Prop where
  leftFilled : s.left.className.toList ≠ []
  leftClosed : ∀ c ∈ s.left.className.toList, c ≠ ']'
  leftLetters : ∀ r ∈ shownName s.left.relationName s.defaultLeft,
    r.toList ≠ [] ∧ ∀ c ∈ r.toList, Drawn.isLetter c = true
  rightFilled : s.right.className.toList ≠ []
  rightClosed : ∀ c ∈ s.right.className.toList, c ≠ ']'
  rightLetters : ∀ r ∈ shownName s.right.relationName s.defaultRight,
    r.toList ≠ [] ∧ ∀ c ∈ r.toList, Drawn.isLetter c = true

theorem isMark_diagramMarks (left right : Multiplicity) :
    (∀ c ∈ (diagramMarks left right).1.toList, Drawn.isMark c = true) ∧
      ∀ c ∈ (diagramMarks left right).2.1.toList, Drawn.isMark c = true := by
  simp only [← List.all_eq_true]
  cases left <;> cases right <;> decide

theorem isRule_diagramMarks (left right : Multiplicity) :
    (∀ c ∈ (diagramMarks left right).2.2.toList, Drawn.isRule c = true) ∧
      '-' ∈ (diagramMarks left right).2.2.toList := by
  simp only [← List.all_eq_true]
  cases left <;> cases right <;> decide

theorem kindOf_diagramMarks (left right : Multiplicity) (permitted : isOrientation left right = true) :
    Drawn.kindOf (diagramMarks left right).1.toList (diagramMarks left right).2.1.toList = left ∧
      Drawn.kindOf (diagramMarks left right).2.1.toList (diagramMarks left right).1.toList =
        right := by
  revert permitted
  cases left <;> cases right <;> decide

def shownText (name default : String) : List Char :=
  ((shownName name default).getD "").toList

theorem letters_shownText (name default : String)
    (letters : ∀ r ∈ shownName name default,
      r.toList ≠ [] ∧ ∀ c ∈ r.toList, Drawn.isLetter c = true) :
    ∀ c ∈ shownText name default, Drawn.isLetter c = true := by
  unfold shownText
  cases shown : shownName name default with
  | none => simp
  | some r => exact (letters r shown).2

theorem diagramName_shownText (name default : String)
    (letters : ∀ c ∈ shownText name default, Drawn.isLetter c = true) :
    diagramName name default = .ok (String.ofList (shownText name default)) := by
  unfold diagramName
  by_cases same : name = default
  · simp [shownText, shownName, same]
  · simp only [shownText, shownName, same, if_false, Option.getD_some] at letters
    have word : isWord name = true := List.all_eq_true.2 letters
    simp [shownText, shownName, same, word]

theorem given_shownText (name default : String)
    (letters : ∀ r ∈ shownName name default,
      r.toList ≠ [] ∧ ∀ c ∈ r.toList, Drawn.isLetter c = true) :
    (given (some (String.ofList (shownText name default)))).getD default = name := by
  rw [shownText, String.ofList_toList, given_some]
  unfold shownName at letters ⊢
  by_cases same : name = default
  · simp [same]
  · have filled : name ≠ "" := by
      rintro rfl
      exact (letters "" (by simp [same])).1 rfl
    simp [same, filled]

def line (s : Schema) (drawable : s.Drawable) : Diagram.Line where
  left :=
    { className := s.left.className.toList
      mark := (diagramMarks s.left.kind s.right.kind).1.toList
      name := shownText s.left.relationName s.defaultLeft
      gap := [' ']
      filled := drawable.leftFilled
      closed := drawable.leftClosed
      marks := (isMark_diagramMarks _ _).1
      letters := letters_shownText _ _ drawable.leftLetters
      blanks := List.forall_mem_singleton.2 (by decide) }
  right :=
    { className := s.right.className.toList
      mark := (diagramMarks s.left.kind s.right.kind).2.1.toList
      name := shownText s.right.relationName s.defaultRight
      gap := if shownText s.right.relationName s.defaultRight = [] ∧
        (diagramMarks s.left.kind s.right.kind).2.1.toList = [] then [] else [' ']
      filled := drawable.rightFilled
      closed := drawable.rightClosed
      marks := (isMark_diagramMarks _ _).2
      letters := letters_shownText _ _ drawable.rightLetters
      blanks := by
        split
        · exact List.forall_mem_nil _
        · exact List.forall_mem_singleton.2 (by decide) }
  rule := (diagramMarks s.left.kind s.right.kind).2.2.toList
  rules := (isRule_diagramMarks _ _).1
  drawn := (isRule_diagramMarks _ _).2

theorem toList_tail (name : List Char) (mark : String) :
    (if (String.ofList name).isEmpty && mark.isEmpty then ""
      else String.ofList name ++ " " ++ mark).toList =
      name ++ (if name = [] ∧ mark.toList = [] then [] else [' ']) ++ mark.toList := by
  have empty (cs : List Char) : (String.ofList cs).isEmpty = true ↔ cs = [] := by
    rw [String.isEmpty_iff, ← String.toList_inj, String.toList_ofList]
    rfl
  have marked := empty mark.toList
  rw [String.ofList_toList] at marked
  by_cases none_ : name = [] ∧ mark.toList = []
  · rw [if_pos none_, if_pos (by rw [Bool.and_eq_true, empty, marked]; exact none_), none_.1, none_.2]
    rfl
  · rw [if_neg none_, if_neg (by rw [Bool.and_eq_true, empty, marked]; exact none_)]
    simp

theorem diagram_line (s : Schema) (drawable : s.Drawable) :
    s.diagram = .ok (String.ofList (s.line drawable).text) := by
  have left := diagramName_shownText _ _ (letters_shownText _ _ drawable.leftLetters)
  have right := diagramName_shownText _ _ (letters_shownText _ _ drawable.rightLetters)
  have tail := toList_tail (shownText s.right.relationName s.defaultRight)
    (diagramMarks s.left.kind s.right.kind).2.1
  simp only [diagram, left, right, bind, Except.bind, Except.ok.injEq]
  rw [← String.toList_inj, String.toList_ofList]
  simp only [String.toList_append, tail, String.toList_ofList]
  simp [line, Diagram.Line.text, Diagram.Side.after]

theorem declares_line (s : Schema) (drawable : s.Drawable) : (s.line drawable).decl.Declares s := by
  obtain ⟨left, right⟩ := kindOf_diagramMarks s.left.kind s.right.kind s.oriented
  have leftName := given_shownText _ _ drawable.leftLetters
  have rightName := given_shownText _ _ drawable.rightLetters
  rw [Diagram.Line.decl, ← Diagram.Side.of_eq_endpoint, ← Diagram.Side.of_eq_endpoint]
  simp only [line, left, right, String.ofList_toList, Endpoint.of]
  refine ⟨rfl, rfl, rfl, rfl, ?_, ?_⟩
  · rw [given_given]
    exact leftName
  · rw [given_given]
    exact rightName

end Schema

namespace Decl

theorem schema?_eq_some (ns : String) (d : Decl) (s : Schema) :
    d.schema? ns = some s ↔ d.resolve ns = .ok s := by
  unfold schema?
  cases d.resolve ns <;> simp [Except.toOption]

theorem resolves_of_oriented (d : Decl) (ns : String) (permitted : d.isOriented = true) :
    ∃ s, d.resolve ns = .ok s ∧ d.Declares s := by
  unfold resolve Schema.resolve
  exact ⟨_, dif_pos permitted, rfl, rfl, rfl, rfl, rfl, rfl⟩

theorem drawable_of_declares (line : String) (d : Decl) (s : Schema)
    (accepted : Diagram.readLine line = .ok (some d)) (declares : d.Declares s) : s.Drawable := by
  obtain ⟨_, lettered, _⟩ := Diagram.readLine_ok line d accepted
  obtain ⟨_, before, f, behind, _, sides⟩ := Diagram.readLine_some line d accepted
  obtain ⟨leftClass, rightClass, leftKind, rightKind, left, right⟩ := declares
  have classes : (d.left.className.toList ≠ [] ∧ ∀ c ∈ d.left.className.toList, c ≠ ']') ∧
      d.right.className.toList ≠ [] ∧ ∀ c ∈ d.right.className.toList, c ≠ ']' := by
    rcases sides with rfl | rfl
    · simpa [Diagram.Figure.decl, Diagram.Side.endpoint] using
        ⟨⟨f.left.filled, f.left.closed⟩, f.right.filled, f.right.closed⟩
    · simpa [Diagram.Figure.decl, Diagram.Side.endpoint, swapped] using
        ⟨⟨f.right.filled, f.right.closed⟩, f.left.filled, f.left.closed⟩
  -- A name that is shown was given, as the derived one is not shown.
  have letters (given_ : Option String) (default : String)
      (all : ∀ r ∈ given_, r.toList ≠ [] ∧ ∀ c ∈ r.toList, Drawn.isLetter c = true) :
      ∀ r ∈ shownName ((given given_).getD default) default,
        r.toList ≠ [] ∧ ∀ c ∈ r.toList, Drawn.isLetter c = true :=
    fun r shown => all r (Option.filter_eq_some_iff.1 (given_of_shownName _ _ r shown)).1
  refine ⟨leftClass ▸ classes.1.1, leftClass ▸ classes.1.2, ?_, rightClass ▸ classes.2.1,
    rightClass ▸ classes.2.2, ?_⟩
  · rw [← left, Schema.defaultLeft, ← leftKind, ← rightClass]
    exact letters _ _ lettered.1
  · rw [← right, Schema.defaultRight, ← rightKind, ← leftClass]
    exact letters _ _ lettered.2

/-- Drawn as a line again, a relationship that was read from a diagram line reads back: it resolves
to the same views. -/
theorem rereads_redrawn (line : String) (d : Decl) (ns : String)
    (accepted : Diagram.readLine line = .ok (some d)) :
    ∃ s written again reread, d.resolve ns = .ok s ∧ s.diagram = .ok written ∧
      Diagram.readLine written = .ok (some again) ∧ again.resolve ns = .ok reread ∧
      reread.leftView = s.leftView ∧ reread.rightView = s.rightView := by
  obtain ⟨permitted, -⟩ := Diagram.readLine_some line d accepted
  obtain ⟨s, resolved, declares⟩ := d.resolves_of_oriented ns permitted
  have drawable := d.drawable_of_declares line s accepted declares
  have again := s.declares_line drawable
  obtain ⟨reread, resolves, views, -⟩ := schema?_of_declares ns _ s
    (d.resolved_of_schema? ns s ((schema?_eq_some ns d s).2 resolved)) again
  refine ⟨s, _, (s.line drawable).decl, reread, resolved, s.diagram_line drawable, ?_,
    (schema?_eq_some _ _ _).1 resolves, ?_⟩
  · rw [Diagram.Line.readLine_eq, Diagram.oriented, if_pos (oriented_of_declares _ s again)]
    rfl
  · simpa [Schema.views] using views

def shelves : Decl :=
  ⟨⟨"Rack", some "on_top", .multiOwning⟩, ⟨"Shelf", some "rack", .single⟩⟩

theorem rereads_redrawn_shelves :
    Diagram.readLine "  [Shelf]0..1rack .-.on_top ++[Rack] // of a rack" =
        .ok (some shelves) ∧
      ∃ s written again reread, shelves.resolve "ZenPacks.test.Racks" = .ok s ∧
        s.diagram = .ok written ∧ Diagram.readLine written = .ok (some again) ∧
        again.resolve "ZenPacks.test.Racks" = .ok reread ∧
        reread.leftView = s.leftView ∧ reread.rightView = s.rightView :=
  have accepted : Diagram.readLine "  [Shelf]0..1rack .-.on_top ++[Rack] // of a rack" =
      .ok (some shelves) := by rfl
  ⟨accepted, rereads_redrawn _ _ _ accepted⟩

end Decl

end PackSpec
