import PackSpec.Proofs.Text.Spans
import PackSpec.Relationship.Reading

set_option autoImplicit false

namespace PackSpec

namespace Compact

def isToken (cs : List Char) : Bool :=
  !cs.isEmpty && cs.all fun c => !Text.isBlank c

def isClassName (cs : List Char) : Bool :=
  isToken cs && cs.all (· != '(')

def isRelationName (cs : List Char) : Bool :=
  isToken cs && cs.all (· != ')')

theorem isToken_cons (c : Char) (cs : List Char) :
    isToken (c :: cs) = (!Text.isBlank c && cs.all fun d => !Text.isBlank d) := by
  simp [isToken]

theorem words_blank (b : Char) (rest : List Char) (blank : Text.isBlank b = true) :
    words (b :: rest) = words rest := by
  rw [words.eq_def]
  simp [blank]

theorem words_token_blank (w : List Char) (b : Char) (rest : List Char) (token : isToken w = true)
    (blank : Text.isBlank b = true) : words (w ++ b :: rest) = w :: words rest := by
  induction w with
  | nil => simp [isToken] at token
  | cons c w ih =>
    rw [isToken_cons, Bool.and_eq_true, Bool.not_eq_true'] at token
    cases w with
    | nil =>
      rw [List.singleton_append, words.eq_def]
      simp [token.1, blank, words_blank]
    | cons d w =>
      have next := ih (by simpa [isToken] using token.2)
      have visible : Text.isBlank d = false := by simpa using (List.all_eq_true.1 token.2) d (by simp)
      rw [List.cons_append, words.eq_def]
      simp only [token.1, Bool.false_eq_true, if_false, List.cons_append, visible]
      rw [← List.cons_append, next]

theorem words_token (w : List Char) (token : isToken w = true) : words w = [w] := by
  induction w with
  | nil => simp [isToken] at token
  | cons c w ih =>
    rw [isToken_cons, Bool.and_eq_true, Bool.not_eq_true'] at token
    cases w with
    | nil =>
      rw [words.eq_def]
      simp [token.1]
    | cons d w =>
      have next := ih (by simpa [isToken] using token.2)
      have visible : Text.isBlank d = false := by simpa using (List.all_eq_true.1 token.2) d (by simp)
      rw [words.eq_def]
      simp only [token.1, Bool.false_eq_true, if_false, visible]
      rw [next]

theorem isToken_of_mem_words (cs w : List Char) (member : w ∈ words cs) : isToken w = true := by
  fun_induction words cs generalizing w with
  | case1 => simp at member
  | case2 c rest blank ih => exact ih w member
  | case3 c visible =>
    rw [List.mem_singleton.1 member]
    simpa [isToken] using visible
  | case4 c visible d rest blank ih =>
    rcases List.mem_cons.1 member with rfl | later
    · simpa [isToken] using visible
    · exact ih w later
  | case5 c visible d rest _ nothing ih =>
    rw [nothing, List.mem_singleton] at member
    rw [member]
    simpa [isToken] using visible
  | case6 c visible d rest _ first more found ih =>
    rw [found] at member
    rcases List.mem_cons.1 member with rfl | later
    · have token := ih first (by simp [found])
      simp_all [isToken]
    · exact ih w (by simp [found, later])

theorem isClassName_iff (cs : List Char) :
    isClassName cs = true ↔
      cs ≠ [] ∧ (∀ c ∈ cs, Text.isBlank c = false) ∧ ∀ c ∈ cs, (c != '(') = true := by
  simp [isClassName, isToken, and_assoc]

theorem isRelationName_iff (cs : List Char) :
    isRelationName cs = true ↔
      cs ≠ [] ∧ (∀ c ∈ cs, Text.isBlank c = false) ∧ ∀ c ∈ cs, (c != ')') = true := by
  simp [isRelationName, isToken, and_assoc]

theorem parenthesized_name (name rest : List Char) (relation : isRelationName name = true) :
    parenthesized ('(' :: (name ++ ')' :: rest)) = some (name, rest) := by
  obtain ⟨filled, _, open_⟩ := (isRelationName_iff name).1 relation
  simp only [parenthesized]
  have stops : Text.Stops (· != ')') (')' :: rest) := by simp
  rw [Text.takeWhile_append_stops open_ stops, Text.dropWhile_append_stops open_ stops]
  simp [filled]

theorem named_class (name : List Char) (class_ : isClassName name = true) :
    named name = some (name, none) := by
  obtain ⟨filled, _, plain⟩ := (isClassName_iff name).1 class_
  have taken : name.takeWhile (· != '(') = name := List.takeWhile_eq_self_iff.2 plain
  have dropped : name.dropWhile (· != '(') = [] := List.dropWhile_eq_nil_iff.2 plain
  simp [named, taken, dropped, filled]

theorem side_class (name : List Char) (class_ : isClassName name = true) :
    side name = some (name, none) := by
  obtain ⟨_, _, plain⟩ := (isClassName_iff name).1 class_
  unfold side
  split
  · next rest => simpa using plain '(' (by simp)
  · exact named_class name class_

theorem side_class_name (name relation : List Char) (class_ : isClassName name = true)
    (relation_ : isRelationName relation = true) :
    side (name ++ '(' :: (relation ++ [')'])) = some (name, some relation) := by
  obtain ⟨filled, _, plain⟩ := (isClassName_iff name).1 class_
  have named_ : named (name ++ '(' :: (relation ++ [')'])) = some (name, some relation) := by
    have stops : Text.Stops (· != '(') ('(' :: (relation ++ [')'])) := by simp
    simp only [named]
    rw [Text.takeWhile_append_stops plain stops, Text.dropWhile_append_stops plain stops]
    simp [filled, parenthesized_name relation [] relation_]
  unfold side
  split
  · next rest same =>
    cases name with
    | nil => exact absurd rfl filled
    | cons c name =>
      have head : c = '(' := by simpa using (List.cons.inj same).1
      simpa [head] using plain c (by simp)
  · exact named_

theorem side_name_class (name relation : List Char) (class_ : isClassName name = true)
    (relation_ : isRelationName relation = true) :
    side ('(' :: (relation ++ ')' :: name)) = some (name, some relation) := by
  simp only [side]
  rw [parenthesized_name relation name relation_]
  simp [named_class name class_]

theorem isToken_append (xs ys : List Char) (left : isToken xs = true)
    (right : ys.all (fun c => !Text.isBlank c) = true) : isToken (xs ++ ys) = true := by
  cases xs with
  | nil => simp [isToken] at left
  | cons c xs => simp_all [isToken]

theorem isToken_of_isClassName (cs : List Char) (class_ : isClassName cs = true) :
    isToken cs = true :=
  (Bool.and_eq_true _ _ ▸ class_ : _ ∧ _).1

theorem isToken_of_isRelationName (cs : List Char) (relation : isRelationName cs = true) :
    isToken cs = true :=
  (Bool.and_eq_true _ _ ▸ relation : _ ∧ _).1

theorem visible_of_isToken (cs : List Char) (token : isToken cs = true) :
    cs.all (fun c => !Text.isBlank c) = true :=
  (Bool.and_eq_true _ _ ▸ token : _ ∧ _).2

def leftText (name : List Char) : Option (List Char) → List Char
  | none => name
  | some relation => name ++ '(' :: (relation ++ [')'])

def rightText (name : List Char) : Option (List Char) → List Char
  | none => name
  | some relation => '(' :: (relation ++ ')' :: name)

theorem side_leftText (name : List Char) (relation : Option (List Char))
    (class_ : isClassName name = true) (relation_ : ∀ r ∈ relation, isRelationName r = true) :
    side (leftText name relation) = some (name, relation) := by
  cases relation with
  | none => exact side_class name class_
  | some r => exact side_class_name name r class_ (relation_ r rfl)

theorem side_rightText (name : List Char) (relation : Option (List Char))
    (class_ : isClassName name = true) (relation_ : ∀ r ∈ relation, isRelationName r = true) :
    side (rightText name relation) = some (name, relation) := by
  cases relation with
  | none => exact side_class name class_
  | some r => exact side_name_class name r class_ (relation_ r rfl)

theorem isToken_leftText (name : List Char) (relation : Option (List Char))
    (class_ : isClassName name = true) (relation_ : ∀ r ∈ relation, isRelationName r = true) :
    isToken (leftText name relation) = true := by
  have token := isToken_of_isClassName name class_
  cases relation with
  | none => exact token
  | some r =>
    have visible := visible_of_isToken r (isToken_of_isRelationName r (relation_ r rfl))
    refine isToken_append name _ token ?_
    have marks : Text.isBlank '(' = false ∧ Text.isBlank ')' = false := by decide
    simp only [List.all_cons, List.all_append, visible, marks, List.all_nil]
    rfl

theorem isToken_rightText (name : List Char) (relation : Option (List Char))
    (class_ : isClassName name = true) (relation_ : ∀ r ∈ relation, isRelationName r = true) :
    isToken (rightText name relation) = true := by
  have token := isToken_of_isClassName name class_
  cases relation with
  | none => exact token
  | some r =>
    have visible := visible_of_isToken r (isToken_of_isRelationName r (relation_ r rfl))
    have marks : Text.isBlank '(' = false ∧ Text.isBlank ')' = false := by decide
    simp only [rightText, isToken_cons, List.all_append, List.all_cons, visible, marks,
      visible_of_isToken name token]
    rfl

theorem words_three (left middle right : List Char) (left_ : isToken left = true)
    (middle_ : isToken middle = true) (right_ : isToken right = true) :
    words (left ++ ' ' :: (middle ++ ' ' :: right)) = [left, middle, right] := by
  rw [words_token_blank left ' ' _ left_ rfl, words_token_blank middle ' ' _ middle_ rfl,
    words_token right right_]

end Compact

def shownName (name default : String) : Option String :=
  if name = default then none else some name

theorem compactForm_toList (leftClass leftName leftDefault : String) (leftKind : Multiplicity)
    (rightClass rightName rightDefault : String) (rightKind : Multiplicity) :
    (compactForm leftClass leftName leftDefault leftKind rightClass rightName rightDefault
      rightKind).toList =
      Compact.leftText leftClass.toList ((shownName leftName leftDefault).map String.toList) ++
        ' ' :: ((cardinalityText leftKind rightKind).toList ++
          ' ' :: Compact.rightText rightClass.toList
            ((shownName rightName rightDefault).map String.toList)) := by
  have mark : (" " : String).toList = [' '] ∧ ("(" : String).toList = ['('] ∧
      (")" : String).toList = [')'] ∧ ("" : String).toList = [] := by decide
  by_cases left : leftName = leftDefault <;> by_cases right : rightName = rightDefault <;>
    simp [compactForm, shownName, left, right, Compact.leftText, Compact.rightText, mark]

namespace Decl

/-- What the compact form keeps of a declaration: relation names that are the derived ones go. -/
def shortened (d : Decl) : Decl :=
  { left := { d.left with relationName := shownName d.leftName d.defaultLeft }
    right := { d.right with relationName := shownName d.rightName d.defaultRight } }

/-- The class names stand for themselves in compact form, and the text does not begin as a diagram
line does. -/
def isCarried (d : Decl) : Bool :=
  Compact.isClassName d.left.className.toList && Compact.isClassName d.right.className.toList &&
    d.left.className.toList.head? != some '['

def NamesFit (d : Decl) : Prop :=
  (∀ r ∈ d.left.relationName, Compact.isRelationName r.toList = true) ∧
    ∀ r ∈ d.right.relationName, Compact.isRelationName r.toList = true

theorem getD_shownName (name default : String) : (shownName name default).getD default = name := by
  unfold shownName
  split <;> simp_all

theorem withRelationNames_shortened (d : Decl) :
    d.shortened.withRelationNames = d.withRelationNames := by
  simp only [withRelationNames, leftName, rightName, defaultLeft, defaultRight, shortened,
    getD_shownName]

theorem fits_shownName (given_ : Option String) (default : String)
    (fits : ∀ r ∈ given_, Compact.isRelationName r.toList = true) :
    ∀ r ∈ (shownName (given_.getD default) default).map String.toList,
      Compact.isRelationName r = true := by
  intro r member
  cases given_ with
  | none => simp [shownName] at member
  | some name =>
    simp only [shownName, Option.getD_some] at member
    split at member
    · simp at member
    · simp only [Option.map_some, Option.mem_def, Option.some.injEq] at member
      exact member ▸ fits name rfl

theorem ofText_of_not_bracket (text : String) (c : Char) (rest : List Char)
    (start : Text.trimStart text.toList = c :: rest) (plain : c ≠ '[') :
    ofText text = Compact.read text := by
  unfold ofText
  split
  · next rest same =>
    rw [start] at same
    exact absurd (List.cons.inj same).1 plain
  · rfl

theorem trimStart_compact (d : Decl) (text : String) (c : Char) (cs : List Char)
    (written : d.compact = .ok text) (class_ : d.left.className.toList = c :: cs)
    (visible : Text.isBlank c = false) :
    ∃ rest, Text.trimStart text.toList = c :: rest := by
  unfold compact at written
  split at written
  · rw [← Except.ok.inj written, compactForm_toList, class_]
    cases (shownName d.leftName d.defaultLeft) <;>
      exact ⟨_, by simp [Compact.leftText, Text.trimStart, visible]; rfl⟩
  · simp at written

end Decl

namespace Compact

theorem endpoint_of_side (text which : String) (kind : Multiplicity) (raw name : List Char)
    (relation : Option (List Char)) (found : side raw = some (name, relation)) :
    endpoint text which kind raw =
      .ok (.of (String.ofList name) (relation.map String.ofList) kind) := by
  simp [endpoint, found]

theorem endpoint_of_toList (name : String) (relation : Option String) (kind : Multiplicity)
    (fits : ∀ r ∈ relation.map String.toList, isRelationName r = true) :
    Endpoint.of (String.ofList name.toList)
      ((relation.map String.toList).map String.ofList) kind = ⟨name, relation, kind⟩ := by
  cases relation with
  | none => simp [Endpoint.of, given]
  | some r =>
    have filled := ((isRelationName_iff r.toList).1 (fits r.toList rfl)).1
    have named : r ≠ "" := by
      rintro rfl
      exact filled rfl
    simp [Endpoint.of, given, named]

theorem read_words (text : String) (leftKind rightKind : Multiplicity)
    (left right leftName rightName : List Char) (leftRelation rightRelation : Option (List Char))
    (oriented : isOrientation leftKind rightKind = true)
    (parts : words text.toList = [left, (cardinalityText leftKind rightKind).toList, right])
    (leftSide : side left = some (leftName, leftRelation))
    (rightSide : side right = some (rightName, rightRelation)) :
    read text = .ok
      ⟨.of (String.ofList leftName) (leftRelation.map String.ofList) leftKind,
        .of (String.ofList rightName) (rightRelation.map String.ofList) rightKind⟩ := by
  simp only [read, parts, String.ofList_toList,
    kindsOfCardinality?_cardinalityText leftKind rightKind oriented]
  rw [endpoint_of_side text "left" leftKind left leftName leftRelation leftSide,
    endpoint_of_side text "right" rightKind right rightName rightRelation rightSide]
  rfl

theorem isToken_cardinalityText (left right : Multiplicity) :
    isToken (cardinalityText left right).toList = true := by
  cases left <;> cases right <;> decide

end Compact

namespace Decl

theorem read_compact (d : Decl) (oriented : d.isOriented = true)
    (leftClass : Compact.isClassName d.left.className.toList = true)
    (rightClass : Compact.isClassName d.right.className.toList = true) (fit : d.NamesFit) :
    ∃ text, d.compact = .ok text ∧ Compact.read text = .ok d.shortened := by
  have leftFits := fits_shownName d.left.relationName d.defaultLeft fit.1
  have rightFits := fits_shownName d.right.relationName d.defaultRight fit.2
  refine ⟨_, by rw [compact, if_pos oriented], ?_⟩
  have chars := compactForm_toList d.left.className d.leftName d.defaultLeft d.left.kind
    d.right.className d.rightName d.defaultRight d.right.kind
  generalize compactForm d.left.className d.leftName d.defaultLeft d.left.kind
    d.right.className d.rightName d.defaultRight d.right.kind = text at chars ⊢
  -- The text consists of three words: the sides and the cardinality.
  have parts := Compact.words_three _ _ _
    (Compact.isToken_leftText d.left.className.toList _ leftClass leftFits)
    (Compact.isToken_cardinalityText d.left.kind d.right.kind)
    (Compact.isToken_rightText d.right.className.toList _ rightClass rightFits)
  rw [leftName, rightName] at chars
  rw [← chars] at parts
  have compact := Compact.read_words text d.left.kind d.right.kind _ _ _ _ _ _ oriented parts
    (Compact.side_leftText _ _ leftClass leftFits) (Compact.side_rightText _ _ rightClass rightFits)
  rw [Compact.endpoint_of_toList _ _ _ leftFits, Compact.endpoint_of_toList _ _ _ rightFits]
    at compact
  exact compact

theorem ofText_compact (d : Decl) (oriented : d.isOriented = true) (carried : d.isCarried = true)
    (fit : d.NamesFit) :
    ∃ text, d.compact = .ok text ∧ ofText text = .ok d.shortened := by
  have ⟨⟨leftClass, rightClass⟩, start⟩ :
      (Compact.isClassName d.left.className.toList = true ∧
        Compact.isClassName d.right.className.toList = true) ∧
      d.left.className.toList.head? ≠ some '[' := by
    simpa [isCarried] using carried
  obtain ⟨text, written, read_⟩ := read_compact d oriented leftClass rightClass fit
  refine ⟨text, written, ?_⟩
  -- The text begins as the left class name does, so it is not taken for a diagram line.
  obtain ⟨filled, visible, _⟩ := (Compact.isClassName_iff _).1 leftClass
  obtain ⟨c, cs, split⟩ := List.exists_cons_of_ne_nil filled
  obtain ⟨rest, begins⟩ := trimStart_compact d text c cs written split (visible c (by simp [split]))
  rw [ofText_of_not_bracket text c rest begins (by simpa [split] using start)]
  exact read_

end Decl

end PackSpec
