import PackSpec.Proofs.Relationship.Redrawn

set_option autoImplicit false

namespace PackSpec

namespace Text.Case

theorem lower_ne_nil (c : Char) : lower c ≠ [] := by
  have filled : ∀ s ∈ lowerSequences, s.2 ≠ [] := by decide
  unfold lower convert
  split
  · next codes found =>
    obtain ⟨before, behind, split_, -⟩ := List.lookup_eq_some_iff.1 found
    rw [Ne, List.map_eq_nil_iff]
    exact filled (c.toNat, codes) (split_ ▸ by simp)
  · split <;> exact List.cons_ne_nil _ _

theorem lowerText_ne_nil (cs : List Char) (filled : cs ≠ []) : lowerText cs ≠ [] := by
  obtain ⟨c, rest, rfl⟩ := List.exists_cons_of_ne_nil filled
  rw [lowerText, lowerFrom]
  refine List.append_ne_nil_of_left_ne_nil ?_ _
  split
  · exact List.cons_ne_nil _ _
  · exact lower_ne_nil c

end Text.Case

theorem Naming.lowerLeading_ne_nil (cs : List Char) (filled : cs ≠ []) : lowerLeading cs ≠ [] := by
  obtain ⟨c, rest, rfl⟩ := List.exists_cons_of_ne_nil filled
  rw [lowerLeading]
  split
  · exact List.append_ne_nil_of_left_ne_nil (Text.Case.lower_ne_nil c) _
  · exact List.cons_ne_nil _ _

theorem derivedName_ne_empty (kind : Multiplicity) (className : String) (named : className ≠ "") :
    derivedName kind className ≠ "" := by
  have filled : className.toList ≠ [] := by simpa using named
  have stem : (if Naming.isQualified className then Naming.flatten className
      else className.toList) ≠ [] := by
    split
    · exact Text.Case.lowerText_ne_nil _ (by simpa using named)
    · exact filled
  rw [derivedName, Naming.relationName, Ne, ← String.toList_inj, String.toList_ofList]
  exact List.append_ne_nil_of_left_ne_nil (Naming.lowerLeading_ne_nil _ stem) _

namespace Schema

/-- The views of the two sides are each other's, cardinalities included. -/
structure Mirrored (s : Schema) : Prop where
  left : s.leftView.opposite = s.rightView
  right : s.rightView.opposite = s.leftView
  cardinality : s.leftView.cardinality = s.cardinality
  leftTurned : turned s.leftView.cardinality = s.rightView.cardinality
  rightTurned : turned s.rightView.cardinality = s.leftView.cardinality

theorem mirrored (s : Schema) : s.Mirrored :=
  ⟨s.opposite_leftView, s.opposite_rightView, rfl, turned_cardinalityText _ _,
    turned_cardinalityText _ _⟩

end Schema

namespace Decl

structure Filled (d : Decl) : Prop where
  leftClass : d.left.className ≠ ""
  rightClass : d.right.className ≠ ""
  leftName : d.left.relationName ≠ some ""
  rightName : d.right.relationName ≠ some ""

theorem given_of_ne_empty (relationName : Option String) (filled : relationName ≠ some "") :
    given relationName = relationName := by
  cases relationName with
  | none => rfl
  | some r => rw [given_some, if_neg fun empty => filled (congrArg some empty)]

namespace Filled

variable {d : Decl} {s t : Schema} {ns : String}

theorem swapped (filled : d.Filled) : d.swapped.Filled :=
  ⟨filled.rightClass, filled.leftClass, filled.rightName, filled.leftName⟩

theorem leftGiven (filled : d.Filled) :
    (given d.left.relationName).getD d.defaultLeft = d.leftName := by
  rw [given_of_ne_empty _ filled.leftName, Decl.leftName]

theorem rightGiven (filled : d.Filled) :
    (given d.right.relationName).getD d.defaultRight = d.rightName := by
  rw [given_of_ne_empty _ filled.rightName, Decl.rightName]

theorem leftName_ne_empty (filled : d.Filled) : d.leftName ≠ "" := by
  intro empty
  rw [← filled.leftGiven] at empty
  exact derivedName_ne_empty _ _ filled.rightClass (given_empty _ _ empty)

theorem rightName_ne_empty (filled : d.Filled) : d.rightName ≠ "" :=
  filled.swapped.leftName_ne_empty

theorem refused (filled : d.Filled) (ns : String) (permitted : d.isOriented = false) :
    ∃ left right, d.compact = .error (.orientation left right) ∧
      d.resolve ns = .error (.orientation left right) := by
  refine ⟨_, _, by rw [compact, permitted]; rfl, ?_⟩
  have other : ¬ isOrientation d.left.kind d.right.kind = true := by
    rw [← isOriented, permitted]
    exact Bool.false_ne_true
  have left := filled.leftGiven
  have right := filled.rightGiven
  rw [defaultLeft] at left
  rw [defaultRight] at right
  rw [resolve, Schema.resolve, dif_neg other, left, right]
  rfl

theorem compact_eq (filled : d.Filled) (declares : d.Declares s) : d.compact = .ok s.compact := by
  have permitted := d.oriented_of_declares s declares
  obtain ⟨leftClass, rightClass, leftKind, rightKind, left, right⟩ := declares
  rw [filled.leftGiven] at left
  rw [filled.rightGiven] at right
  rw [compact, if_pos permitted, Schema.compact, defaultLeft, defaultRight, Schema.defaultLeft,
    Schema.defaultRight, leftClass, rightClass, leftKind, rightKind, left, right]

theorem declaration_eq (filled : d.Filled) (declares : d.Declares s) :
    s.declaration = d.withRelationNames := by
  obtain ⟨leftClass, rightClass, leftKind, rightKind, left, right⟩ := declares
  rw [filled.leftGiven] at left
  rw [filled.rightGiven] at right
  rw [Schema.declaration, withRelationNames, ← leftClass, ← rightClass, ← leftKind, ← rightKind,
    ← left, ← right, Endpoint.of, Endpoint.of, given_some, given_some,
    if_neg filled.leftName_ne_empty, if_neg filled.rightName_ne_empty]

theorem view_swapped (declares : d.Declares s) (swapped_ : d.swapped.Declares t)
    (resolved : s.Resolved ns) (resolved_ : t.Resolved ns) : t.leftView = s.rightView := by
  obtain ⟨leftClass, rightClass, leftKind, rightKind, left, right⟩ := declares
  obtain ⟨leftClass_, rightClass_, leftKind_, rightKind_, left_, right_⟩ := swapped_
  simp only [Decl.swapped] at leftClass_ rightClass_ leftKind_ rightKind_ left_ right_
  have near : t.left.relationName = s.right.relationName := left_.symm.trans right
  have far : t.right.relationName = s.left.relationName := right_.symm.trans left
  rw [Schema.leftView, Schema.rightView, resolved.left, resolved.right, resolved_.left,
    resolved_.right, ← leftClass_, ← rightClass_, ← leftKind_, ← rightKind_, leftClass, rightClass,
    leftKind, rightKind, near, far]

end Filled

theorem swapped_oriented_iff (d : Decl) (permitted : d.isOriented = true) :
    d.swapped.isOriented = true ↔ d.left.kind = d.right.kind := by
  unfold isOriented swapped at *
  revert permitted
  cases d.left.kind <;> cases d.right.kind <;> decide

theorem oriented_of_resolve (d : Decl) (ns : String) (s : Schema) (resolved : d.resolve ns = .ok s) :
    d.isOriented = true := by
  by_contra other
  unfold isOriented at other
  rw [resolve, Schema.resolve, dif_neg other] at resolved
  cases resolved

/-- Writing a declaration and resolving it succeed alike, or are refused with the same words. What it
resolves to is written in the same way and declared by it with its names spelled out, which resolves to
the same views; the sides change places exactly where they are of one kind. -/
theorem resolves_as_declared (ns : String) (d : Decl) (filled : d.Filled) :
    (d.isOriented = false ∧ ∃ left right, d.compact = .error (.orientation left right) ∧
        d.resolve ns = .error (.orientation left right)) ∨
      d.isOriented = true ∧ ∃ s, d.resolve ns = .ok s ∧ d.compact = .ok s.compact ∧
        s.declaration = d.withRelationNames ∧
        (∃ t, s.declaration.resolve ns = .ok t ∧ t.leftView = s.leftView ∧
          t.rightView = s.rightView) ∧
        s.Mirrored ∧
        ((∃ t, d.swapped.resolve ns = .ok t) ↔ d.left.kind = d.right.kind) ∧
        ∀ t, d.swapped.resolve ns = .ok t → t.leftView = s.rightView := by
  cases permitted : d.isOriented with
  | false => exact .inl ⟨rfl, filled.refused ns permitted⟩
  | true =>
    obtain ⟨s, resolves, declares⟩ := d.resolves_of_oriented ns permitted
    have resolved := d.resolved_of_schema? ns s ((schema?_eq_some ns d s).2 resolves)
    obtain ⟨t, again, views, -⟩ := schema?_of_declares ns s.declaration s resolved
      (s.declares_declaration ns resolved)
    refine .inr ⟨rfl, s, resolves, filled.compact_eq declares, filled.declaration_eq declares,
      ⟨t, (schema?_eq_some _ _ _).1 again, by simpa [Schema.views] using views⟩, s.mirrored, ?_, ?_⟩
    · rw [← d.swapped_oriented_iff permitted]
      constructor
      · rintro ⟨u, resolves_⟩
        exact d.swapped.oriented_of_resolve ns u resolves_
      · intro permitted_
        obtain ⟨u, resolves_, -⟩ := d.swapped.resolves_of_oriented ns permitted_
        exact ⟨u, resolves_⟩
    · intro u resolves_
      obtain ⟨u', resolves', declares_⟩ :=
        d.swapped.resolves_of_oriented ns (d.swapped.oriented_of_resolve ns u resolves_)
      obtain rfl : u' = u := Except.ok.inj (resolves'.symm.trans resolves_)
      exact Filled.view_swapped declares declares_ resolved
        (d.swapped.resolved_of_schema? ns u' ((schema?_eq_some ns _ u').2 resolves_))

def pods : Decl :=
  ⟨⟨"core.Device", some "pods", .multiOwning⟩, ⟨"Pod", none, .single⟩⟩

theorem resolves_pods :
    pods.Filled ∧ ∃ s, pods.resolve "ZenPacks.test.Pods" = .ok s ∧
      s.compact = "core.Device 1:MC Pod" ∧
      s.declaration =
        ⟨⟨"core.Device", some "pods", .multiOwning⟩, ⟨"Pod", some "core_device", .single⟩⟩ ∧
      s.Mirrored ∧
      ((∃ t, pods.swapped.resolve "ZenPacks.test.Pods" = .ok t) ↔
        Multiplicity.multiOwning = .single) := by
  have filled : pods.Filled := ⟨by decide, by decide, by decide, by decide⟩
  have written : pods.compact = .ok "core.Device 1:MC Pod" := by decide +kernel
  have names : pods.withRelationNames =
      ⟨⟨"core.Device", some "pods", .multiOwning⟩, ⟨"Pod", some "core_device", .single⟩⟩ := by
    decide +kernel
  rcases resolves_as_declared "ZenPacks.test.Pods" pods filled with ⟨other, -⟩ | ⟨-, s, told⟩
  · cases other
  · obtain ⟨resolves, same, declaration, -, mirrored, swapped, -⟩ := told
    exact ⟨filled, s, resolves, Except.ok.inj (same.symm.trans written), declaration.trans names,
      mirrored, swapped⟩

end Decl

end PackSpec
