import PackSpec.Proofs.Yaml.Same

set_option autoImplicit false

namespace PackSpec

theorem onto_of_apart {α β : Type} {R : α → β → Prop} (xs : List α) (ys : List β)
    (into : ∀ x ∈ xs, ∃ y ∈ ys, R x y)
    (apart : xs.Pairwise fun x z => ∀ y ∈ ys, R x y → ¬ R z y)
    (length : ys.length ≤ xs.length) : ∀ y ∈ ys, ∃ x ∈ xs, R x y := by
  induction xs generalizing ys with
  | nil =>
    intro y member
    rw [List.eq_nil_of_length_eq_zero (Nat.le_zero.1 length)] at member
    simp at member
  | cons x xs ih =>
    obtain ⟨first, rest⟩ := List.pairwise_cons.1 apart
    obtain ⟨y, inside, related⟩ := into x (by simp)
    obtain ⟨before, after, rfl⟩ := List.append_of_mem inside
    -- What the others are taken to is among the remaining ones, since `y` is taken.
    have remaining : ∀ z ∈ xs, ∃ w ∈ before ++ after, R z w := by
      intro z member
      obtain ⟨w, there, related_⟩ := into z (by simp [member])
      have other : w ≠ y := fun same => first z member y inside related (same ▸ related_)
      exact ⟨w, by simpa [other] using there, related_⟩
    have apart_ : xs.Pairwise fun z w => ∀ v ∈ before ++ after, R z v → ¬ R w v :=
      rest.imp fun none_ v member => none_ v (by
        rcases List.mem_append.1 member with left | right
        · exact List.mem_append_left _ left
        · exact List.mem_append_right _ (List.mem_cons_of_mem y right))
    have others := ih (before ++ after) remaining apart_ (by
      simp only [List.length_append, List.length_cons] at length ⊢
      omega)
    intro w member
    by_cases same : w = y
    · exact ⟨x, by simp, same ▸ related⟩
    · obtain ⟨z, there, related_⟩ := others w (by simpa [same] using member)
      exact ⟨z, by simp [there], related_⟩

theorem Decimal.Binary64.numEq_symm (x y : Decimal.Binary64) (equal : x.numEq y = true) :
    y.numEq x = true := by
  unfold numEq at *
  simp only [Bool.and_eq_true, Bool.or_eq_true, Bool.not_eq_true', beq_iff_eq] at *
  exact ⟨⟨equal.1.2, equal.1.1⟩, equal.2.imp And.symm Eq.symm⟩

namespace Yaml

/-- Every mapping has each of its keys once. -/
inductive Keyed : Yaml → Prop where
  | null : Keyed .null
  | bool (b : Bool) : Keyed (.bool b)
  | int (n : Integer) : Keyed (.int n)
  | float (x : Decimal.Binary64) : Keyed (.float x)
  | str (text : String) : Keyed (.str text)
  | seq (items : List Yaml) (each : ∀ v ∈ items, Keyed v) : Keyed (.seq items)
  | map (es : List (Yaml × Yaml)) (once : es.Pairwise fun e f => same e.1 f.1 = false)
      (keys : ∀ e ∈ es, Keyed e.1) (values : ∀ e ∈ es, Keyed e.2) : Keyed (.map es)
  | tagged (tag : String) (v : Yaml) (inside : Keyed v) : Keyed (.tagged tag v)

theorem sameFloat_symm (x y : Decimal.Binary64) (equal : sameFloat x y = true) :
    sameFloat y x = true := by
  unfold sameFloat at *
  simp only [Bool.or_eq_true, Bool.and_eq_true] at *
  exact equal.imp And.symm (x.numEq_symm y)

theorem entriesIn_symm (es fs : List (Yaml × Yaml)) (length : fs.length ≤ es.length)
    (once : es.Pairwise fun e f => same e.1 f.1 = false)
    (keys : ∀ e ∈ es, ∀ f ∈ fs, same e.1 f.1 = true → same f.1 e.1 = true)
    (values : ∀ e ∈ es, ∀ f ∈ fs, same e.2 f.2 = true → same f.2 e.2 = true)
    (inside : entriesIn es fs = true) : entriesIn fs es = true := by
  rw [entriesIn_iff] at inside ⊢
  have apart : es.Pairwise fun e g => ∀ f ∈ fs,
      same e.1 f.1 = true ∧ same e.2 f.2 = true →
        ¬ (same g.1 f.1 = true ∧ same g.2 f.2 = true) := by
    -- Two keys that are the same as a third one are the same.
    refine once.imp_of_mem fun {e g} _ there differ f member first second => ?_
    have both := same_trans _ _ _ first.1 (keys g there f member second.1)
    simp [differ] at both
  intro f member
  obtain ⟨e, there, key, value⟩ := onto_of_apart es fs inside apart length f member
  exact ⟨e, there, keys e there f member key, values e there f member value⟩

mutual

theorem same_symm : ∀ a b : Yaml, Keyed a → Keyed b → same a b = true → same b a = true
  | .null, b, _, _, ab => by cases b <;> simp [same] at ab ⊢
  | .bool _, b, _, _, ab => by cases b <;> simp [same] at ab ⊢; exact ab.symm
  | .int _, b, _, _, ab => by cases b <;> simp [same] at ab ⊢; exact ab.symm
  | .str _, b, _, _, ab => by cases b <;> simp [same] at ab ⊢; exact ab.symm
  | .float x, b, _, _, ab => by
    cases b <;> simp only [same, Bool.false_eq_true] at ab ⊢
    exact sameFloat_symm _ _ ab
  | .seq xs, b, .seq _ a, kb, ab => by
    cases kb <;> simp only [same, Bool.false_eq_true] at ab ⊢
    next each => exact sameItems_symm xs _ a each ab
  | .map es, b, .map _ once keys values, kb, ab => by
    cases kb <;> simp only [same, Bool.false_eq_true, Bool.and_eq_true, beq_iff_eq] at ab ⊢
    next fs once_ keys_ values_ =>
      have each := entries_symm es
      refine ⟨ab.1.symm, entriesIn_symm es fs (Nat.le_of_eq ab.1.symm) once ?_ ?_ ab.2⟩
      · intro e there f member
        exact (each e there).1 f.1 (keys e there) (keys_ f member)
      · intro e there f member
        exact (each e there).2 f.2 (values e there) (values_ f member)
  | .tagged _ v, b, .tagged _ _ a, kb, ab => by
    cases kb <;> simp only [same, Bool.false_eq_true, Bool.and_eq_true, beq_iff_eq] at ab ⊢
    next inside => exact ⟨ab.1.symm, same_symm v _ a inside ab.2⟩

theorem sameItems_symm : ∀ xs ys : List Yaml, (∀ v ∈ xs, Keyed v) → (∀ v ∈ ys, Keyed v) →
    sameItems xs ys = true → sameItems ys xs = true
  | [], [], _, _, _ => rfl
  | [], _ :: _, _, _, ab => by simp [sameItems] at ab
  | _ :: _, [], _, _, ab => by simp [sameItems] at ab
  | x :: xs, y :: ys, kx, ky, ab => by
    simp only [sameItems, Bool.and_eq_true] at ab ⊢
    exact ⟨same_symm x y (kx x (by simp)) (ky y (by simp)) ab.1,
      sameItems_symm xs ys (fun v member => kx v (by simp [member]))
        (fun v member => ky v (by simp [member])) ab.2⟩

theorem entries_symm : ∀ es : List (Yaml × Yaml), ∀ e ∈ es,
    (∀ b, Keyed e.1 → Keyed b → same e.1 b = true → same b e.1 = true) ∧
      ∀ b, Keyed e.2 → Keyed b → same e.2 b = true → same b e.2 = true
  | [], _, member => by simp at member
  | (key, v) :: es, e, member => by
    rcases List.mem_cons.1 member with rfl | later
    · exact ⟨same_symm key, same_symm v⟩
    · exact entries_symm es e later

end

end Yaml

end PackSpec
