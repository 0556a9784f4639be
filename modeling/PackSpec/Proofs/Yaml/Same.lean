import PackSpec.Yaml.Value

set_option autoImplicit false

namespace PackSpec

namespace Decimal.Binary64

theorem numEq_refl (x : Binary64) (number : x.isNaN = false) : x.numEq x = true := by
  simp [numEq, number]

theorem numEq_trans (x y z : Binary64) (first : x.numEq y = true) (next : y.numEq z = true) :
    x.numEq z = true := by
  unfold numEq at *
  simp only [Bool.and_eq_true, Bool.or_eq_true, Bool.not_eq_true', beq_iff_eq] at *
  obtain ⟨⟨numberX, _⟩, equal⟩ := first
  obtain ⟨⟨_, numberZ⟩, equal_⟩ := next
  refine ⟨⟨numberX, numberZ⟩, ?_⟩
  -- Both zeros are one number; all other numbers are equal to themselves only.
  rcases equal with zeros | rfl
  · rcases equal_ with zeros_ | rfl
    · exact .inl ⟨zeros.1, zeros_.2⟩
    · exact .inl zeros
  · exact equal_

end Decimal.Binary64

namespace Yaml

theorem sameFloat_refl (x : Decimal.Binary64) : sameFloat x x = true := by
  unfold sameFloat
  cases nan : x.isNaN with
  | true => rfl
  | false => simp [x.numEq_refl nan]

theorem sameFloat_trans (x y z : Decimal.Binary64) (first : sameFloat x y = true)
    (next : sameFloat y z = true) : sameFloat x z = true := by
  have numbers (x y : Decimal.Binary64) (equal : x.numEq y = true) :
      x.isNaN = false ∧ y.isNaN = false := by
    simp only [Decimal.Binary64.numEq, Bool.and_eq_true, Bool.not_eq_true'] at equal
    exact equal.1
  simp only [sameFloat, Bool.or_eq_true, Bool.and_eq_true] at *
  rcases first with nans | equal
  · rcases next with nans_ | equal_
    · exact .inl ⟨nans.1, nans_.2⟩
    · simp [(numbers y z equal_).1] at nans
  · rcases next with nans_ | equal_
    · simp [(numbers x y equal).2] at nans_
    · exact .inr (x.numEq_trans y z equal equal_)

theorem entriesIn_iff (es other : List (Yaml × Yaml)) :
    entriesIn es other = true ↔
      ∀ e ∈ es, ∃ f ∈ other, same e.1 f.1 = true ∧ same e.2 f.2 = true := by
  induction es with
  | nil => simp [entriesIn]
  | cons e es ih =>
    obtain ⟨key, v⟩ := e
    rw [entriesIn, Bool.and_eq_true, ih, List.any_eq_true]
    simp

mutual

theorem same_refl : ∀ v : Yaml, same v v = true
  | .null => rfl
  | .bool b => by simp [same]
  | .int n => by simp [same]
  | .float x => by simp [same, sameFloat_refl]
  | .str text => by simp [same]
  | .seq items => by rw [same, sameItems_refl items]
  | .map es => by rw [same, entriesIn_self es es fun _ member => member]; simp
  | .tagged tag v => by rw [same, same_refl v]; simp

theorem sameItems_refl : ∀ vs : List Yaml, sameItems vs vs = true
  | [] => rfl
  | v :: vs => by rw [sameItems, same_refl v, sameItems_refl vs]; rfl

theorem entriesIn_self : ∀ es other : List (Yaml × Yaml), (∀ e ∈ es, e ∈ other) →
    entriesIn es other = true
  | [], _, _ => rfl
  | (key, v) :: es, other, inside => by
    have here : (other.any fun e => same key e.1 && same v e.2) = true :=
      List.any_eq_true.2 ⟨(key, v), inside _ (by simp), by simp [same_refl key, same_refl v]⟩
    rw [entriesIn, here, entriesIn_self es other fun e member => inside e (by simp [member])]
    rfl

end

mutual

theorem same_trans : ∀ a b c : Yaml, same a b = true → same b c = true → same a c = true
  | .null, b, c, ab, bc => by cases b <;> simp [same] at ab; exact bc
  | .bool _, b, c, ab, bc => by cases b <;> simp [same] at ab; rw [ab]; exact bc
  | .int _, b, c, ab, bc => by cases b <;> simp [same] at ab; rw [ab]; exact bc
  | .str _, b, c, ab, bc => by cases b <;> simp [same] at ab; rw [ab]; exact bc
  | .float x, b, c, ab, bc => by
    cases b <;> simp only [same, Bool.false_eq_true] at ab
    cases c <;> simp only [same, Bool.false_eq_true] at bc ⊢
    exact sameFloat_trans _ _ _ ab bc
  | .seq xs, b, c, ab, bc => by
    cases b <;> simp only [same, Bool.false_eq_true] at ab
    cases c <;> simp only [same, Bool.false_eq_true] at bc ⊢
    exact sameItems_trans xs _ _ ab bc
  | .map es, b, c, ab, bc => by
    cases b <;> simp only [same, Bool.false_eq_true] at ab
    cases c <;> simp only [same, Bool.false_eq_true] at bc ⊢
    simp only [Bool.and_eq_true, beq_iff_eq] at ab bc ⊢
    exact ⟨ab.1.trans bc.1, entriesIn_trans es _ _ ab.2 bc.2⟩
  | .tagged _ v, b, c, ab, bc => by
    cases b <;> simp only [same, Bool.false_eq_true] at ab
    cases c <;> simp only [same, Bool.false_eq_true] at bc ⊢
    simp only [Bool.and_eq_true, beq_iff_eq] at ab bc ⊢
    exact ⟨ab.1.trans bc.1, same_trans v _ _ ab.2 bc.2⟩

theorem sameItems_trans : ∀ xs ys zs : List Yaml, sameItems xs ys = true →
    sameItems ys zs = true → sameItems xs zs = true
  | [], [], _, _, bc => bc
  | [], _ :: _, _, ab, _ => by simp [sameItems] at ab
  | _ :: _, [], _, ab, _ => by simp [sameItems] at ab
  | _ :: _, _ :: _, [], _, bc => by simp [sameItems] at bc
  | x :: xs, y :: ys, z :: zs, ab, bc => by
    simp only [sameItems, Bool.and_eq_true] at ab bc ⊢
    exact ⟨same_trans x y z ab.1 bc.1, sameItems_trans xs ys zs ab.2 bc.2⟩

theorem entriesIn_trans : ∀ es fs gs : List (Yaml × Yaml), entriesIn es fs = true →
    entriesIn fs gs = true → entriesIn es gs = true
  | [], _, _, _, _ => rfl
  | (key, v) :: es, fs, gs, ab, bc => by
    rw [entriesIn, Bool.and_eq_true] at ab ⊢
    refine ⟨?_, entriesIn_trans es fs gs ab.2 bc⟩
    obtain ⟨f, inside, found⟩ := List.any_eq_true.1 ab.1
    rw [Bool.and_eq_true] at found
    obtain ⟨g, inside_, key_, v_⟩ := (entriesIn_iff fs gs).1 bc f inside
    refine List.any_eq_true.2 ⟨g, inside_, ?_⟩
    rw [same_trans key _ _ found.1 key_, same_trans v _ _ found.2 v_]
    rfl

end

end Yaml

end PackSpec
