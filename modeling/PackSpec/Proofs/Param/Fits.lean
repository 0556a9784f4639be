import PackSpec.Proofs.Param.Every

set_option autoImplicit false

namespace PackSpec

namespace Param

/-- The values that entries which have been built may hold. -/
def Shape.holds : Shape → Param.Value → Bool
  | .bool, .bool _ | .int, .int _ | .float, .float _ | .str, .str _ | .strs, .strs _ => true
  | .classRef, .classRef _ | .classRefs, .classRefs _ => true
  | .relationship, .relationship _ | .relationships, .relationships _ => true
  | .severity, .severity _ | .dict, .dict _ => true
  | .specs child, .specs k _ | .groups child, .groups k _ => k = child
  | .typedBy _, .bool _ | .typedBy _, .int _ | .typedBy _, .float _ => true
  | .typedBy _, .str _ | .typedBy _, .strs _ => true
  | _, _ => false

def Fits (p : Param) (v : Param.Value) : Prop :=
  (v = .null ∧ p.defaultValue = some .null) ∨ p.shape.holds v = true

def Shape.isPlain : Shape → Bool
  | .classRef | .relationship | .typedBy _ => false
  | _ => true

theorem holds_accept (s : Shape) (v w : Param.Value) (plain : s.isPlain = true)
    (accepted : s.accept v = some w) : (w = .null ∧ v = .null) ∨ s.holds w = true := by
  cases s with
  | classRef | relationship | typedBy => simp [Shape.isPlain] at plain
  | specs child =>
    right
    cases v with
    | null => rw [← Option.some.inj accepted]; simp [Shape.holds]
    | specs found cs =>
      rw [Shape.accept] at accepted
      split at accepted
      · rw [← Option.some.inj accepted]; simp [Shape.holds]
      · simp at accepted
    | _ => simp [Shape.accept] at accepted
  | groups child =>
    right
    cases v with
    | null => rw [← Option.some.inj accepted]; simp [Shape.holds]
    | groups found gs =>
      rw [Shape.accept] at accepted
      split at accepted
      · rw [← Option.some.inj accepted]; simp [Shape.holds]
      · simp at accepted
    | _ => simp [Shape.accept] at accepted
  | severity =>
    cases v with
    | null => exact .inl ⟨(Option.some.inj accepted).symm, rfl⟩
    | severity level => rw [← Option.some.inj accepted]; exact .inr rfl
    | int n =>
      simp only [Shape.accept, Option.map_eq_some_iff] at accepted
      obtain ⟨level, _, rfl⟩ := accepted
      exact .inr rfl
    | _ => simp [Shape.accept] at accepted
  | _ =>
    cases v <;> first
      | exact .inl ⟨(Option.some.inj accepted).symm, rfl⟩
      | (rw [← Option.some.inj accepted]; exact .inr rfl)
      | simp [Shape.accept] at accepted

theorem settled_null (p : Param) (found : Option Param.Value)
    (settled_ : p.settled found = some .null) : p.defaultValue = some .null := by
  cases found with
  | none => exact settled_
  | some v =>
    by_cases null : v = .null
    · rw [null] at settled_
      exact settled_
    · rw [p.settled_some v null] at settled_
      exact absurd (Option.some.inj settled_) null

theorem fits_read (k : Kind) (p : Param) (found : Option Param.Value)
    (plain : p.shape.isPlain = true) (readable : ∃ v, p.reading k found = .ok v) :
    Fits p (p.read k found) := by
  obtain ⟨w, reads⟩ := readable
  obtain ⟨v, settled_, accepted⟩ := p.reading_ok k found w reads
  rw [p.read_of_reading k found w reads]
  rcases holds_accept p.shape v w plain accepted with ⟨rfl, rfl⟩ | held
  · exact .inl ⟨rfl, p.settled_null found settled_⟩
  · exact .inr held

theorem accept_collection (s : Shape) (v w : Param.Value) (child : Kind)
    (collection : s.child? = some child) (accepted : s.accept v = some w) :
    w = v ∨ w = s.emptyValue := by
  cases s with
  | specs declared =>
    cases v with
    | null => exact .inr (Option.some.inj accepted).symm
    | specs found cs =>
      rw [Shape.accept] at accepted
      split at accepted
      · next same => exact .inl (by rw [← Option.some.inj accepted, same])
      · simp at accepted
    | _ => simp [Shape.accept] at accepted
  | groups declared =>
    cases v with
    | null => exact .inr (Option.some.inj accepted).symm
    | groups found gs =>
      rw [Shape.accept] at accepted
      split at accepted
      · next same => exact .inl (by rw [← Option.some.inj accepted, same])
      · simp at accepted
    | _ => simp [Shape.accept] at accepted
  | _ => simp [Shape.child?] at collection

theorem defaultValue_collection (p : Param) (d : Param.Value) (child : Kind)
    (collection : p.shape.child? = some child) (fits : p.default.fits p.shape = true)
    (given_ : p.defaultValue = some d) : d = p.shape.emptyValue := by
  unfold defaultValue at given_
  cases made : p.default with
  | required => simp [made] at given_
  | empty =>
    rw [made] at given_
    exact (Option.some.inj given_).symm
  | _ =>
    rw [made] at fits
    cases shape : p.shape <;> simp_all [Default.fits, Shape.child?]

theorem read_collection (k : Kind) (p : Param) (found : Option Param.Value) (child : Kind)
    (member : p ∈ k.params) (collection : p.shape.child? = some child)
    (readable : ∃ v, p.reading k found = .ok v) :
    found = some (p.read k found) ∨ p.read k found = p.shape.emptyValue := by
  obtain ⟨w, reads⟩ := readable
  obtain ⟨v, settled_, accepted⟩ := p.reading_ok k found w reads
  rw [p.read_of_reading k found w reads]
  have nothing (given_ : p.defaultValue = some v) : w = p.shape.emptyValue := by
    have empty := p.defaultValue_collection v child collection (k.fits_defaults p member) given_
    rcases accept_collection _ _ _ child collection accepted with rfl | same
    · exact empty
    · exact same
  cases found with
  | none => exact .inr (nothing settled_)
  | some u =>
    by_cases null : u = .null
    · rw [null] at settled_
      exact .inr (nothing settled_)
    · rw [p.settled_some u null] at settled_
      obtain rfl := Option.some.inj settled_
      rcases accept_collection _ _ _ child collection accepted with rfl | same
      · exact .inl rfl
      · exact .inr same

theorem child?_of_holds (s : Shape) (v : Param.Value) (held : s.holds v = true) :
    v.child? = s.child? := by
  cases s <;> cases v <;> simp_all [Shape.holds, Param.Value.child?, Shape.child?]

theorem child?_of_fits (p : Param) (v : Param.Value) (fits : p.Fits v)
    (flat : p.shape.child? = none) : v.child? = none := by
  rcases fits with ⟨rfl, _⟩ | held
  · rfl
  · rw [child?_of_holds p.shape v held, flat]

theorem ne_relationships_of_fits (p : Param) (v : Param.Value) (fits : p.Fits v)
    (other : p.shape ≠ .relationships) (ds : List Decl) : v ≠ .relationships ds := by
  rintro rfl
  rcases fits with ⟨null, _⟩ | held
  · simp at null
  · cases shape : p.shape <;> simp_all [Shape.holds]

theorem default_ne_null (p : Param) (collection : p.shape.isCollection = true) :
    p.defaultValue ≠ some .null := by
  intro null
  unfold defaultValue at null
  cases made : p.default with
  | empty =>
    rw [made] at null
    simp [Shape.isCollection, Option.some.inj null, Param.Value.isNull] at collection
  | int n =>
    rw [made] at null
    by_cases float : p.shape = .float <;> simp [float] at null
  | _ => simp [made] at null

theorem specs_of_fits (p : Param) (v : Param.Value) (child : Kind) (shape : p.shape = .specs child)
    (fits : p.Fits v) : ∃ cs, v = .specs child cs := by
  rcases fits with ⟨_, null⟩ | held
  · exact absurd null (p.default_ne_null (by rw [shape]; rfl))
  · rw [shape] at held
    cases v <;> simp_all [Shape.holds]

theorem groups_of_fits (p : Param) (v : Param.Value) (child : Kind)
    (shape : p.shape = .groups child) (fits : p.Fits v) : ∃ gs, v = .groups child gs := by
  rcases fits with ⟨_, null⟩ | held
  · exact absurd null (p.default_ne_null (by rw [shape]; rfl))
  · rw [shape] at held
    cases v <;> simp_all [Shape.holds]

end Param

end PackSpec
