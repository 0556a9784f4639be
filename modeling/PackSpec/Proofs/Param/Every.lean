import PackSpec.Proofs.Node.Reading

set_option autoImplicit false

namespace PackSpec

namespace Param.Value

def entries : Param.Value → List Params
  | .specs _ cs => cs.map Prod.snd
  | .groups _ gs => gs.flatMap fun g => g.2.map Prod.snd
  | _ => []

def child? : Param.Value → Option Kind
  | .specs k _ | .groups k _ => some k
  | _ => none

inductive Every (P : Param.Value → Prop) : Param.Value → Prop
  | intro (v : Param.Value) (here : P v)
      (inside : ∀ ps ∈ v.entries, ∀ e ∈ ps, Every P e.2) : Every P v

variable {P Q : Param.Value → Prop}

theorem Every.here {v : Param.Value} (h : v.Every P) : P v := by
  cases h with
  | intro _ here _ => exact here

theorem Every.inside {v : Param.Value} (h : v.Every P) :
    ∀ ps ∈ v.entries, ∀ e ∈ ps, e.2.Every P := by
  cases h with
  | intro _ _ inside => exact inside

theorem Every.flat {v : Param.Value} (here : P v) (none_ : v.entries = []) : v.Every P :=
  .intro v here fun ps member => by simp [none_] at member

theorem mem_entries_specs (k : Kind) (cs : Children) (ps : Params) :
    ps ∈ (Param.Value.specs k cs).entries ↔ ∃ e ∈ cs, e.2 = ps := by
  simp [entries]

theorem mem_entries_groups (k : Kind) (gs : Groups) (ps : Params) :
    ps ∈ (Param.Value.groups k gs).entries ↔ ∃ g ∈ gs, ∃ e ∈ g.2, e.2 = ps := by
  simp [entries]

end Param.Value

/-- The property holds of every value of the entry and below. -/
def Params.Every (P : Param.Value → Prop) (ps : Params) : Prop := ∀ e ∈ ps, e.2.Every P

namespace Params

variable {P : Param.Value → Prop}

theorem every_nil : Every P [] := by
  intro e member
  simp at member

theorem every_put (ps : Params) (name : String) (v : Param.Value) (all : Every P ps)
    (new : v.Every P) : Every P (Entries.put ps name v) := by
  intro e member
  rcases Entries.mem_put ps name v e member with old | rfl
  · exact all e old
  · exact new

theorem every_fill (own defaults : Params) (ownAll : Every P own) (defaultsAll : Every P defaults) :
    Every P (Overlay.fill own defaults) := by
  intro e member
  rcases List.mem_append.1 member with there | filled
  · exact ownAll e there
  · exact defaultsAll e (List.mem_filter.1 filled).1

theorem every_get? (ps : Params) (name : String) (v : Param.Value) (all : Every P ps)
    (found : Entries.get? ps name = some v) : v.Every P :=
  all (name, v) (Entries.mem_of_get? ps name v found)

theorem every_of_shallow (ps : Params) (here : ∀ e ∈ ps, P e.2)
    (inside : ∀ e ∈ ps, ∀ qs ∈ e.2.entries, ∀ f ∈ qs, P f.2 ∧ f.2.entries = []) : Every P ps := by
  intro e member
  refine .intro _ (here e member) fun qs below f there => ?_
  obtain ⟨holds, flat⟩ := inside e member qs below f there
  exact .flat holds flat

end Params

namespace Param

theorem entries_defaultValue (p : Param) (v : Param.Value) (given_ : p.defaultValue = some v) :
    v.entries = [] := by
  unfold defaultValue at given_
  split at given_
  · simp at given_
  · rw [← Option.some.inj given_]
    cases p.shape <;> rfl
  all_goals (
    rw [← Option.some.inj given_]
    first
    | rfl
    | (split <;> rfl))

theorem accept_cases (s : Shape) (v w : Param.Value) (accepted : s.accept v = some w) :
    w = v ∨ w.entries = [] := by
  -- Only collections have entries, and they are accepted as they stand or as empty ones.
  cases s with
  | classRef | relationship | typedBy => exact .inl (Option.some.inj accepted).symm
  | specs child =>
    cases v with
    | null => exact .inr (by rw [← Option.some.inj accepted]; rfl)
    | specs found cs =>
      rw [Shape.accept] at accepted
      split at accepted
      · next same => exact .inl (by rw [← Option.some.inj accepted, same])
      · simp at accepted
    | _ => simp [Shape.accept] at accepted
  | groups child =>
    cases v with
    | null => exact .inr (by rw [← Option.some.inj accepted]; rfl)
    | groups found gs =>
      rw [Shape.accept] at accepted
      split at accepted
      · next same => exact .inl (by rw [← Option.some.inj accepted, same])
      · simp at accepted
    | _ => simp [Shape.accept] at accepted
  | severity =>
    right
    cases v with
    | null | severity _ => rw [← Option.some.inj accepted]; rfl
    | int n =>
      obtain ⟨level, _, rfl⟩ := Option.map_eq_some_iff.1 accepted
      rfl
    | _ => simp [Shape.accept] at accepted
  | _ =>
    right
    cases v <;> first
      | (rw [← Option.some.inj accepted]; rfl)
      | simp [Shape.accept] at accepted

theorem child?_accept (s : Shape) (v w : Param.Value) (accepted : s.accept v = some w) (child : Kind)
    (collection : s.child? = some child) : w.child? = some child := by
  cases s with
  | specs declared =>
    obtain rfl := Option.some.inj collection
    cases v with
    | null => rw [← Option.some.inj accepted]; rfl
    | specs found cs =>
      rw [Shape.accept] at accepted
      split at accepted
      · rw [← Option.some.inj accepted]; rfl
      · simp at accepted
    | _ => simp [Shape.accept] at accepted
  | groups declared =>
    obtain rfl := Option.some.inj collection
    cases v with
    | null => rw [← Option.some.inj accepted]; rfl
    | groups found gs =>
      rw [Shape.accept] at accepted
      split at accepted
      · rw [← Option.some.inj accepted]; rfl
      · simp at accepted
    | _ => simp [Shape.accept] at accepted
  | _ => simp [Shape.child?] at collection

theorem reading_ok (k : Kind) (p : Param) (found : Option Param.Value) (w : Param.Value)
    (reads : p.reading k found = .ok w) :
    ∃ v, p.settled found = some v ∧ p.shape.accept v = some w := by
  unfold reading at reads
  split at reads
  · simp at reads
  · next v settled_ =>
    split at reads
    · next accepted =>
      obtain rfl := Except.ok.inj reads
      exact ⟨v, settled_, accepted⟩
    · simp at reads

theorem found_of_entries (k : Kind) (p : Param) (found : Option Param.Value) (ps : Params)
    (member : ps ∈ (p.read k found).entries) : found = some (p.read k found) := by
  unfold Param.read at member ⊢
  split at member
  · next w reads =>
    obtain ⟨v, settled_, accepted⟩ := p.reading_ok k found w reads
    rcases accept_cases _ _ _ accepted with rfl | none_
    · cases found with
      | none => simp [entries_defaultValue p w settled_] at member
      | some u =>
        cases u with
        | null => simp [entries_defaultValue p w settled_] at member
        | _ => exact settled_
    · simp [none_] at member
  · simp [Param.Value.entries] at member

theorem child?_read (k : Kind) (p : Param) (found : Option Param.Value) (child : Kind)
    (readable : ∃ v, p.reading k found = .ok v) (collection : p.shape.child? = some child) :
    (p.read k found).child? = some child := by
  obtain ⟨w, reads⟩ := readable
  obtain ⟨v, _, accepted⟩ := p.reading_ok k found w reads
  rw [p.read_of_reading k found w reads]
  exact child?_accept _ _ _ accepted child collection

end Param

end PackSpec
