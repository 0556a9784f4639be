import PackSpec.Proofs.Param.Every
import PackSpec.Proofs.Yaml.Same

set_option autoImplicit false

namespace PackSpec

namespace Param.Value

theorem paramsIn_iff (ps qs : Params) :
    paramsIn ps qs = true ↔ ∀ e ∈ ps, ∃ w, Entries.get? qs e.1 = some w ∧ same e.2 w = true := by
  induction ps with
  | nil => simp [paramsIn]
  | cons e ps ih =>
    obtain ⟨name, v⟩ := e
    rw [paramsIn, Bool.and_eq_true, ih]
    simp only [List.forall_mem_cons, Entries.get?]
    cases qs.lookup name <;> simp

theorem childrenIn_iff (cs ds : Children) :
    childrenIn cs ds = true ↔
      ∀ e ∈ cs, ∃ qs, Entries.get? ds e.1 = some qs ∧ Params.same e.2 qs = true := by
  induction cs with
  | nil => simp [childrenIn]
  | cons e cs ih =>
    obtain ⟨name, ps⟩ := e
    rw [childrenIn, Bool.and_eq_true, ih]
    simp only [List.forall_mem_cons, Entries.get?, Params.same]
    cases ds.lookup name <;> simp

def childrenSame (cs ds : Children) : Bool := cs.length == ds.length && childrenIn cs ds

theorem groupsIn_iff (gs hs : Groups) :
    groupsIn gs hs = true ↔
      ∀ g ∈ gs, ∃ ds, Entries.get? hs g.1 = some ds ∧ childrenSame g.2 ds = true := by
  induction gs with
  | nil => simp [groupsIn]
  | cons g gs ih =>
    obtain ⟨name, cs⟩ := g
    rw [groupsIn, Bool.and_eq_true, ih]
    simp only [List.forall_mem_cons, Entries.get?, childrenSame]
    cases hs.lookup name <;> simp

theorem same_specs (k : Kind) (cs ds : Children) :
    same (.specs k cs) (.specs k ds) = childrenSame cs ds := by
  simp [same, childrenSame]

theorem same_groups (k : Kind) (gs hs : Groups) :
    same (.groups k gs) (.groups k hs) = (gs.length == hs.length && groupsIn gs hs) := by
  simp [same]

theorem same_dict (es fs : List (Yaml × Yaml)) :
    same (.dict es) (.dict fs) = Yaml.same (.map es) (.map fs) := by
  simp [same]

theorem same_flat (v : Param.Value) (collection : v.child? = none)
    (number : ∀ x, v = .float x → x.isNaN = false) : same v v = true := by
  cases v with
  | specs | groups => simp [child?] at collection
  | float x => rw [same, x.numEq_refl (number x rfl)]
  | dict es => rw [same, Yaml.same_refl]
  | _ => simp [same]

mutual

theorem same_trans : ∀ a b c : Param.Value, same a b = true → same b c = true → same a c = true
  | .null, b, c, ab, bc => by cases b <;> simp [same] at ab; exact bc
  | .bool _, b, c, ab, bc => by cases b <;> simp [same] at ab; rw [ab]; exact bc
  | .int _, b, c, ab, bc => by cases b <;> simp [same] at ab; rw [ab]; exact bc
  | .str _, b, c, ab, bc => by cases b <;> simp [same] at ab; rw [ab]; exact bc
  | .strs _, b, c, ab, bc => by cases b <;> simp [same] at ab; rw [ab]; exact bc
  | .classRef _, b, c, ab, bc => by cases b <;> simp [same] at ab; rw [ab]; exact bc
  | .classRefs _, b, c, ab, bc => by cases b <;> simp [same] at ab; rw [ab]; exact bc
  | .relationship _, b, c, ab, bc => by cases b <;> simp [same] at ab; rw [ab]; exact bc
  | .relationships _, b, c, ab, bc => by cases b <;> simp [same] at ab; rw [ab]; exact bc
  | .severity _, b, c, ab, bc => by cases b <;> simp [same] at ab; rw [ab]; exact bc
  | .float x, b, c, ab, bc => by
    cases b <;> simp only [same, Bool.false_eq_true] at ab
    cases c <;> simp only [same, Bool.false_eq_true] at bc ⊢
    exact x.numEq_trans _ _ ab bc
  | .dict es, b, c, ab, bc => by
    cases b <;> simp only [same, Bool.false_eq_true] at ab
    cases c <;> simp only [same, Bool.false_eq_true] at bc ⊢
    exact Yaml.same_trans _ _ _ ab bc
  | .specs k cs, b, c, ab, bc => by
    cases b <;> simp only [same, Bool.false_eq_true] at ab
    cases c <;> simp only [same, Bool.false_eq_true] at bc ⊢
    simp only [Bool.and_eq_true, beq_iff_eq] at ab bc ⊢
    exact ⟨⟨ab.1.1.trans bc.1.1, ab.1.2.trans bc.1.2⟩, childrenIn_trans cs _ _ ab.2 bc.2⟩
  | .groups k gs, b, c, ab, bc => by
    cases b <;> simp only [same, Bool.false_eq_true] at ab
    cases c <;> simp only [same, Bool.false_eq_true] at bc ⊢
    simp only [Bool.and_eq_true, beq_iff_eq] at ab bc ⊢
    exact ⟨⟨ab.1.1.trans bc.1.1, ab.1.2.trans bc.1.2⟩, groupsIn_trans gs _ _ ab.2 bc.2⟩

theorem paramsIn_trans : ∀ (ps : List (String × Param.Value)) (qs rs : Params),
    paramsIn ps qs = true → paramsIn qs rs = true → paramsIn ps rs = true
  | [], _, _, _, _ => by rw [paramsIn]
  | (name, v) :: ps, qs, rs, ab, bc => by
    rw [paramsIn, Bool.and_eq_true] at ab ⊢
    refine ⟨?_, paramsIn_trans ps qs rs ab.2 bc⟩
    cases found : qs.lookup name with
    | none => simp [found] at ab
    | some w =>
      have vw : same v w = true := by simpa [found] using ab.1
      obtain ⟨u, found_, wu⟩ :=
        (paramsIn_iff qs rs).1 bc (name, w) (Entries.mem_of_get? qs name w found)
      rw [Entries.get?] at found_
      rw [found_]
      exact same_trans v w u vw wu

theorem childrenIn_trans : ∀ (cs : List (String × List (String × Param.Value))) (ds es : Children),
    childrenIn cs ds = true → childrenIn ds es = true → childrenIn cs es = true
  | [], _, _, _, _ => by rw [childrenIn]
  | (name, ps) :: cs, ds, es, ab, bc => by
    rw [childrenIn, Bool.and_eq_true] at ab ⊢
    refine ⟨?_, childrenIn_trans cs ds es ab.2 bc⟩
    cases found : ds.lookup name with
    | none => simp [found] at ab
    | some qs =>
      have first : ps.length = qs.length ∧ paramsIn ps qs = true := by simpa [found] using ab.1
      obtain ⟨rs, found_, next⟩ :=
        (childrenIn_iff ds es).1 bc (name, qs) (Entries.mem_of_get? ds name qs found)
      simp only [Params.same, Bool.and_eq_true, beq_iff_eq] at next
      rw [Entries.get?] at found_
      rw [found_]
      simp [first.1, next.1, paramsIn_trans ps qs rs first.2 next.2]

theorem groupsIn_trans : ∀ (gs : List (String × List (String × List (String × Param.Value))))
    (hs is : Groups), groupsIn gs hs = true → groupsIn hs is = true → groupsIn gs is = true
  | [], _, _, _, _ => by rw [groupsIn]
  | (name, cs) :: gs, hs, is, ab, bc => by
    rw [groupsIn, Bool.and_eq_true] at ab ⊢
    refine ⟨?_, groupsIn_trans gs hs is ab.2 bc⟩
    cases found : hs.lookup name with
    | none => simp [found] at ab
    | some ds =>
      have first : cs.length = ds.length ∧ childrenIn cs ds = true := by simpa [found] using ab.1
      obtain ⟨es, found_, next⟩ :=
        (groupsIn_iff hs is).1 bc (name, ds) (Entries.mem_of_get? hs name ds found)
      simp only [childrenSame, Bool.and_eq_true, beq_iff_eq] at next
      rw [Entries.get?] at found_
      rw [found_]
      simp [first.1, next.1, childrenIn_trans cs ds es first.2 next.2]

end

end Param.Value

namespace Params

theorem same_iff (ps qs : Params) :
    same ps qs = true ↔ ps.length = qs.length ∧
      ∀ e ∈ ps, ∃ w, Entries.get? qs e.1 = some w ∧ e.2.same w = true := by
  rw [same, Bool.and_eq_true, beq_iff_eq, Param.Value.paramsIn_iff]

end Params

end PackSpec
