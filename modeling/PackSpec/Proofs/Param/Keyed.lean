import PackSpec.Proofs.Node.Built
import PackSpec.Proofs.Param.Same
import PackSpec.Proofs.Yaml.Keyed

set_option autoImplicit false

namespace PackSpec

namespace Entries

theorem found_back {α β : Type} (S : α → β → Prop) (es : Entries α) (fs : Entries β)
    (distinct : Distinct es) (length : es.length = fs.length)
    (each : ∀ e ∈ es, ∃ b, get? fs e.1 = some b ∧ S e.2 b) :
    ∀ f ∈ fs, ∃ a, get? es f.1 = some a ∧ S a f.2 := by
  have apart : es.Pairwise fun e g => ∀ f ∈ fs, e.1 = f.1 ∧ S e.2 f.2 →
      ¬ (g.1 = f.1 ∧ S g.2 f.2) := by
    refine (List.pairwise_map.1 distinct).imp fun {e g} other f _ first second => ?_
    exact other (first.1.trans second.1.symm)
  have into : ∀ e ∈ es, ∃ f ∈ fs, e.1 = f.1 ∧ S e.2 f.2 := by
    intro e member
    obtain ⟨b, found, related⟩ := each e member
    exact ⟨(e.1, b), mem_of_get? fs e.1 b found, rfl, related⟩
  intro f member
  obtain ⟨e, there, name, related⟩ :=
    onto_of_apart es fs into apart (Nat.le_of_eq length.symm) f member
  exact ⟨e.2, name ▸ get?_of_mem es e distinct there, related⟩

end Entries

namespace Param.Value

/-- A mapping has every key once, at every depth. -/
def Keyed : Param.Value → Prop
  | .dict es => Yaml.Keyed (.map es)
  | _ => True

def Proper (v : Param.Value) : Prop := v.Distinct ∧ v.Keyed

theorem params_symm (ps qs : Params) (distinct : Entries.Distinct ps)
    (each : ∀ e ∈ ps, ∀ f ∈ qs, same e.2 f.2 = true → same f.2 e.2 = true)
    (equal : Params.same ps qs = true) : Params.same qs ps = true := by
  rw [Params.same_iff] at equal ⊢
  have found : ∀ e ∈ ps, ∃ w, Entries.get? qs e.1 = some w ∧ same w e.2 = true := by
    intro e member
    obtain ⟨w, there, equal_⟩ := equal.2 e member
    exact ⟨w, there, each e member (e.1, w) (Entries.mem_of_get? qs e.1 w there) equal_⟩
  exact ⟨equal.1.symm, Entries.found_back (fun v w => same w v = true) ps qs distinct equal.1 found⟩

theorem children_symm (cs ds : Children) (distinct : Entries.Distinct cs)
    (each : ∀ e ∈ cs, ∀ f ∈ ds, Params.same e.2 f.2 = true → Params.same f.2 e.2 = true)
    (equal : childrenSame cs ds = true) : childrenSame ds cs = true := by
  rw [childrenSame, Bool.and_eq_true, childrenIn_iff, beq_iff_eq] at equal ⊢
  have found : ∀ e ∈ cs, ∃ qs, Entries.get? ds e.1 = some qs ∧ Params.same qs e.2 = true := by
    intro e member
    obtain ⟨qs, there, equal_⟩ := equal.2 e member
    exact ⟨qs, there, each e member (e.1, qs) (Entries.mem_of_get? ds e.1 qs there) equal_⟩
  exact ⟨equal.1.symm, Entries.found_back (fun v w => Params.same w v = true) cs ds distinct equal.1 found⟩

theorem same_symm (v w : Param.Value) (proper : v.Every Proper) (proper_ : w.Every Proper)
    (equal : v.same w = true) : w.same v = true := by
  induction proper generalizing w with
  | intro v here inside ih =>
    have each (ps qs : Params) (there : ps ∈ v.entries) (there_ : qs ∈ w.entries) (e) (member : e ∈ ps)
        (f) (member_ : f ∈ qs) : same e.2 f.2 = true → same f.2 e.2 = true :=
      ih ps there e member f.2 (proper_.inside qs there_ f member_)
    cases v with
    | specs k cs =>
      cases w with
      | specs l ds =>
        obtain rfl : k = l := by
          simp only [same, Bool.and_eq_true, beq_iff_eq] at equal
          exact equal.1.1
        rw [same_specs] at equal ⊢
        refine children_symm cs ds here.1.1 (fun e member f member_ => ?_) equal
        exact params_symm e.2 f.2 (here.1.2 e member) (each e.2 f.2
          ((mem_entries_specs k cs e.2).2 ⟨e, member, rfl⟩)
          ((mem_entries_specs k ds f.2).2 ⟨f, member_, rfl⟩))
      | _ => simp [same] at equal
    | groups k gs =>
      cases w with
      | groups l hs =>
        obtain rfl : k = l := by
          simp only [same, Bool.and_eq_true, beq_iff_eq] at equal
          exact equal.1.1
        rw [same_groups, Bool.and_eq_true, groupsIn_iff, beq_iff_eq] at equal ⊢
        refine ⟨equal.1.symm, Entries.found_back (fun v w => childrenSame w v = true) gs hs here.1.1
          equal.1 fun g there => ?_⟩
        obtain ⟨ds, found, equal_⟩ := equal.2 g there
        have there_ := Entries.mem_of_get? hs g.1 ds found
        refine ⟨ds, found, children_symm g.2 ds (here.1.2 g there).1 (fun e member f member_ => ?_)
          equal_⟩
        exact params_symm e.2 f.2 ((here.1.2 g there).2 e member) (each e.2 f.2
          ((mem_entries_groups k gs e.2).2 ⟨g, there, e, member, rfl⟩)
          ((mem_entries_groups k hs f.2).2 ⟨_, there_, f, member_, rfl⟩))
      | _ => simp [same] at equal
    | dict es =>
      cases w with
      | dict fs =>
        rw [same] at equal ⊢
        exact Yaml.same_symm _ _ here.2 proper_.here.2 equal
      | _ => simp [same] at equal
    | float x =>
      cases w with
      | float y =>
        rw [same] at equal ⊢
        exact x.numEq_symm y equal
      | _ => simp [same] at equal
    | _ =>
      cases w <;> simp only [same, Bool.false_eq_true, beq_iff_eq] at equal ⊢ <;> exact equal.symm

end Param.Value

namespace Params

theorem same_symm (ps qs : Params) (distinct : Entries.Distinct ps)
    (proper : ps.Every Param.Value.Proper) (proper_ : qs.Every Param.Value.Proper)
    (equal : same ps qs = true) : same qs ps = true :=
  Param.Value.params_symm ps qs distinct
    (fun e member f member_ => e.2.same_symm f.2 (proper e member) (proper_ f member_)) equal

end Params

end PackSpec
