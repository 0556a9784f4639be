import PackSpec.Proofs.Param.Fits

set_option autoImplicit false

namespace PackSpec

def Param.Value.Distinct : Param.Value → Prop
  | .specs _ cs => Entries.Distinct cs ∧ ∀ e ∈ cs, Entries.Distinct e.2
  | .groups _ gs =>
    Entries.Distinct gs ∧ ∀ g ∈ gs, Entries.Distinct g.2 ∧ ∀ e ∈ g.2, Entries.Distinct e.2
  | _ => True

def Params.Distinct (ps : Params) : Prop :=
  Entries.Distinct ps ∧ ps.Every Param.Value.Distinct

namespace Node

/-- The parameters of an entry that has been built, as far as they do not depend on what is below. -/
structure Whole (k : Kind) (ps : Params) : Prop where
  names : Entries.names ps = k.params.map Param.name
  fits : ∀ p ∈ k.params, p.Fits (Params.value ps p.name)
  checked : ∀ name, check k name ps = .ok ps

structure Gathered (keeps : Bool) (k : Kind) (cs : Children) : Prop where
  distinct : Entries.Distinct cs
  defaults : keeps = false → defaultsName ∉ Entries.names cs
  whole : ∀ e ∈ cs, Whole k e.2

end Node

structure Decl.Settled (d : Decl) : Prop where
  oriented : d.isOriented = true
  left : given d.left.relationName = d.left.relationName
  right : given d.right.relationName = d.right.relationName

def Param.Value.Settled (keeps : Bool) : Param.Value → Prop
  | .relationships ds => ∀ d ∈ ds, d.Settled
  | .specs k cs => Node.Gathered keeps k cs
  | .groups k gs => Entries.Distinct gs ∧ ∀ g ∈ gs, Node.Gathered keeps k g.2
  | _ => True

namespace Node

/-- An entry that has been built. -/
structure Built (keeps : Bool) (k : Kind) (ps : Params) : Prop where
  whole : Whole k ps
  below : ps.Every (Param.Value.Settled keeps)

theorem get?_of_names (k : Kind) (ps : Params) (names : Entries.names ps = k.params.map Param.name)
    (p : Param) (member : p ∈ k.params) :
    Entries.get? ps p.name = some (Params.value ps p.name) := by
  have present : Entries.has ps p.name = true :=
    (Entries.has_iff ps p.name).2 (names ▸ List.mem_map.2 ⟨p, member, rfl⟩)
  rw [Entries.has_eq_isSome] at present
  obtain ⟨v, found⟩ := Option.isSome_iff_exists.1 present
  rw [Params.value, found]
  rfl

theorem mem_of_names (k : Kind) (ps : Params) (names : Entries.names ps = k.params.map Param.name)
    (e : String × Param.Value) (member : e ∈ ps) :
    ∃ p ∈ k.params, p.name = e.1 ∧ Params.value ps p.name = e.2 := by
  have named : e.1 ∈ k.params.map Param.name := names ▸ List.mem_map.2 ⟨e, member, rfl⟩
  obtain ⟨p, there, same⟩ := List.mem_map.1 named
  have distinct : Entries.Distinct ps := by
    rw [Entries.Distinct, names]
    exact k.nodup_names
  refine ⟨p, there, same, ?_⟩
  rw [Params.value, same, Entries.get?_of_mem ps e distinct member]
  rfl

theorem every_of_values (P : Param.Value → Prop) (k : Kind) (ps : Params)
    (names : Entries.names ps = k.params.map Param.name)
    (all : ∀ p ∈ k.params, (Params.value ps p.name).Every P) : ps.Every P := by
  intro e member
  obtain ⟨p, there, _, same⟩ := mem_of_names k ps names e member
  rw [← same]
  exact all p there

theorem built_of_below (keeps : Bool) (k : Kind) (cs : Children)
    (every : (Param.Value.specs k cs).Every (Param.Value.Settled keeps))
    (e : String × Params) (member : e ∈ cs) : Built keeps k e.2 :=
  ⟨every.here.whole e member,
    every.inside e.2 ((Param.Value.mem_entries_specs k cs e.2).2 ⟨e, member, rfl⟩)⟩

theorem built_of_groups (keeps : Bool) (k : Kind) (gs : Groups)
    (every : (Param.Value.groups k gs).Every (Param.Value.Settled keeps)) (g : String × Children)
    (there : g ∈ gs) (e : String × Params) (member : e ∈ g.2) : Built keeps k e.2 :=
  ⟨(every.here.2 g there).whole e member,
    every.inside e.2 ((Param.Value.mem_entries_groups k gs e.2).2 ⟨g, there, e, member, rfl⟩)⟩

theorem settled_specs (keeps : Bool) (k : Kind) (cs : Children) (distinct : Entries.Distinct cs)
    (defaults : keeps = false → defaultsName ∉ Entries.names cs)
    (built : ∀ e ∈ cs, Built keeps k e.2) :
    (Param.Value.specs k cs).Every (Param.Value.Settled keeps) := by
  refine .intro _ ⟨distinct, defaults, fun e member => (built e member).whole⟩ fun ps member => ?_
  obtain ⟨e, there, rfl⟩ := (Param.Value.mem_entries_specs k cs ps).1 member
  exact (built e there).below

theorem settled_groups (keeps : Bool) (k : Kind) (gs : Groups) (distinct : Entries.Distinct gs)
    (each : ∀ g ∈ gs, Entries.Distinct g.2 ∧
      (keeps = false → defaultsName ∉ Entries.names g.2) ∧ ∀ e ∈ g.2, Built keeps k e.2) :
    (Param.Value.groups k gs).Every (Param.Value.Settled keeps) := by
  refine .intro _ ⟨distinct, fun g there => ?_⟩ fun ps member => ?_
  · obtain ⟨names, defaults, built⟩ := each g there
    exact ⟨names, defaults, fun e member => (built e member).whole⟩
  · obtain ⟨g, there, e, inside, rfl⟩ := (Param.Value.mem_entries_groups k gs ps).1 member
    exact ((each g there).2.2 e inside).below

theorem settled_flat (keeps : Bool) (v : Param.Value) (flat : v.child? = none)
    (other : ∀ ds, v ≠ .relationships ds) : v.Every (Param.Value.Settled keeps) := by
  cases v with
  | relationships ds => exact absurd rfl (other ds)
  | specs | groups => simp [Param.Value.child?] at flat
  | _ => exact .flat trivial rfl

end Node

end PackSpec
