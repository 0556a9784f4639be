import PackSpec.Proofs.Document.Reread
import PackSpec.Proofs.Node.Rebuilt

set_option autoImplicit false

namespace PackSpec

namespace Document

open Build (Yields)
open Node (Restores Restoring)

/-- What is read of an entry that was written beside some defaults: values that are restored, and
nothing where the default is the same. -/
structure Kept (keeps : Bool) (build : Kind → String → Params → Build Params) (k : Kind)
    (defaults : Option Params) (ps own : Params) : Prop where
  declared : Node.Declared k own
  found : ∀ p ∈ k.params, ∀ r, Entries.get? own p.name = some r →
    Restores keeps build k p (some r) (Params.value ps p.name)
  absent : ∀ p ∈ k.params, Entries.get? own p.name = none →
    ∃ d, Encode.defaultBeside defaults p = some d ∧ d.same (Params.value ps p.name) = true

section

variable {keeps : Bool} {build : Kind → String → Params → Build Params} {k : Kind}

theorem restoring_alone {ps own : Params} (kept : Kept keeps build k none ps own) :
    Restoring keeps build k ps own := by
  refine ⟨kept.declared, fun p member => ?_⟩
  cases there : Entries.get? own p.name with
  | some r => exact kept.found p member r there
  | none =>
    obtain ⟨d, default, same⟩ := kept.absent p member there
    exact Node.restores_default build k p member d _
      (by simpa [Encode.defaultBeside] using default) same

theorem restoring_beside {defaults ps own raw : Params} (whole : Node.Whole k defaults)
    (kept : Kept keeps build k (some defaults) ps own)
    (laid : Kept keeps build k none defaults raw) :
    Restoring keeps build k ps (Overlay.fill own raw) := by
  constructor
  · intro e member
    rcases List.mem_append.1 member with mine | theirs
    · exact kept.declared e mine
    · exact laid.declared e (List.mem_filter.1 theirs).1
  · intro p member
    rw [Overlay.get?_fill]
    cases there : Entries.get? own p.name with
    | some r => exact kept.found p member r there
    | none =>
      -- Left out against the built defaults, so what they were read from is built into the same.
      obtain ⟨d, default, same⟩ := kept.absent p member there
      rw [Encode.defaultBeside, Option.bind_some,
        Node.get?_of_names k defaults whole.names p member, Option.some_or] at default
      obtain rfl := Option.some.inj default
      exact ((restoring_alone laid).restores p member).trans same

end

section

variable {keeps : Bool} {build : Kind → String → Params → Build Params} {child : Kind}
  {cs again : Children} (gathered : Node.Gathered keeps child cs)
  (each : List.Forall₂ (fun e f => f.1 = e.1 ∧
    Kept keeps build child (Encode.beside cs e.1) e.2 f.2) (Encode.order cs) again)

include gathered each

theorem names_again (name : String) : name ∈ Entries.names again ↔ name ∈ Entries.names cs := by
  rw [Node.names_of_related _ _ each]
  exact ((Encode.perm_order cs gathered.distinct).map Prod.fst).mem_iff

theorem distinct_again : Entries.Distinct again := by
  rw [Entries.Distinct, Node.names_of_related _ _ each]
  exact Encode.distinct_order cs gathered.distinct

theorem restoring_without (absent : Entries.get? cs defaultsName = none) :
    List.Forall₂ (fun e f => f.1 = e.1 ∧ Restoring keeps build child e.2 f.2)
      (Encode.order cs) (Overlay.apply keeps again) := by
  have missing : defaultsName ∉ Entries.names again := by
    intro member
    have there := (Entries.has_iff cs defaultsName).2
      ((names_again gathered each defaultsName).1 member)
    rw [Entries.has_eq_isSome, absent] at there
    simp at there
  rw [Overlay.apply_of_none keeps again (Entries.get?_eq_none again _ missing)]
  refine each.imp fun e f ⟨name, kept⟩ => ⟨name, restoring_alone ?_⟩
  have alone : Encode.beside cs e.1 = none := by rw [Encode.beside, absent, ite_self]
  rw [← alone]
  exact kept

theorem restoring_with (d : Params) (present : Entries.get? cs defaultsName = some d) :
    List.Forall₂ (fun e f => f.1 = e.1 ∧ Restoring keeps build child e.2 f.2)
      (Encode.order cs) (Overlay.apply keeps again) := by
  have perm := Encode.perm_order cs gathered.distinct
  have member : (defaultsName, d) ∈ cs := Entries.mem_of_get? cs defaultsName d present
  obtain rfl : keeps = true := by
    by_contra dropped
    exact gathered.defaults (by simpa using dropped) (List.mem_map.2 ⟨_, member, rfl⟩)
  have there := (names_again gathered each defaultsName).2 (List.mem_map.2 ⟨_, member, rfl⟩)
  -- What the defaults of the collection were read as.
  obtain ⟨⟨_, raw⟩, inside, rfl⟩ := List.mem_map.1 there
  obtain ⟨e, ordered, name, laid⟩ := Node.exists_of_forall₂ _ _ each _ inside
  have same := Entries.get?_of_mem cs e gathered.distinct (perm.mem_iff.1 ordered)
  dsimp only at name present same
  rw [← name] at laid same
  rw [present] at same
  have found := Entries.get?_of_mem again _ (distinct_again gathered each) inside
  have alone : Encode.beside cs defaultsName = none := if_pos rfl
  rw [alone, ← Option.some.inj same] at laid
  have filling : Overlay.apply true again = again.map (Overlay.fillUnlessDefaults raw) := by
    rw [Overlay.apply, found]
    rfl
  rw [filling, List.forall₂_map_right_iff]
  refine each.imp fun e f both => ?_
  obtain ⟨name, kept⟩ := both
  unfold Overlay.fillUnlessDefaults
  -- The defaults are not filled from themselves.
  by_cases here : f.1 = defaultsName
  · rw [here, beq_self_eq_true, if_pos rfl]
    rw [← name, here, alone] at kept
    exact ⟨name, restoring_alone kept⟩
  · rw [if_neg (by simpa using here)]
    have under : Encode.beside cs e.1 = some d := by
      rw [Encode.beside, if_neg (name ▸ here), present]
    rw [under] at kept
    exact ⟨name, restoring_beside (gathered.whole _ member) kept laid⟩

theorem restored_collection (below : child ≠ .zenPack) (segment : String) :
    ∃ out, Yields (· = keeps) (Node.buildCollection (Node.buildWith build child) segment again) out ∧
      Param.Value.childrenSame out cs = true := by
  have perm := Encode.perm_order cs gathered.distinct
  have filled : List.Forall₂ (fun e f => f.1 = e.1 ∧ Restoring keeps build child e.2 f.2)
      (Encode.order cs) (Overlay.apply keeps again) := by
    cases first : Entries.get? cs defaultsName with
    | none => exact restoring_without gathered each first
    | some d => exact restoring_with gathered each d first
  have inside : ∀ e ∈ Encode.order cs, Node.Whole child e.2 := fun e member =>
    gathered.whole e (perm.mem_iff.1 member)
  have built : List.Forall₂ (fun e f => f.1 = e.1 ∧ ∃ built,
      Yields (· = keeps) (Node.buildWith build child f.1 f.2) built ∧ Params.same built e.2 = true)
      (Encode.order cs) (Overlay.apply keeps again) := by
    refine ((List.forall₂_and_left _ _).2 ⟨inside, filled⟩).imp ?_
    rintro e f ⟨whole, name, restoring⟩
    exact ⟨name, Node.yields_entry below whole restoring f.1⟩
  obtain ⟨out, yields, all⟩ := Node.yields_buildCollection segment (Encode.order cs) again built
  exact ⟨out, yields, Node.childrenSame_of_perm cs _ out gathered.distinct perm all⟩

end

end Document

end PackSpec
