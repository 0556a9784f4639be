import PackSpec.Proofs.Build.Invariant
import PackSpec.Proofs.Document.Composed
import PackSpec.Proofs.Param.Every

set_option autoImplicit false

namespace PackSpec

namespace Overlay

variable {α : Type}

def kept (keeps : Bool) (c : Entries α) : Entries α :=
  if keeps then c else Entries.erase c defaultsName

theorem names_map_fill (defaults : Entries α) (c : Entries (Entries α)) :
    Entries.names (c.map (fillUnlessDefaults defaults)) = Entries.names c := by
  rw [Entries.names, List.map_map]
  refine List.map_congr_left fun e _ => ?_
  rw [Function.comp_apply, fillUnlessDefaults]
  split <;> rfl

theorem fill_of_has (own defaults : Entries α)
    (set_ : ∀ name ∈ Entries.names defaults, Entries.has own name = true) :
    fill own defaults = own := by
  have none_ : defaults.filter (fun e => !Entries.has own e.1) = [] := by
    refine List.filter_eq_nil_iff.2 fun e member => ?_
    simp [set_ e.1 (List.mem_map_of_mem member)]
  rw [fill, none_, List.append_nil]

theorem erase_of_none (c : Entries α) (name : String) (absent : Entries.get? c name = none) :
    Entries.erase c name = c := by
  refine List.filter_eq_self.2 fun e member => ?_
  have present : Entries.has c name = false := by rw [Entries.has_eq_isSome, absent]; rfl
  by_cases same : e.1 = name
  · have there : Entries.has c name = true :=
      (Entries.has_iff c name).2 (List.mem_map.2 ⟨e, member, same⟩)
    simp [present] at there
  · simpa using same

theorem names_apply (keeps : Bool) (c : Entries (Entries α)) :
    Entries.names (apply keeps c) = Entries.names (kept keeps c) := by
  unfold apply kept
  split
  · next absent =>
    cases keeps with
    | true => rfl
    | false => rw [if_neg (by simp), erase_of_none c _ absent]
  · exact names_map_fill _ _

theorem mem_kept (keeps : Bool) (c : Entries α) (e : String × α) (member : e ∈ kept keeps c) :
    e ∈ c := by
  unfold kept at member
  split at member
  · exact member
  · exact (List.mem_filter.1 member).1

theorem nodup_kept (keeps : Bool) (c : Entries α) (distinct : Entries.Distinct c) :
    Entries.Distinct (kept keeps c) := by
  unfold kept
  split
  · exact distinct
  · exact Entries.distinct_erase c _ distinct

theorem absent_kept (c : Entries α) : defaultsName ∉ Entries.names (kept false c) := by
  intro member
  obtain ⟨e, there, same⟩ := List.mem_map.1 member
  have other := (List.mem_filter.1 there).2
  simp [same] at other

theorem all_apply {good : Entries α → Prop} (keeps : Bool) (c : Entries (Entries α))
    (filled : ∀ own defaults, good own → good defaults → good (fill own defaults))
    (all : ∀ e ∈ c, good e.2) : ∀ e ∈ apply keeps c, good e.2 := by
  intro e member
  unfold apply at member
  split at member
  · exact all e member
  · next defaults there =>
    obtain ⟨own, kept_, rfl⟩ := List.mem_map.1 member
    have inside : own ∈ c := mem_kept keeps c own kept_
    unfold fillUnlessDefaults
    split
    · exact all own inside
    · exact filled _ _ (all own inside)
        (all (defaultsName, defaults) (Entries.mem_of_get? c _ _ there))

end Overlay

namespace Node

open Build (Meets)

theorem buildCollection_asking (build : String → Params → Build Params) (segment : String)
    (cs : Children) :
    buildCollection build segment cs = Build.asking fun keeps _ =>
      Build.within segment (buildEntries build (Overlay.apply keeps cs)) := rfl

structure Collected (good : Params → Prop) (keeps : Bool) (cs out : Children) : Prop where
  all : ∀ e ∈ out, good e.2
  names : (Entries.names out).Sublist (Entries.names (Overlay.kept keeps cs))

def BuiltFrom (good : Kind → Params → Prop) (keeps : Bool) (p : Param) (v w : Param.Value) : Prop :=
  match p.shape, v with
  | .specs _, .specs child cs => ∃ out, w = .specs child out ∧ Collected (good child) keeps cs out
  | .groups _, .groups child gs =>
    ∃ out, w = .groups child out ∧
      List.Forall₂ (fun g h => h.1 = g.1 ∧ Collected (good child) keeps g.2 h.2) gs out
  | _, v => w = v

theorem builtFrom_flat (good : Kind → Params → Prop) (keeps : Bool) (p : Param) (v w : Param.Value)
    (flat : p.shape.child? = none) (built : BuiltFrom good keeps p v w) : w = v := by
  unfold BuiltFrom at built
  split at built
  · next shape => simp [shape, Param.Shape.child?] at flat
  · next shape => simp [shape, Param.Shape.child?] at flat
  · exact built

theorem exists_of_forall₂ {α β : Type} {R : α → β → Prop} (xs : List α) (ys : List β)
    (all : List.Forall₂ R xs ys) (y : β) (member : y ∈ ys) : ∃ x ∈ xs, R x y := by
  induction all with
  | nil => simp at member
  | cons first _ ih =>
    rcases List.mem_cons.1 member with rfl | later
    · exact ⟨_, by simp, first⟩
    · obtain ⟨x, there, related⟩ := ih later
      exact ⟨x, by simp [there], related⟩

theorem value_of_forall₂ {made : Param → Param.Value → Prop} (ps : List Param) (out : Params)
    (all : List.Forall₂ (fun p e => e.1 = p.name ∧ made p e.2) ps out)
    (distinct : (ps.map Param.name).Nodup) (p : Param) (member : p ∈ ps) :
    Entries.get? out p.name = some (Params.value out p.name) ∧ made p (Params.value out p.name) := by
  induction all with
  | nil => simp at member
  | @cons q e qs es first _ ih =>
    obtain ⟨name, fine⟩ := first
    rw [List.map_cons, List.nodup_cons] at distinct
    unfold Params.value at ih ⊢
    rw [Entries.get?_cons]
    rcases List.mem_cons.1 member with rfl | later
    · rw [if_pos name.symm]
      exact ⟨rfl, fine⟩
    · have other : p.name ≠ e.1 := fun same =>
        distinct.1 (List.mem_map.2 ⟨p, later, same.trans name⟩)
      rw [if_neg other]
      exact ih distinct.2 later

theorem names_of_forall₂ {made : Param → Param.Value → Prop} (ps : List Param) (out : Params)
    (all : List.Forall₂ (fun p e => e.1 = p.name ∧ made p e.2) ps out) :
    Entries.names out = ps.map Param.name := by
  induction all with
  | nil => rfl
  | cons first _ ih => exact congrArg₂ List.cons first.1 ih

variable {I : Invariant} {inner ends : Diagnostic → Prop}

section

variable {build : String → Params → Build Params} {good : Params → Prop}
  (handled : ∀ d, inner d → Meets I ends (Build.handle d) fun _ => True)

include handled

theorem meets_buildEntries (cs : Children)
    (builds : ∀ e ∈ cs, Meets I inner (build e.1 e.2) good) :
    Meets I ends (buildEntries build cs) fun out =>
      (∀ e ∈ out, good e.2) ∧ (Entries.names out).Sublist (Entries.names cs) := by
  induction cs with
  | nil => exact Build.meets_pure [] ⟨by simp, List.Sublist.refl _⟩
  | cons e cs ih =>
    obtain ⟨name, ps⟩ := e
    have rest := ih fun e member => builds e (by simp [member])
    rw [buildEntries_cons]
    refine Build.meets_recover good (Build.meets_within name (builds (name, ps) (by simp))) handled
      ?_ (rest.mono (fun _ ended => ended) fun out built => ⟨built.1, built.2.cons name⟩)
    intro built fine
    apply Build.meets_map
    refine rest.mono (fun _ ended => ended) fun out all => ⟨?_, all.2.cons_cons name⟩
    intro e member
    rcases List.mem_cons.1 member with rfl | later
    · exact fine
    · exact all.1 e later

variable {given_ : Params → Prop}
  (filled : ∀ own defaults, given_ own → given_ defaults → given_ (Overlay.fill own defaults))
  (builds : ∀ name ps, given_ ps → Meets I inner (build name ps) good)

include filled builds

theorem meets_buildCollection (segment : String) (cs : Children) (all : ∀ e ∈ cs, given_ e.2) :
    Meets I ends (buildCollection build segment cs) (Collected good I.keeps cs) := by
  rw [buildCollection_asking]
  apply Build.meets_asking
  intro ns
  apply Build.meets_within
  have given_all := Overlay.all_apply I.keeps cs filled all
  refine (meets_buildEntries handled (Overlay.apply I.keeps cs) fun e member =>
    builds e.1 e.2 (given_all e member)).mono (fun _ ended => ended) ?_
  intro out built
  exact ⟨built.1, Overlay.names_apply I.keeps cs ▸ built.2⟩

theorem meets_buildGroups (gs : Groups) (all : ∀ g ∈ gs, ∀ e ∈ g.2, given_ e.2) :
    Meets I ends (buildGroups build gs) fun out =>
      List.Forall₂ (fun g h => h.1 = g.1 ∧ Collected good I.keeps g.2 h.2) gs out := by
  induction gs with
  | nil => exact Build.meets_pure [] .nil
  | cons g gs ih =>
    obtain ⟨name, cs⟩ := g
    refine Build.meets_bind (Collected good I.keeps cs)
      (meets_buildCollection handled filled builds name cs (all (name, cs) (by simp))) ?_
    intro built fine
    apply Build.meets_map
    exact (ih fun g member => all g (by simp [member])).mono (fun _ ended => ended)
      fun out rest => .cons ⟨rfl, fine⟩ rest

end

section

variable {build : Kind → String → Params → Build Params} {given_ good : Kind → Params → Prop}
  (handled : ∀ d, inner d → Meets I ends (Build.handle d) fun _ => True)
  (filled : ∀ k own defaults, given_ k own → given_ k defaults →
    given_ k (Overlay.fill own defaults))

include handled filled

theorem meets_buildValue (p : Param) (v : Param.Value)
    (builds : ∀ child, p.shape.child? = some child → ∀ name ps, given_ child ps →
      Meets I inner (build child name ps) (good child))
    (fits : ∀ child, p.shape.child? = some child → v.child? = some child)
    (all : ∀ child, p.shape.child? = some child → ∀ ps ∈ v.entries, given_ child ps) :
    Meets I ends (buildValue build p v) (BuiltFrom good I.keeps p v) := by
  -- By `fits` collections are of the declared kind; any other value is built as it stands.
  unfold buildValue BuiltFrom
  cases shape : p.shape with
  | specs child =>
    have declared : p.shape.child? = some child := by rw [shape]; rfl
    cases v with
    | specs found cs =>
      obtain rfl : found = child := Option.some.inj (fits child declared)
      apply Build.meets_map
      refine (meets_buildCollection handled (filled found) (builds found declared) p.name cs
        ?_).mono (fun _ ended => ended) fun out built => ⟨out, rfl, built⟩
      intro e member
      exact all found declared e.2 ((Param.Value.mem_entries_specs found cs e.2).2 ⟨e, member, rfl⟩)
    | _ => exact Build.meets_pure _ rfl
  | groups child =>
    have declared : p.shape.child? = some child := by rw [shape]; rfl
    cases v with
    | groups found gs =>
      obtain rfl : found = child := Option.some.inj (fits child declared)
      apply Build.meets_map
      apply Build.meets_within
      refine (meets_buildGroups handled (filled found) (builds found declared) gs
        ?_).mono (fun _ ended => ended) fun out built => ⟨out, rfl, built⟩
      intro g there e member
      exact all found declared e.2
        ((Param.Value.mem_entries_groups found gs e.2).2 ⟨g, there, e, member, rfl⟩)
    | _ => exact Build.meets_pure _ rfl
  | _ => exact Build.meets_pure v rfl

end

theorem meets_buildValues {build : Kind → String → Params → Build Params}
    {made : Param → Param.Value → Prop} (values : Params) (ps : List Param)
    (builds : ∀ p ∈ ps, Meets I ends (buildValue build p (Params.value values p.name)) (made p)) :
    Meets I ends (buildValues build values ps) fun out =>
      List.Forall₂ (fun p e => e.1 = p.name ∧ made p e.2) ps out := by
  induction ps with
  | nil => exact Build.meets_pure [] .nil
  | cons p ps ih =>
    refine Build.meets_bind (made p) (builds p (by simp)) fun built fine => ?_
    apply Build.meets_map
    exact (ih fun q member => builds q (by simp [member])).mono (fun _ ended => ended)
      fun out rest => .cons ⟨rfl, fine⟩ rest

theorem meets_buildWith {build : Kind → String → Params → Build Params} {k : Kind} {name : String}
    {params : Params} {made : Param → Param.Value → Prop} {good : Params → Prop}
    (reads : Meets I ends (readAll k params) fun read =>
      read = values k params ∧ Readable k params)
    (enters : Readable k params →
      Meets I ends (enterNamespace k (values k params)) fun _ => True)
    (builds : Readable k params → ∀ p ∈ k.params,
      Meets I ends (buildValue build p (p.read k (Entries.get? params p.name))) (made p))
    (checks : Readable k params → ∀ out,
      List.Forall₂ (fun p e => e.1 = p.name ∧ made p e.2) k.params out →
      Meets I ends (Build.ofExcept (check k name out)) good) :
    Meets I ends (buildWith build k name params) good := by
  refine Build.meets_bind _ reads ?_
  rintro read ⟨rfl, readable⟩
  refine Build.meets_bind _ (enters readable) fun _ _ => ?_
  refine Build.meets_bind _ (meets_buildValues (values k params) k.params ?_) (checks readable)
  intro p member
  rw [value_values k params p member]
  exact builds readable p member

theorem child?_ne_zenPack (k : Kind) (p : Param) (member : p ∈ k.params) :
    p.shape.child? ≠ some .zenPack := by
  revert p
  cases k <;> decide

def nameParam : Param := (Param.of "name" .str).orElse .required
def relationshipsParam : Param := { Param.of "class_relationships" .relationships with isBlock := true }

theorem name_of_made {good : Kind → Params → Prop} {keeps : Bool} (params root : Params)
    (made : List.Forall₂ (fun p e => e.1 = p.name ∧ BuiltFrom good keeps p
      (p.read .zenPack (Entries.get? params p.name)) e.2) (Kind.params .zenPack) root) :
    Params.str (values .zenPack params) "name" = Params.str root "name" := by
  have flat := builtFrom_flat _ _ nameParam _ _ rfl
    (value_of_forall₂ _ root made (Kind.nodup_names .zenPack) nameParam (by decide)).2
  have name : Params.value root "name" = Params.value (values .zenPack params) "name" :=
    flat.trans (value_values .zenPack params nameParam (by decide)).symm
  rw [Params.str, Params.str, Params.str?, Params.str?, name]

theorem run_buildParams_root (params : Params) (c : Context) (readable : Readable .zenPack params)
    (declared : Declared .zenPack params) :
    (buildParams .zenPack "" params).run c =
      (buildValues (buildAt 3) (values .zenPack params) (Kind.params .zenPack)).run
        { c with ns := Params.str (values .zenPack params) "name" } := by
  have opened : buildParams .zenPack "" params = buildWith (buildAt 3) .zenPack "" params := rfl
  rw [opened, buildWith, Build.run_bind, run_readAll .zenPack params c readable declared]
  dsimp only
  rw [Build.run_bind]
  have entered : (enterNamespace .zenPack (values .zenPack params)).run c =
      (.ok (), { c with ns := Params.str (values .zenPack params) "name" }) := rfl
  rw [entered]
  dsimp only
  rw [Build.run_bind]
  rcases (buildValues (buildAt 3) (values .zenPack params) (Kind.params .zenPack)).run
    { c with ns := Params.str (values .zenPack params) "name" } with ⟨_ | _, _⟩ <;> rfl

end Node

end PackSpec
