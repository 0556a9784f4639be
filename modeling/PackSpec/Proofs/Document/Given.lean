import PackSpec.Proofs.Build.Gives
import PackSpec.Proofs.Document.Restored

set_option autoImplicit false

namespace PackSpec

open Build (Composed Gives)

namespace Decode

def named (es : List (String × Yaml)) : List (Yaml × Yaml) := es.map fun e => (.str e.1, e.2)

theorem named_split (es : List (String × Yaml)) (before after : List (Yaml × Yaml)) (key v : Yaml)
    (split : named es = before ++ (key, v) :: after) :
    ∃ first last name, es = first ++ (name, v) :: last ∧ key = .str name ∧ before = named first ∧
      after = named last := by
  obtain ⟨first, rest, rfl, rfl, same⟩ := List.map_eq_append_iff.1 split
  obtain ⟨e, last, rfl, here, rfl⟩ := List.map_eq_cons_iff.1 same
  obtain ⟨rfl, rfl⟩ := Prod.mk.inj here
  exact ⟨first, last, e.1, rfl, rfl, rfl, rfl⟩

section

variable {α : Type} {loop : Entries α → List (Yaml × Yaml) → Build (Entries α)}
  {read : String → Yaml → Build (Option α)} (slot : String → String)
  (ends : ∀ acc out, Gives (loop acc []) out → out = acc)
  (step : ∀ acc out name v rest, Gives (loop acc ((.str name, v) :: rest)) out →
    ∃ r, Gives (read name v) r ∧ Gives (loop (r.elim acc (Entries.put acc (slot name))) rest) out)

include ends step

theorem get?_loop_other (es : List (String × Yaml)) (acc out : Entries α)
    (given_ : Gives (loop acc (named es)) out) (other : String)
    (absent : ∀ e ∈ es, slot e.1 ≠ other) : Entries.get? out other = Entries.get? acc other := by
  induction es generalizing acc with
  | nil => rw [ends acc out given_]
  | cons e es ih =>
    obtain ⟨r, _, rest⟩ := step acc out e.1 e.2 (named es) given_
    rw [ih _ rest fun f member => absent f (by simp [member])]
    cases r with
    | none => rfl
    | some a =>
      have here := absent e (by simp)
      rw [Option.elim_some, Entries.get?_put, if_neg here.symm]

theorem get?_loop (es : List (String × Yaml)) (acc out : Entries α)
    (given_ : Gives (loop acc (named es)) out) (distinct : (es.map fun e => slot e.1).Nodup)
    (e : String × Yaml) (member : e ∈ es) :
    ∃ r, Gives (read e.1 e.2) r ∧ ∀ a, r = some a → Entries.get? out (slot e.1) = some a := by
  induction es generalizing acc with
  | nil => simp at member
  | cons f es ih =>
    obtain ⟨r, reads, rest⟩ := step acc out f.1 f.2 (named es) given_
    rw [List.map_cons, List.nodup_cons] at distinct
    rcases List.mem_cons.1 member with rfl | later
    · refine ⟨r, reads, fun a same => ?_⟩
      have absent (g : String × Yaml) (there : g ∈ es) : slot g.1 ≠ slot e.1 :=
        fun same => distinct.1 (same ▸ List.mem_map.2 ⟨g, there, rfl⟩)
      rw [get?_loop_other slot ends step es _ out rest _ absent, same, Option.elim_some,
        Entries.get?_put, if_pos rfl]
    · exact ih _ rest distinct.2 later

end

section

variable {read : Kind → Yaml → Build (Option Params)} (reads : ∀ k v, Composed false (read k v))

def slotOf (k : Kind) (external : String) : String :=
  ((k.table.ofExternal? external).map Param.name).getD external

theorem slotOf_external (k : Kind) (p : Param) (member : p ∈ k.params) :
    slotOf k p.external = p.name := by
  rw [slotOf, k.ofExternal?_table p member]
  rfl

theorem slotOf_externals (k : Kind) :
    (k.params.map Param.external).map (slotOf k) = k.params.map Param.name := by
  rw [List.map_map]
  exact List.map_congr_left fun p member => slotOf_external k p member

def readAt (read : Kind → Yaml → Build (Option Params)) (k : Kind) (all : List (Yaml × Yaml))
    (external : String) (v : Yaml) : Build (Option Param.Value) :=
  match k.table.ofExternal? external with
  | some p => value read k p (shapeAt k all p) v
  | none => return none

theorem readAt_external (k : Kind) (all : List (Yaml × Yaml)) (p : Param) (member : p ∈ k.params)
    (v : Yaml) : readAt read k all p.external v = value read k p (shapeAt k all p) v := by
  rw [readAt, k.ofExternal?_table p member]

include reads

theorem gives_keys_cons (k : Kind) (all : List (Yaml × Yaml)) (acc own : Params) (name : String)
    (v : Yaml) (rest : List (Yaml × Yaml))
    (given_ : Gives (keys read k all acc ((.str name, v) :: rest)) own) :
    ∃ r, Gives (readAt read k all name v) r ∧
      Gives (keys read k all (r.elim acc (Entries.put acc (slotOf k name))) rest) own := by
  rw [keys_str] at given_
  unfold readAt slotOf
  cases known : k.table.ofExternal? name with
  | none =>
    -- A strict run ends at an unknown key.
    rw [known] at given_
    obtain ⟨_, reported, _⟩ := Build.gives_bind (.within _ _ (.report _)) given_
    exact absurd (Build.gives_within reported) Build.not_gives_report
  | some p =>
    rw [known] at given_
    obtain ⟨r, first, next⟩ :=
      Build.gives_bind (.within _ _ (composed_value read reads k p _ v).any) given_
    refine ⟨r, Build.gives_within first, ?_⟩
    cases r <;> exact next

theorem get?_keys (k : Kind) (all : List (Yaml × Yaml)) (es : List (String × Yaml)) (own : Params)
    (declared : (Entries.names es).Sublist (k.params.map Param.external))
    (given_ : Gives (keys read k all [] (named es)) own) (p : Param) (member : p ∈ k.params) :
    (p.external ∉ Entries.names es → Entries.get? own p.name = none) ∧
      ∀ v, (p.external, v) ∈ es → ∃ r, Gives (value read k p (shapeAt k all p) v) r ∧
        ∀ w, r = some w → Entries.get? own p.name = some w := by
  have ends (acc out : Params) (given_ : Gives (keys read k all acc []) out) : out = acc :=
    Build.gives_pure given_
  refine ⟨fun absent => ?_, fun v there => ?_⟩
  · refine get?_loop_other (slotOf k) ends (gives_keys_cons reads k all) es [] own given_ _ ?_
    intro e inside same
    obtain ⟨q, known, external⟩ := List.mem_map.1 (declared.subset (List.mem_map.2 ⟨e, inside, rfl⟩))
    rw [← external, slotOf_external k q known] at same
    have found := k.get?_table q known
    rw [same, k.get?_table p member] at found
    exact absent (Option.some.inj found ▸ external ▸ List.mem_map.2 ⟨e, inside, rfl⟩)
  · have distinct : (es.map fun e => slotOf k e.1).Nodup := by
      have sublist := declared.map (slotOf k)
      rw [slotOf_externals, Entries.names, List.map_map] at sublist
      exact k.nodup_names.sublist sublist
    obtain ⟨r, reads_, found⟩ := get?_loop (slotOf k) ends (gives_keys_cons reads k all) es [] own
      given_ distinct (p.external, v) there
    rw [readAt_external k all p member v] at reads_
    rw [slotOf_external k p member] at found
    exact ⟨r, reads_, found⟩

end

theorem gives_entries_cons {read : Yaml → Build (Option Params)} (reads : ∀ v, Composed false (read v))
    (skip : Bool) (acc out : Children) (name : String) (v : Yaml) (rest : List (Yaml × Yaml))
    (given_ : Gives (entries read skip acc ((.str name, v) :: rest)) out) :
    ∃ r, Gives (if (skip && name == defaultsName) = true then pure none else read v) r ∧
      Gives (entries read skip (r.elim acc (Entries.put acc name)) rest) out := by
  unfold entries at given_
  dsimp only [scalarText?] at given_
  split at given_
  · next skipped =>
    rw [if_pos skipped]
    exact ⟨none, ⟨.start (.empty .strict) "" false, _, rfl, rfl⟩, given_⟩
  · next kept =>
    obtain ⟨r, first, next⟩ := Build.gives_bind (.within _ _ (reads v).any) given_
    rw [if_neg kept]
    refine ⟨r, Build.gives_within first, ?_⟩
    cases r <;> exact next

theorem gives_groups_cons {read : Yaml → Build (Option Children)}
    (reads : ∀ v, Composed false (read v)) (acc out : Groups) (name : String) (v : Yaml)
    (rest : List (Yaml × Yaml)) (given_ : Gives (groups read acc ((.str name, v) :: rest)) out) :
    ∃ r, Gives (read v) r ∧
      Gives (groups read (r.elim acc (Entries.put acc name)) rest) out := by
  rw [groups_named] at given_
  obtain ⟨r, first, next⟩ := Build.gives_bind (.within _ _ (reads v).any) given_
  refine ⟨r, Build.gives_within first, ?_⟩
  cases r <;> exact next

theorem gives_mapping (es : List (Yaml × Yaml)) (r : Option (List (Yaml × Yaml)))
    (given_ : Gives (mapping (.map es)) r) : r = some es :=
  Build.gives_pure given_

theorem gives_collection {read : Yaml → Build (Option Params)}
    (reads : ∀ v, Composed false (read v)) (es : List (String × Yaml)) (r : Option Children)
    (given_ : Gives (collection read (.map (named es))) r)
    (absent : ∀ e ∈ es, e.1 ≠ defaultsName) (distinct : Entries.Distinct es) :
    ∃ cs, r = some cs ∧ Entries.get? cs defaultsName = none ∧
      ∀ e ∈ es, ∃ s, Gives (read e.2) s ∧ ∀ ps, s = some ps → Entries.get? cs e.1 = some ps := by
  unfold collection at given_
  obtain ⟨_, first, next⟩ := Build.gives_bind (composed_mapping _).any given_
  rw [gives_mapping _ _ first] at next
  obtain ⟨skip, _, next_⟩ := Build.gives_bind (composed_badDefaults _).any next
  obtain ⟨cs, read_, rfl⟩ := Build.gives_map (composed_entries read reads skip [] _).any next_
  have ends (acc out : Children) (given_ : Gives (entries read skip acc []) out) : out = acc :=
    Build.gives_pure given_
  refine ⟨cs, rfl, ?_, fun e member => ?_⟩
  · exact get?_loop_other id ends (gives_entries_cons reads skip) es [] cs read_ _ absent
  · obtain ⟨s, reads_, found⟩ :=
      get?_loop id ends (gives_entries_cons reads skip) es [] cs read_ distinct e member
    have kept : ¬ (skip && e.1 == defaultsName) = true := by simp [absent e member]
    rw [if_neg kept] at reads_
    exact ⟨s, reads_, found⟩

section

variable {read : Kind → Yaml → Build (Option Params)} (reads : ∀ k v, Composed false (read k v))
  (k : Kind) (p : Param) (child : Kind) (es : List (Yaml × Yaml)) (r : Option Param.Value)

include reads

theorem gives_specs (given_ : Gives (value read k p (.specs child) (.map es)) r) :
    ∃ s, Gives (collection (read child) (.map es)) s ∧ r = s.map (.specs child) :=
  Build.gives_map (composed_collection _ (reads child) _).any given_

theorem gives_groups (given_ : Gives (value read k p (.groups child) (.map es)) r) :
    ∃ gs, Gives (groups (collection (read child)) [] es) gs ∧ r = some (.groups child gs) := by
  obtain ⟨_, first, next⟩ := Build.gives_bind (composed_mapping _).any given_
  rw [gives_mapping _ _ first] at next
  exact Build.gives_map
    (composed_groups _ (composed_collection _ (reads child)) [] es).any next

end

end Decode

namespace Node

section

variable {build : String → Params → Build Params} (builds : ∀ name ps, Composed true (build name ps))

include builds

theorem gives_buildEntries (cs out : Children) (given_ : Gives (buildEntries build cs) out) :
    List.Forall₂ (fun e o => o.1 = e.1 ∧ Gives (build e.1 e.2) o.2) cs out := by
  induction cs generalizing out with
  | nil => rw [Build.gives_pure given_]; exact .nil
  | cons e cs ih =>
    rw [buildEntries_cons] at given_
    obtain ⟨ps, built, next⟩ := Build.gives_recover (.within _ _ (builds e.1 e.2)) given_
    obtain ⟨rest, later, rfl⟩ := Build.gives_map (composed_buildEntries true build builds cs) next
    exact .cons ⟨rfl, Build.gives_within built⟩ (ih rest later)

theorem gives_buildCollection (segment : String) (cs out : Children)
    (absent : Entries.get? cs defaultsName = none)
    (given_ : Gives (buildCollection build segment cs) out) :
    List.Forall₂ (fun e o => o.1 = e.1 ∧ Gives (build e.1 e.2) o.2) cs out := by
  rw [buildCollection_asking] at given_
  obtain ⟨keeps, _, inside⟩ := Build.gives_asking given_
  rw [Overlay.apply_of_none keeps cs absent] at inside
  exact gives_buildEntries builds cs out (Build.gives_within inside)

theorem gives_buildGroups (gs out : Groups) (given_ : Gives (buildGroups build gs) out) :
    List.Forall₂ (fun g o => o.1 = g.1 ∧ Gives (buildCollection build g.1 g.2) o.2) gs out := by
  induction gs generalizing out with
  | nil => rw [Build.gives_pure given_]; exact .nil
  | cons g gs ih =>
    obtain ⟨cs, built, next⟩ :=
      Build.gives_bind (composed_buildCollection true build builds g.1 g.2) given_
    obtain ⟨rest, later, rfl⟩ := Build.gives_map (composed_buildGroups true build builds gs) next
    exact .cons ⟨rfl, built⟩ (ih rest later)

end

theorem get?_checked (k : Kind) (name : String) (made out : Params)
    (done : check k name made = .ok out) (p : Param)
    (w : Param.Value) (found : Entries.get? made p.name = some w) :
    Entries.get? out p.name = some w ∨
      p.name = "default" ∧ k = .zProperty ∧
        ∃ shape, Entries.get? out p.name = some (Coerce.retyped shape w) := by
  cases k with
  | zProperty =>
    obtain ⟨_, rfl⟩ := typeDefault_ok made out done
    rw [Entries.get?_put]
    by_cases here : p.name = "default"
    · rw [here] at found
      rw [if_pos here, Params.value, found]
      exact .inr ⟨here, rfl, _, rfl⟩
    · rw [if_neg here]
      exact .inl found
  | classProperty => rw [(checkProperty_ok name made out done).1]; exact .inl found
  | _ => rw [← Except.ok.inj done]; exact .inl found

section

variable {build : Kind → String → Params → Build Params}
  (builds : ∀ k name ps, Composed true (build k name ps)) {k : Kind} {name : String}
  {params out : Params}

include builds

theorem gives_buildValues (values : Params) (list : List Param) (made : Params)
    (given_ : Gives (buildValues build values list) made) :
    List.Forall₂ (fun p e => e.1 = p.name ∧
      Gives (buildValue build p (Params.value values p.name)) e.2) list made := by
  induction list generalizing made with
  | nil => rw [Build.gives_pure given_]; exact .nil
  | cons p list ih =>
    obtain ⟨v, built, next⟩ := Build.gives_bind (composed_buildValue true build builds p _) given_
    obtain ⟨rest, later, rfl⟩ :=
      Build.gives_map (composed_buildValues true build builds values list) next
    exact .cons ⟨rfl, built⟩ (ih rest later)

variable (given_ : Gives (buildWith build k name params) out) (p : Param) (member : p ∈ k.params)

include given_ member

theorem gives_buildWith :
    ∃ v w, p.reading k (Entries.get? params p.name) = .ok v ∧ Gives (buildValue build p v) w ∧
      (Entries.get? out p.name = some w ∨
        p.name = "default" ∧ k = .zProperty ∧
          ∃ shape, Entries.get? out p.name = some (Coerce.retyped shape w)) := by
  obtain ⟨read, reads, next⟩ := Build.gives_bind (composed_readAll true k params) given_
  obtain ⟨c, after, _, ran⟩ := reads
  obtain ⟨readable, rfl⟩ := readAll_ok k params read c after ran
  obtain ⟨_, _, next_⟩ := Build.gives_bind (composed_enterNamespace k _) next
  obtain ⟨made, values_, checked⟩ :=
    Build.gives_bind (composed_buildValues true build builds _ _) next_
  obtain ⟨v, reading_⟩ := readable p member
  obtain ⟨found, built⟩ := value_of_forall₂ k.params made
    (gives_buildValues builds _ _ made values_) k.nodup_names p member
  rw [value_values k params p member, p.read_of_reading k _ v reading_] at built
  exact ⟨v, _, reading_, built, get?_checked k name made out (Build.gives_ofExcept checked) p _ found⟩

end

section

variable {build : Kind → String → Params → Build Params}
  (builds : ∀ k name ps, Composed true (build k name ps)) {k : Kind} {name : String}
  {own out : Params} (made : Gives (buildWith build k name own) out) (p : Param)
  (member : p ∈ k.params) (child : Kind)

include builds made member

theorem gives_built_specs (shape : p.shape = .specs child) (cs : Children)
    (there : Entries.get? own p.name = some (.specs child cs)) :
    ∃ ds, Entries.get? out p.name = some (.specs child ds) ∧
      Gives (buildCollection (build child) p.name cs) ds := by
  obtain ⟨v, w, reads, built, found⟩ := gives_buildWith builds made p member
  rw [there, Document.reading_of_holds _ (by simp [shape, Param.Shape.holds])] at reads
  obtain rfl := Except.ok.inj reads
  unfold buildValue at built
  rw [shape] at built
  obtain ⟨ds, gathers, rfl⟩ :=
    Build.gives_map (composed_buildCollection true _ (builds child) _ _) built
  refine ⟨ds, found.resolve_right ?_, gathers⟩
  rintro ⟨same, rfl, _⟩
  obtain rfl := eq_defaultParam p member same
  simp [defaultParam, Param.of] at shape

theorem gives_built_groups (shape : p.shape = .groups child) (gs : Groups)
    (there : Entries.get? own p.name = some (.groups child gs)) :
    ∃ hs, Entries.get? out p.name = some (.groups child hs) ∧
      Gives (buildGroups (build child) gs) hs := by
  obtain ⟨v, w, reads, built, found⟩ := gives_buildWith builds made p member
  rw [there, Document.reading_of_holds _ (by simp [shape, Param.Shape.holds])] at reads
  obtain rfl := Except.ok.inj reads
  unfold buildValue at built
  rw [shape] at built
  obtain ⟨hs, gathers, rfl⟩ :=
    Build.gives_map (.within _ _ (composed_buildGroups true _ (builds child) _)) built
  refine ⟨hs, found.resolve_right ?_, Build.gives_within gathers⟩
  rintro ⟨same, rfl, _⟩
  obtain rfl := eq_defaultParam p member same
  simp [defaultParam, Param.of] at shape

end

end Node

end PackSpec
