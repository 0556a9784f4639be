import PackSpec.Proofs.Document.Given
import PackSpec.Proofs.Specification.Rebuilt

set_option autoImplicit false

namespace PackSpec

open Build (Composed Gives)

namespace Node

def Changed (k : Kind) (ps out : Params) : Prop :=
  ∃ p ∈ k.params, ∃ w, Entries.get? out p.name = some w ∧
    (p.shape = .relationships → w = .relationships []) ∧
    w.same (Params.value ps p.name) = false

theorem Changed.not_same {k : Kind} {ps out : Params} (changed : Changed k ps out)
    (whole : Whole k ps) : Params.same out ps = false := by
  obtain ⟨p, member, w, found, _, differs⟩ := changed
  by_contra same
  obtain ⟨_, all⟩ := (Params.same_iff out ps).1 (by simpa using same)
  obtain ⟨v, there, equal⟩ := all (p.name, w) (Entries.mem_of_get? out p.name w found)
  rw [get?_of_names k ps whole.names p member] at there
  obtain rfl := Option.some.inj there
  simp [differs] at equal

section

variable {build : Kind → String → Params → Build Params}
  (builds : ∀ k name ps, Composed true (build k name ps)) {k : Kind} (p : Param)
  (member : p ∈ k.params)

include builds member

theorem gives_default (d w : Param.Value) (given_ : p.defaultValue = some d)
    (built : Gives (buildValue build p d) w) : w = d := by
  have empty (child : Kind) (declared : p.shape.child? = some child) :=
    p.defaultValue_collection d child declared (k.fits_defaults p member) given_
  unfold buildValue at built
  cases shape : p.shape with
  | specs child =>
    obtain rfl : d = .specs child [] :=
      (empty child (by rw [shape]; rfl)).trans (by rw [shape]; rfl)
    rw [shape] at built
    obtain ⟨out, made, rfl⟩ :=
      Build.gives_map (composed_buildCollection true _ (builds child) _ _) built
    rw [List.forall₂_nil_left_iff.1 (gives_buildCollection (builds child) _ [] out rfl made)]
  | groups child =>
    obtain rfl : d = .groups child [] :=
      (empty child (by rw [shape]; rfl)).trans (by rw [shape]; rfl)
    rw [shape] at built
    obtain ⟨out, made, rfl⟩ :=
      Build.gives_map (.within _ _ (composed_buildGroups true _ (builds child) _)) built
    rw [List.forall₂_nil_left_iff.1 (gives_buildGroups (builds child) [] out
      (Build.gives_within made))]
  | _ =>
    rw [shape] at built
    exact Build.gives_pure built

theorem changed_of_absent (name : String) (own out ps : Params)
    (built : Gives (buildWith build k name own) out) (absent : Entries.get? own p.name = none)
    (differs : ∀ d, p.defaultValue = some d → d.same (Params.value ps p.name) = false) :
    Changed k ps out := by
  obtain ⟨v, w, reads, made, found⟩ := gives_buildWith builds built p member
  rw [absent] at reads
  obtain ⟨d, given_, accepted⟩ := p.reading_ok k none v reads
  have given_ : p.defaultValue = some d := given_
  rw [p.accept_defaultValue d (k.fits_defaults p member) given_] at accepted
  obtain rfl := Option.some.inj accepted
  obtain rfl := gives_default builds p member d w given_ made
  refine ⟨p, member, w, ?_, fun shape => ?_, differs w given_⟩
  · rcases found with same | ⟨name, rfl, shape, same⟩
    · exact same
    · -- A default of its own is null for this parameter, which stays as it is under any type.
      obtain rfl := eq_defaultParam p member name
      obtain rfl : w = .null := (Option.some.inj given_).symm
      rw [same]
      cases shape <;> rfl
  · have fits := k.fits_defaults p member
    unfold Param.defaultValue at given_
    rw [shape] at fits
    cases default : p.default <;> simp_all [Param.Default.fits, Param.Shape.emptyValue]

end

end Node

namespace Encode

def paramsBelow : Nat → Kind → Option Params → Params → Except Problem (List (Yaml × Yaml))
  | 0 => fun _ _ _ => .ok []
  | depth + 1 => paramsAt depth

theorem paramsAt_eq (depth : Nat) (k : Kind) (defaults : Option Params) (ps : Params) :
    paramsAt depth k defaults ps = keys (paramsBelow depth) k defaults ps k.params := by
  cases depth <;> rfl

section

variable (write : Kind → Option Params → Params → Except Problem (List (Yaml × Yaml))) (k : Kind)
  (defaults : Option Params) (ps : Params)

def pairs (list : List Param) : List (String × Yaml) :=
  list.filterMap fun p => (written write k defaults ps p).map fun y => (p.external, y)

theorem lines_eq_named (list : List Param) :
    lines write k defaults ps list = Decode.named (pairs write k defaults ps list) := by
  rw [Decode.named, pairs, List.map_filterMap]
  simp only [Option.map_map]
  rfl

theorem mem_pairs (list : List Param) (e : String × Yaml)
    (member : e ∈ pairs write k defaults ps list) :
    ∃ p ∈ list, p.external = e.1 ∧ written write k defaults ps p = some e.2 := by
  obtain ⟨p, there, made⟩ := List.mem_filterMap.1 member
  obtain ⟨y, found, rfl⟩ := Option.map_eq_some_iff.1 made
  exact ⟨p, there, rfl, found⟩

theorem names_pairs (list : List Param) :
    (Entries.names (pairs write k defaults ps list)).Sublist (list.map Param.external) := by
  induction list with
  | nil => exact List.Sublist.refl _
  | cons p list ih =>
    rw [pairs, List.filterMap_cons]
    cases written write k defaults ps p with
    | none => exact ih.cons p.external
    | some y => exact ih.cons_cons p.external

theorem differs_of_written (p : Param) (v d : Param.Value) (y : Yaml)
    (found : Entries.get? ps p.name = some v) (there : written write k none ps p = some y)
    (given_ : p.defaultValue = some d) : d.same v = false := by
  have made := entry_of_written write k none ps p y there
  have beside : defaultBeside none p = some d := given_
  rw [entry, found] at made
  by_cases null : v.isNull = true
  · obtain rfl : v = .null := by cases v <;> simp_all [Param.Value.isNull]
    by_cases writes : writesNull none p = true
    · simp only [writesNull, beside, Option.any_some, Bool.and_eq_true] at writes
      cases d <;> simp_all [Param.Value.isNull, Param.Value.same]
    · simp [Param.Value.isNull, writes] at made
  · by_cases default : isDefault none p v = true
    · simp [null, default] at made
    · simpa [isDefault, beside] using default

end

/-- One key is taken out of the mapping of an entry of a kind, or of one of an entry below it. -/
inductive Without : Kind → List (Yaml × Yaml) → List (Yaml × Yaml) → Prop where
  | here (k : Kind) (before after : List (Yaml × Yaml)) (key v : Yaml) :
      Without k (before ++ (key, v) :: after) (before ++ after)
  | entry (k : Kind) (p : Param) (child : Kind) (member : p ∈ k.params)
      (shape : p.shape = .specs child) (before after first last : List (Yaml × Yaml)) (name : Yaml)
      (m m' : List (Yaml × Yaml)) (inside : Without child m m') :
      Without k (before ++ (.str p.external, .map (first ++ (name, .map m) :: last)) :: after)
        (before ++ (.str p.external, .map (first ++ (name, .map m') :: last)) :: after)
  | grouped (k : Kind) (p : Param) (child : Kind) (member : p ∈ k.params)
      (shape : p.shape = .groups child) (before after top bottom first last : List (Yaml × Yaml))
      (group name : Yaml) (m m' : List (Yaml × Yaml)) (inside : Without child m m') :
      Without k
        (before ++ (.str p.external,
          .map (top ++ (group, .map (first ++ (name, .map m) :: last)) :: bottom)) :: after)
        (before ++ (.str p.external,
          .map (top ++ (group, .map (first ++ (name, .map m') :: last)) :: bottom)) :: after)

open Node (Built Gathered Changed)

theorem named_of_written {α : Type} {R : String × α → List (Yaml × Yaml) → Prop} (cs : Entries α)
    (m : List (Yaml × Yaml))
    (each : List.Forall₂ (fun e y => ∃ w, R e w ∧ y = (.str e.1, .map w)) cs m) :
    ∃ es, m = Decode.named es ∧ Entries.names es = Entries.names cs ∧
      List.Forall₂ (fun e y => y.1 = e.1 ∧ ∃ w, R e w ∧ y.2 = .map w) cs es := by
  induction each with
  | nil => exact ⟨[], rfl, rfl, .nil⟩
  | @cons e y cs m first _ ih =>
    obtain ⟨w, made, rfl⟩ := first
    obtain ⟨es, rfl, names, all⟩ := ih
    exact ⟨(e.1, .map w) :: es, rfl, congrArg (e.1 :: ·) names, .cons ⟨rfl, w, made, rfl⟩ all⟩

theorem entry_of_split {α : Type} {R : String × α → List (Yaml × Yaml) → Prop} (cs : Entries α)
    (before after w : List (Yaml × Yaml)) (key : Yaml)
    (each : List.Forall₂ (fun e y => ∃ w, R e w ∧ y = (.str e.1, .map w)) cs
      (before ++ (key, .map w) :: after)) :
    ∃ front back, ∃ e ∈ cs, R e w ∧ ∀ y : Yaml,
      before ++ (key, y) :: after = Decode.named (front ++ (e.1, y) :: back) ∧
      Entries.names (front ++ (e.1, y) :: back) = Entries.names cs := by
  obtain ⟨es, named, names, all⟩ := named_of_written cs _ each
  obtain ⟨front, back, name, rfl, rfl, rfl, rfl⟩ := Decode.named_split es _ _ _ _ named.symm
  obtain ⟨e, member, here, v, written, same⟩ :=
    Node.exists_of_forall₂ _ _ all (name, .map w) (by simp)
  obtain rfl : v = w := (Yaml.map.inj same).symm
  obtain rfl : name = e.1 := here
  refine ⟨front, back, e, member, written, fun y => ⟨by simp [Decode.named], ?_⟩⟩
  rw [← names]
  simp [Entries.names]

section

variable {write : Kind → Option Params → Params → Except Problem (List (Yaml × Yaml))}
  {read : Kind → Yaml → Build (Option Params)} (reads : ∀ k v, Composed false (read k v))
  {build : Kind → String → Params → Build Params}
  (builds : ∀ k name ps, Composed true (build k name ps)) {child : Kind}
  {w w' : List (Yaml × Yaml)}
  (below : ∀ ps name own out, Built false child ps → write child none ps = .ok w →
    Gives (read child (.map w')) (some own) → Gives (build child name own) out →
    Changed child ps out)
  (something : ∀ r, Gives (read child (.map w')) r → ∃ own, r = some own)

include reads builds below something

theorem changed_collection (cs : Children) (first last : List (Yaml × Yaml)) (key : Yaml)
    (gathered : Gathered false child cs) (built : ∀ e ∈ cs, Built false child e.2)
    (made : collection (write child) cs = .ok (first ++ (key, .map w) :: last))
    (r : Option Children)
    (again : Gives (Decode.collection (read child) (.map (first ++ (key, .map w') :: last))) r) :
    ∃ own, r = some own ∧ ∀ segment out, Gives (Node.buildCollection (build child) segment own) out →
      Param.Value.childrenSame out cs = false := by
  obtain ⟨front, back, e, ordered, written, lines⟩ :=
    entry_of_split _ _ _ _ _ (collection_ok (write child) cs _ made)
  have inside : e ∈ cs := (perm_order cs gathered.distinct).mem_iff.1 ordered
  -- Nothing stands beside the entries, since none of them is named as the defaults are.
  have undefaulted : defaultsName ∉ Entries.names cs := gathered.defaults rfl
  have alone : beside cs e.1 = none := by
    unfold beside
    split
    · rfl
    · exact Entries.get?_eq_none cs _ undefaulted
  rw [alone] at written
  obtain ⟨named, names⟩ := lines (.map w')
  have absent : ∀ f ∈ front ++ (e.1, Yaml.map w') :: back, f.1 ≠ defaultsName := by
    intro f there same
    have listed : f.1 ∈ Entries.names (order cs) := names ▸ List.mem_map.2 ⟨f, there, rfl⟩
    rw [same] at listed
    exact undefaulted (((perm_order cs gathered.distinct).map Prod.fst).mem_iff.1 listed)
  have distinct : Entries.Distinct (front ++ (e.1, Yaml.map w') :: back) := by
    rw [Entries.Distinct, names]
    exact distinct_order cs gathered.distinct
  rw [named] at again
  obtain ⟨own, rfl, undefaulted_, found⟩ :=
    Decode.gives_collection (reads child) _ r again absent distinct
  refine ⟨own, rfl, fun segment out given_ => ?_⟩
  obtain ⟨s, reading, there⟩ := found (e.1, .map w') (by simp)
  obtain ⟨ps, rfl⟩ := something s reading
  have all := Node.gives_buildCollection (builds child) segment own out undefaulted_ given_
  obtain ⟨o, member, name, builds_⟩ := Node.exists_of_forall₂ _ _ all.flip (e.1, ps)
    (Entries.mem_of_get? own e.1 ps (there ps rfl))
  have changed := below e.2 e.1 ps o.2 (built e inside) written reading builds_
  by_contra equal
  rw [Bool.not_eq_false, Param.Value.childrenSame, Bool.and_eq_true,
    Param.Value.childrenIn_iff] at equal
  obtain ⟨qs, named, same⟩ := equal.2 o member
  rw [name, Entries.get?_of_mem cs e gathered.distinct inside] at named
  obtain rfl := Option.some.inj named
  simp [changed.not_same (built e inside).whole] at same

theorem changed_groups (gs : Groups) (top bottom first last : List (Yaml × Yaml)) (group key : Yaml)
    (every : (Param.Value.groups child gs).Every (Param.Value.Settled false))
    (made : gs.mapM (line (collection (write child))) =
      .ok (top ++ (group, .map (first ++ (key, .map w) :: last)) :: bottom))
    (hs : Groups)
    (again : Gives (Decode.groups (Decode.collection (read child)) []
      (top ++ (group, .map (first ++ (key, .map w') :: last)) :: bottom)) hs)
    (out : Groups) (gathers : Gives (Node.buildGroups (build child) hs) out) :
    (Param.Value.groups child out).same (.groups child gs) = false := by
  have each := forall₂_of_mapM _ _ gs _ (fun g _ y done => line_ok _ g y done) made
  obtain ⟨front, back, g, inside, written, lines⟩ := entry_of_split _ _ _ _ _ each
  obtain ⟨named, names⟩ := lines (.map (first ++ (key, .map w') :: last))
  rw [named] at again
  have distinct : Entries.Distinct (front ++ (g.1, Yaml.map (first ++ (key, .map w') :: last)) ::
      back) := by
    rw [Entries.Distinct, names]
    exact every.here.1
  have reads_ := Decode.composed_collection _ (reads child)
  obtain ⟨s, collects, there⟩ := Decode.get?_loop id (fun _ _ given_ => Build.gives_pure given_)
    (Decode.gives_groups_cons reads_) _ [] hs again distinct
    (g.1, .map (first ++ (key, .map w') :: last)) (by simp)
  obtain ⟨ds, rfl, differs⟩ := changed_collection reads builds below something g.2 first last key
    (every.here.2 g inside) (Node.built_of_groups false child gs every g inside) written s collects
  have all := Node.gives_buildGroups (builds child) hs out gathers
  obtain ⟨o, member, name, builds_⟩ := Node.exists_of_forall₂ _ _ all.flip (g.1, ds)
    (Entries.mem_of_get? hs g.1 ds (there ds rfl))
  by_contra equal
  rw [Bool.not_eq_false, Param.Value.same_groups, Bool.and_eq_true,
    Param.Value.groupsIn_iff] at equal
  obtain ⟨cs, found, same⟩ := equal.2 o member
  rw [name, Entries.get?_of_mem gs g every.here.1 inside] at found
  obtain rfl := Option.some.inj found
  simp [differs g.1 o.2 builds_] at same

end

end Encode

end PackSpec
