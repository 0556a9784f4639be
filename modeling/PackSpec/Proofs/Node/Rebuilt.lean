import PackSpec.Proofs.Build.Silent
import PackSpec.Proofs.Node.Built
import PackSpec.Proofs.Param.Same
import PackSpec.Proofs.Relationship.CompactForm

set_option autoImplicit false

namespace PackSpec

/-- What is built again of a value: the same, but for relation names that are the derived ones. -/
def Param.Value.Restored (a v : Param.Value) : Prop :=
  a.same v = true ∨ ∃ ds, v = .relationships ds ∧ a = .relationships (ds.map Decl.shortened)

theorem Param.Value.Restored.trans {a v w : Param.Value} (restored : a.Restored v)
    (same : v.same w = true) : a.Restored w := by
  rcases restored with first | ⟨ds, rfl, rfl⟩
  · exact .inl (Param.Value.same_trans a v w first same)
  · cases w <;> simp [Param.Value.same] at same
    exact .inr ⟨ds, by rw [same], rfl⟩

namespace Node

open Build (Yields)

variable {keeps : Bool}

section

variable {k : Kind} {out ps : Params} (names : Entries.names out = k.params.map Param.name)
  (whole : Whole k ps)
  (all : ∀ p ∈ k.params, (Params.value out p.name).same (Params.value ps p.name) = true)

include names whole all

theorem same_of_values : Params.same out ps = true := by
  rw [Params.same_iff]
  constructor
  · have lengths := congrArg List.length (names.trans whole.names.symm)
    simpa [Entries.names] using lengths
  · intro e member
    obtain ⟨p, there, name, value⟩ := mem_of_names k out names e member
    refine ⟨Params.value ps p.name, ?_, ?_⟩
    · rw [← name]
      exact get?_of_names k ps whole.names p there
    · rw [← value]
      exact all p there

end

theorem str?_of_same (out ps : Params) (name : String)
    (same : (Params.value out name).same (Params.value ps name) = true) :
    Params.str? out name = Params.str? ps name := by
  unfold Params.str?
  generalize Params.value out name = v at same
  generalize Params.value ps name = w at same
  cases v <;> cases w <;> simp_all [Param.Value.same]

theorem retyped_of_same (shape : Param.Shape) (v w : Param.Value) (same : v.same w = true)
    (retyped : Coerce.retyped shape w = w) (fits : Coerce.fits shape w = true) :
    (Coerce.retyped shape v).same w = true ∧
      Coerce.fits shape (Coerce.retyped shape v) = true := by
  cases w with
  | float x =>
    cases v with
    | float y => cases shape <;> first | exact ⟨same, fits⟩ | simp [Coerce.fits] at fits
    | _ => simp [Param.Value.same] at same
  | null | bool | int | str | strs =>
    cases v <;> simp [Param.Value.same] at same
    all_goals first
      | (subst same; rw [retyped]; exact ⟨by simp [Param.Value.same], fits⟩)
      | (rw [retyped]; exact ⟨by simp [Param.Value.same], fits⟩)
  | _ => cases shape <;> simp [Coerce.fits] at fits

theorem ensureOneOf_of_contains (name param value : String) (allowed : List String)
    (found : allowed.contains value = true) : ensureOneOf name param value allowed = .ok () := by
  rw [ensureOneOf, found, if_pos rfl]

theorem default_of_whole (ps : Params) (whole : Whole .zProperty ps) :
    let shape := Kind.typed .zProperty (some (Params.str ps "type_"))
    Coerce.retyped shape (Params.value ps "default") = Params.value ps "default" ∧
      Coerce.fits shape (Params.value ps "default") = true := by
  intro shape
  obtain ⟨fits, kept⟩ := typeDefault_ok ps ps (whole.checked "")
  have retyped : Coerce.retyped shape (Params.value ps "default") = Params.value ps "default" := by
    have value := congrArg (fun qs => Params.value qs "default") kept
    simpa [Params.value, Entries.get?_put] using value.symm
  exact ⟨retyped, by rwa [retyped] at fits⟩

theorem check_of_same (k : Kind) (name : String) (out ps : Params)
    (names : Entries.names out = k.params.map Param.name) (whole : Whole k ps)
    (all : ∀ p ∈ k.params, (Params.value out p.name).same (Params.value ps p.name) = true) :
    ∃ built, check k name out = .ok built ∧ Params.same built ps = true := by
  have passed := whole.checked name
  have named (name : String) (declared : name ∈ k.params.map Param.name) :
      (Params.value out name).same (Params.value ps name) = true := by
    obtain ⟨p, member, rfl⟩ := List.mem_map.1 declared
    exact all p member
  -- Only two kinds check anything.
  cases k with
  | zProperty =>
    obtain ⟨retyped, fits⟩ := default_of_whole ps whole
    have default := named "default" (by decide)
    have type : Params.str out "type_" = Params.str ps "type_" := by
      rw [Params.str, Params.str, str?_of_same out ps "type_" (named "type_" (by decide))]
    obtain ⟨same, fits_⟩ := retyped_of_same _ _ _ default retyped fits
    refine ⟨_, by rw [check, typeDefault]; simp only [type]; rw [if_pos fits_], ?_⟩
    have present : Entries.has out "default" = true :=
      (Entries.has_iff out "default").2 (names ▸ by decide)
    refine same_of_values (by rw [Entries.names_put_of_has _ _ _ present, names]) whole ?_
    intro p member
    rw [Params.value, Entries.get?_put]
    by_cases here : p.name = "default"
    · rw [if_pos here, here]
      exact same
    · rw [if_neg here]
      exact all p member
  | classProperty =>
    obtain ⟨_, backend_, scope⟩ := checkProperty_ok name ps ps passed
    have kind := str?_of_same out ps "api_backendtype" (named "api_backendtype" (by decide))
    have point := str?_of_same out ps "datapoint" (named "datapoint" (by decide))
    have scope_ := str?_of_same out ps "index_scope" (named "index_scope" (by decide))
    have same : backend out = backend ps := by
      rw [backend, backend, Params.str, Params.str, kind, point]
    have first := ensureOneOf_of_contains name "api_backendtype" (backend out) backends
      (same ▸ backend_)
    have second := ensureOneOf_of_contains name "index_scope" (Params.str out "index_scope")
      indexScopes (by rw [Params.str, scope_]; exact scope)
    refine ⟨out, ?_, same_of_values names whole all⟩
    rw [check, checkProperty, first, second]
    rfl
  | _ => exact ⟨out, rfl, same_of_values names whole all⟩

def Restores (keeps : Bool) (build : Kind → String → Params → Build Params) (k : Kind) (p : Param)
    (found : Option Param.Value) (v : Param.Value) : Prop :=
  ∃ w, p.reading k found = .ok w ∧
    ∃ a, Yields (· = keeps) (buildValue build p w) a ∧ a.Restored v

theorem Restores.trans {build : Kind → String → Params → Build Params} {k : Kind} {p : Param}
    {found : Option Param.Value} {v w : Param.Value} (restores : Restores keeps build k p found v)
    (same : v.same w = true) : Restores keeps build k p found w := by
  obtain ⟨u, reads, a, yields, restored⟩ := restores
  exact ⟨u, reads, a, yields, restored.trans same⟩

/-- A map that is built into the entry `ps` again. -/
structure Restoring (keeps : Bool) (build : Kind → String → Params → Build Params) (k : Kind)
    (ps params : Params) : Prop where
  declared : Declared k params
  restores : ∀ p ∈ k.params,
    Restores keeps build k p (Entries.get? params p.name) (Params.value ps p.name)

section

variable {build : Kind → String → Params → Build Params} {k : Kind} {ps params : Params}

theorem restored_same (p : Param) (other : p.shape ≠ .relationships) (a v : Param.Value)
    (fits : p.Fits v) (restored : a.Restored v) : a.same v = true := by
  rcases restored with same | ⟨ds, rfl, _⟩
  · exact same
  · exact absurd rfl (p.ne_relationships_of_fits _ fits other ds)

theorem yields_buildValues (values : Params) (list : List Param) (made : Param → Param.Value)
    (each : ∀ p ∈ list,
      Yields (· = keeps) (buildValue build p (Params.value values p.name)) (made p)) :
    Yields (· = keeps) (buildValues build values list) (list.map fun p => (p.name, made p)) := by
  induction list with
  | nil => exact Build.yields_pure []
  | cons p list ih =>
    refine Build.yields_bind (each p (by simp)) ?_
    exact Build.yields_map (f := fun rest => (p.name, made p) :: rest)
      (ih fun q member => each q (by simp [member]))

theorem readable_of_restoring (restoring : Restoring keeps build k ps params) :
    Readable k params := by
  intro p member
  obtain ⟨w, reads, _⟩ := restoring.restores p member
  exact ⟨w, reads⟩

theorem yields_restored (restoring : Restoring keeps build k ps params) :
    ∃ made : Param → Param.Value,
      Yields (· = keeps) (buildValues build (values k params) k.params)
        (k.params.map fun p => (p.name, made p)) ∧
      ∀ p ∈ k.params, (made p).Restored (Params.value ps p.name) := by
  have each (p : Param) : ∃ a, p ∈ k.params →
      Yields (· = keeps) (buildValue build p (Params.value (values k params) p.name)) a ∧
        a.Restored (Params.value ps p.name) := by
    by_cases member : p ∈ k.params
    · obtain ⟨w, reads, a, yields, restored⟩ := restoring.restores p member
      refine ⟨a, fun _ => ⟨?_, restored⟩⟩
      rw [value_values k params p member, p.read_of_reading k _ w reads]
      exact yields
    · exact ⟨.null, fun there => absurd there member⟩
  choose made fine using each
  exact ⟨made, yields_buildValues _ _ made fun p member => (fine p member).1,
    fun p member => (fine p member).2⟩

theorem yields_entry (below : k ≠ .zenPack) (whole : Whole k ps)
    (restoring : Restoring keeps build k ps params) (name : String) :
    ∃ built, Yields (· = keeps) (buildWith build k name params) built ∧
      Params.same built ps = true := by
  obtain ⟨made, yields, restored⟩ := yields_restored restoring
  have value (p : Param) (member : p ∈ k.params) :
      Params.value (k.params.map fun p => (p.name, made p)) p.name = made p := by
    rw [Params.value, Entries.get?_map_name k.params made p k.nodup_names member]
    rfl
  obtain ⟨built, passed, same⟩ := check_of_same k name (k.params.map fun p => (p.name, made p)) ps
    (by simp [Entries.names]) whole fun p member => by
      rw [value p member]
      exact restored_same p (shape_ne_relationships k below p member) _ _ (whole.fits p member)
        (restored p member)
  have entered : Yields (· = keeps) (enterNamespace k (values k params)) () := by
    cases k with
    | zenPack => exact absurd rfl below
    | _ => exact Build.yields_pure ()
  refine ⟨built, ?_, same⟩
  refine Build.yields_bind (fun c _ => run_readAll k params c (readable_of_restoring restoring)
    restoring.declared) ?_
  refine Build.yields_bind entered (Build.yields_bind yields ?_)
  rw [passed]
  exact Build.yields_pure built

end

section

variable {build : String → Params → Build Params}

theorem yields_buildEntries (es fs : Children)
    (each : List.Forall₂ (fun e f => f.1 = e.1 ∧ ∃ built,
      Yields (· = keeps) (build f.1 f.2) built ∧ Params.same built e.2 = true) es fs) :
    ∃ out, Yields (· = keeps) (buildEntries build fs) out ∧
      List.Forall₂ (fun e o => o.1 = e.1 ∧ Params.same o.2 e.2 = true) es out := by
  -- An entry that fails would be passed over; here none does.
  induction each with
  | nil => exact ⟨[], Build.yields_pure [], .nil⟩
  | @cons e f es fs first _ ih =>
    obtain ⟨name, built, yields, same⟩ := first
    obtain ⟨out, later, all⟩ := ih
    refine ⟨(f.1, built) :: out, ?_, .cons ⟨name, same⟩ all⟩
    rw [buildEntries_cons]
    refine Build.yields_recover (Build.yields_within f.1 yields) ?_
    exact Build.yields_map (f := fun rest => (f.1, built) :: rest) later

theorem yields_buildCollection (segment : String) (es cs : Children)
    (each : List.Forall₂ (fun e f => f.1 = e.1 ∧ ∃ built,
      Yields (· = keeps) (build f.1 f.2) built ∧ Params.same built e.2 = true) es
      (Overlay.apply keeps cs)) :
    ∃ out, Yields (· = keeps) (buildCollection build segment cs) out ∧
      List.Forall₂ (fun e o => o.1 = e.1 ∧ Params.same o.2 e.2 = true) es out := by
  obtain ⟨out, yields, all⟩ := yields_buildEntries es _ each
  refine ⟨out, ?_, all⟩
  rw [buildCollection_asking]
  exact Build.yields_asking keeps fun _ => Build.yields_within segment yields

theorem yields_buildGroups (gs hs : Groups)
    (each : List.Forall₂ (fun g h => h.1 = g.1 ∧ ∃ out,
      Yields (· = keeps) (buildCollection build h.1 h.2) out ∧
        Param.Value.childrenSame out g.2 = true) gs hs) :
    ∃ out, Yields (· = keeps) (buildGroups build hs) out ∧
      List.Forall₂ (fun g o => o.1 = g.1 ∧ Param.Value.childrenSame o.2 g.2 = true) gs out := by
  induction each with
  | nil => exact ⟨[], Build.yields_pure [], .nil⟩
  | @cons g h gs hs first _ ih =>
    obtain ⟨name, built, yields, same⟩ := first
    obtain ⟨out, later, all⟩ := ih
    refine ⟨(h.1, built) :: out, ?_, .cons ⟨name, same⟩ all⟩
    refine Build.yields_bind yields ?_
    exact Build.yields_map (f := fun rest => (h.1, built) :: rest) later

end

theorem childrenSame_of_perm (cs es out : Children) (distinct : Entries.Distinct cs)
    (perm : es.Perm cs)
    (all : List.Forall₂ (fun e o => o.1 = e.1 ∧ Params.same o.2 e.2 = true) es out) :
    Param.Value.childrenSame out cs = true := by
  rw [Param.Value.childrenSame, Bool.and_eq_true, beq_iff_eq, Param.Value.childrenIn_iff]
  refine ⟨all.length_eq.symm.trans perm.length_eq, fun o member => ?_⟩
  obtain ⟨e, there, name, same⟩ := exists_of_forall₂ es out all o member
  refine ⟨e.2, ?_, same⟩
  rw [name]
  exact Entries.get?_of_mem cs e distinct (perm.mem_iff.1 there)

theorem groupsSame_of_forall₂ (k : Kind) (gs out : Groups) (distinct : Entries.Distinct gs)
    (all : List.Forall₂ (fun g o => o.1 = g.1 ∧ Param.Value.childrenSame o.2 g.2 = true) gs out) :
    (Param.Value.groups k out).same (.groups k gs) = true := by
  rw [Param.Value.same_groups, Bool.and_eq_true, beq_iff_eq, Param.Value.groupsIn_iff]
  refine ⟨all.length_eq.symm, fun o member => ?_⟩
  obtain ⟨g, there, name, same⟩ := exists_of_forall₂ gs out all o member
  refine ⟨g.2, ?_, same⟩
  rw [name]
  exact Entries.get?_of_mem gs g distinct there

theorem yields_buildCollection_nil (build : String → Params → Build Params) (segment : String) :
    Yields (· = keeps) (buildCollection build segment []) [] := by
  rw [buildCollection_asking]
  refine Build.yields_asking keeps fun _ => Build.yields_within segment ?_
  rw [Overlay.apply_of_none keeps [] rfl]
  exact Build.yields_pure []

theorem restores_default (build : Kind → String → Params → Build Params) (k : Kind) (p : Param)
    (member : p ∈ k.params) (d v : Param.Value) (given_ : p.defaultValue = some d)
    (same : d.same v = true) : Restores keeps build k p none v := by
  refine ⟨d, ?_, d, ?_, .inl same⟩
  · have settled : p.settled none = some d := given_
    rw [Param.reading, settled]
    simp only [p.accept_defaultValue d (k.fits_defaults p member) given_]
  · unfold buildValue
    cases shape : p.shape with
    | specs child =>
      have empty := p.defaultValue_collection d child (by rw [shape]; rfl) (k.fits_defaults p member)
        given_
      rw [shape] at empty
      subst empty
      exact Build.yields_map (f := Param.Value.specs child) (yields_buildCollection_nil _ _)
    | groups child =>
      have empty := p.defaultValue_collection d child (by rw [shape]; rfl) (k.fits_defaults p member)
        given_
      rw [shape] at empty
      subst empty
      exact Build.yields_map (f := Param.Value.groups child)
        (Build.yields_within _ (Build.yields_pure []))
    | _ => exact Build.yields_pure d

end Node

end PackSpec
