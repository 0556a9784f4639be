import PackSpec.Proofs.Build.Paired
import PackSpec.Proofs.Node.Built
import PackSpec.Proofs.Param.Trimmed

set_option autoImplicit false

namespace PackSpec

open Param.Value (trimmedParams trimmedChildren trimmedGroups)
open Build (Follows)

theorem Overlay.apply_false {α : Type} (c : Entries (Entries α)) :
    apply false c = Entries.erase (apply true c) defaultsName := by
  unfold apply
  cases found : Entries.get? c defaultsName with
  | none => exact (erase_of_none c _ found).symm
  | some defaults =>
    simp only [Bool.false_eq_true, if_false, if_true, Entries.erase]
    rw [List.filter_map]
    congr 1
    refine List.filter_congr fun e _ => ?_
    rw [Function.comp_apply, fillUnlessDefaults]
    split <;> rfl

theorem Param.Value.trimmed_of_flat (v : Param.Value) (flat : v.child? = none) : v.trimmed = v := by
  cases v <;> first | rfl | simp [child?] at flat

theorem Param.Shape.emptyValue_ne_null (s : Shape) (child : Kind)
    (collection : s.child? = some child) : s.emptyValue ≠ .null := by
  cases s with
  | specs | groups => simp [emptyValue]
  | _ => simp [child?] at collection

namespace Node

variable {ns : String}

/-- Building with `build'` follows building with `build`, and gives the same but for defaults. -/
def Trims (ns : String) (build build' : String → Params → Build Params) : Prop :=
  ∀ name ps, Build.Composed true (build name ps) ∧
    Follows ns (fun built built' => built' = trimmedParams built) (build name ps) (build' name ps)

section

variable {build build' : String → Params → Build Params} (trims : Trims ns build build')

include trims

theorem follows_buildEntries (cs : Children) :
    Follows ns (fun out out' => out' = trimmedChildren out) (buildEntries build cs)
      (buildEntries build' (Entries.erase cs defaultsName)) := by
  induction cs with
  | nil => exact Build.follows_pure rfl
  | cons e cs ih =>
    obtain ⟨name, ps⟩ := e
    obtain ⟨composed, follows⟩ := trims name ps
    rw [buildEntries_cons, Entries.erase, List.filter_cons]
    by_cases defaults : name = defaultsName
    · -- What the entry of defaults comes to is not in the trimmed collection.
      rw [if_neg (by simp [defaults])]
      refine Build.follows_recover_left (composed.within name _)
        (Build.follows_within name follows) (fun built => ?_) ih
      refine fun c c' alike => ?_
      have ran := ih c c' alike
      rw [Build.run_bind]
      generalize (buildEntries build cs).run c = result at ran ⊢
      rcases result with ⟨d | out, after⟩
      · exact ran
      · obtain ⟨out', after', run, same, alike'⟩ := ran
        exact ⟨out', after', run, by simp [trimmedChildren, defaults, same], alike'⟩
    · rw [if_pos (by simpa using defaults), buildEntries_cons]
      refine Build.follows_recover (Build.follows_within name follows) ?_ ih
      rintro built _ rfl
      refine Build.follows_bind _ ih ?_
      rintro out _ rfl
      exact Build.follows_pure (by simp [trimmedChildren, defaults])

theorem follows_buildCollection (segment : String) (cs : Children) :
    Follows ns (fun out out' => out' = trimmedChildren out) (buildCollection build segment cs)
      (buildCollection build' segment cs) := by
  rw [buildCollection_asking, buildCollection_asking]
  apply Build.follows_asking
  rw [Overlay.apply_false]
  exact Build.follows_within segment (follows_buildEntries trims _)

theorem follows_buildGroups (gs : Groups) :
    Follows ns (fun out out' => out' = trimmedGroups out) (buildGroups build gs)
      (buildGroups build' gs) := by
  induction gs with
  | nil => exact Build.follows_pure rfl
  | cons g gs ih =>
    obtain ⟨name, cs⟩ := g
    refine Build.follows_bind _ (follows_buildCollection trims name cs) ?_
    rintro built _ rfl
    refine Build.follows_bind _ ih ?_
    rintro out _ rfl
    exact Build.follows_pure rfl

end

structure Beside (k : Kind) (name : String) (w w' : Param.Value) : Prop where
  trimmed : w' = w.trimmed ∨ (k = .zProperty ∧ name = "default")
  flat : k = .zProperty → w' = w

theorem flat_zProperty (p : Param) (member : p ∈ Kind.params .zProperty) : p.shape.child? = none := by
  revert p
  decide

theorem follows_buildValue {build build' : Kind → String → Params → Build Params} (k : Kind)
    (p : Param) (member : p ∈ k.params) (v : Param.Value)
    (fits : p.shape.isPlain = true → p.Fits v)
    (trims : ∀ child, p.shape.child? = some child → Trims ns (build child) (build' child)) :
    Follows ns (Beside k p.name) (buildValue build p v) (buildValue build' p v) := by
  rcases plain_or_default k p member with plain | ⟨rfl, rfl⟩
  · cases collection : p.shape.child? with
    | none =>
      have unbuilt (build : Kind → String → Params → Build Params) :
          buildValue build p v = pure v := by
        unfold buildValue
        cases shape : p.shape <;> first | rfl | simp [shape, Param.Shape.child?] at collection
      have flat := p.child?_of_fits v (fits plain) collection
      rw [unbuilt, unbuilt]
      exact Build.follows_pure ⟨.inl (Param.Value.trimmed_of_flat v flat).symm, fun _ => rfl⟩
    | some child =>
      -- Configuration properties hold no collections.
      have other : k ≠ .zProperty := fun same => by
        subst same
        simp [flat_zProperty p member] at collection
      have holds : p.shape.holds v = true := by
        refine (fits plain).resolve_left fun null => ?_
        have empty := p.defaultValue_collection _ child collection (k.fits_defaults p member) null.2
        exact p.shape.emptyValue_ne_null child collection empty.symm
      have trims := trims child collection
      unfold buildValue
      cases shape : p.shape with
      | specs declared =>
        rw [shape] at holds collection
        obtain rfl := Option.some.inj collection
        cases v with
        | specs found cs =>
          obtain rfl : found = declared := by simpa [Param.Shape.holds] using holds
          refine Build.follows_bind _ (follows_buildCollection trims p.name cs) ?_
          rintro out _ rfl
          exact Build.follows_pure ⟨.inl rfl, fun same => absurd same other⟩
        | _ => simp [Param.Shape.holds] at holds
      | groups declared =>
        rw [shape] at holds collection
        obtain rfl := Option.some.inj collection
        cases v with
        | groups found gs =>
          obtain rfl : found = declared := by simpa [Param.Shape.holds] using holds
          refine Build.follows_bind _ (Build.follows_within p.name
            (follows_buildGroups trims gs)) ?_
          rintro out _ rfl
          exact Build.follows_pure ⟨.inl rfl, fun same => absurd same other⟩
        | _ => simp [Param.Shape.holds] at holds
      | _ => simp [shape, Param.Shape.child?] at collection
  · exact Build.follows_pure ⟨.inr ⟨rfl, rfl⟩, fun _ => rfl⟩

theorem follows_buildValues {build build' : Kind → String → Params → Build Params}
    (made : String → Param.Value → Param.Value → Prop) (values : Params) (ps : List Param)
    (builds : ∀ p ∈ ps, Follows ns (made p.name) (buildValue build p (Params.value values p.name))
      (buildValue build' p (Params.value values p.name))) :
    Follows ns (List.Forall₂ fun e e' => e'.1 = e.1 ∧ made e.1 e.2 e'.2)
      (buildValues build values ps) (buildValues build' values ps) := by
  induction ps with
  | nil => exact Build.follows_pure .nil
  | cons p ps ih =>
    refine Build.follows_bind (made p.name) (builds p (by simp)) fun w w' fine => ?_
    refine Build.follows_bind _ (ih fun q member => builds q (by simp [member])) ?_
    exact fun out out' rest => Build.follows_pure (.cons ⟨rfl, fine⟩ rest)

theorem trimmed_of_beside (k : Kind) (out out' : Params)
    (all : List.Forall₂ (fun e e' => e'.1 = e.1 ∧ Beside k e.1 e.2 e'.2) out out')
    (other : k ≠ .zProperty) : out' = trimmedParams out := by
  induction all with
  | nil => rfl
  | @cons e e' out out' first _ ih =>
    obtain ⟨name, beside⟩ := first
    have same : e'.2 = e.2.trimmed := beside.trimmed.resolve_right fun typed => other typed.1
    rw [trimmedParams, ih, ← same, ← name]

theorem same_of_beside (out out' : Params)
    (all : List.Forall₂ (fun e e' => e'.1 = e.1 ∧ Beside .zProperty e.1 e.2 e'.2) out out') :
    out' = out ∧ ∀ e ∈ out, e.1 = "default" ∨ e.2.trimmed = e.2 := by
  induction all with
  | nil => exact ⟨rfl, by simp⟩
  | @cons e e' out out' first _ ih =>
    obtain ⟨name, beside⟩ := first
    have same := beside.flat rfl
    refine ⟨by rw [ih.1, Prod.ext name same], fun d member => ?_⟩
    rcases List.mem_cons.1 member with rfl | later
    · exact beside.trimmed.symm.imp And.right fun trimmed => trimmed.symm.trans same
    · exact ih.2 d later

theorem trimmed_put_default (out : Params) (d : Param.Value) (fits : d.trimmed = d)
    (flat : ∀ e ∈ out, e.1 = "default" ∨ e.2.trimmed = e.2) :
    trimmedParams (Entries.put out "default" d) = Entries.put out "default" d := by
  rw [Params.trimmed_eq]
  refine (List.map_congr_left fun e member => ?_).trans (List.map_id _)
  refine Prod.ext rfl ?_
  dsimp only [id]
  unfold Entries.put at member
  split at member
  · obtain ⟨e, there, rfl⟩ := List.mem_map.1 member
    by_cases default : e.1 = "default"
    · simpa [default] using fits
    · simpa [default] using (flat e there).resolve_left default
  · next absent =>
    rcases List.mem_append.1 member with there | last
    · have other : e.1 ≠ "default" := fun same =>
        absent ((Entries.has_iff out "default").2 (List.mem_map.2 ⟨e, there, same⟩))
      exact (flat e there).resolve_left other
    · rw [List.mem_singleton.1 last]
      exact fits

theorem checkProperty_trimmed (name : String) (ps : Params) :
    checkProperty name (trimmedParams ps) = (checkProperty name ps).map trimmedParams := by
  have backend_ : backend (trimmedParams ps) = backend ps := by
    rw [backend, Params.str?_trimmed, Params.str_trimmed, backend]
  unfold checkProperty
  rw [backend_, Params.str_trimmed]
  cases ensureOneOf name "api_backendtype" (backend ps) backends with
  | error e => rfl
  | ok _ =>
    cases ensureOneOf name "index_scope" (Params.str ps "index_scope") indexScopes <;> rfl

theorem check_trimmed (k : Kind) (other : k ≠ .zProperty) (name : String) (ps : Params) :
    check k name (trimmedParams ps) = (check k name ps).map trimmedParams := by
  cases k with
  | zProperty => exact absurd rfl other
  | classProperty => exact checkProperty_trimmed name ps
  | _ => rfl

theorem follows_check (k : Kind) (name : String) (out out' : Params)
    (all : List.Forall₂ (fun e e' => e'.1 = e.1 ∧ Beside k e.1 e.2 e'.2) out out') :
    Follows ns (fun built built' => built' = trimmedParams built)
      (Build.ofExcept (check k name out)) (Build.ofExcept (check k name out')) := by
  by_cases zProperty : k = .zProperty
  -- The check of a configuration property changes its default, which is flat once it fits.
  · subst zProperty
    obtain ⟨rfl, flat⟩ := same_of_beside out out' all
    refine Build.follows_ofExcept _ _ (fun built done => ⟨built, done, ?_⟩) fun e failed => failed
    obtain ⟨other, _⟩ | ⟨_, d, rfl, fits⟩ := check_ok .zProperty name out' built done
    · exact absurd rfl other
    · exact (trimmed_put_default out' d
        (Param.Value.trimmed_of_flat d (Param.child?_of_fits defaultParam d fits rfl)) flat).symm
  · rw [trimmed_of_beside k out out' all zProperty, check_trimmed k zProperty]
    refine Build.follows_ofExcept _ _ (fun built done => ⟨_, by rw [done]; rfl, rfl⟩) ?_
    intro e failed
    rw [failed]
    rfl

theorem follows_reportLeftOver (k : Kind) (names : List String) :
    Follows ns (fun _ _ => True) (reportLeftOver k names) (reportLeftOver k names) := by
  induction names with
  | nil => exact Build.follows_pure trivial
  | cons name names ih =>
    exact Build.follows_bind _ (Build.follows_within name (Build.follows_report _)) fun _ _ _ => ih

theorem follows_readAll (k : Kind) (params : Params) :
    Follows ns (fun read read' => read' = read ∧ read = values k params ∧ Readable k params)
      (readAll k params) (readAll k params) := by
  -- The parameters are the same on both sides, and a read asks nothing else of its context.
  have same : Follows ns (fun read read' => read' = read) (readAll k params) (readAll k params) := by
    refine Build.follows_bind (fun a a' => a' = a) (Build.follows_ofExcept _ _ ?_ ?_) ?_
    · exact fun a done => ⟨a, done, rfl⟩
    · exact fun e failed => failed
    · rintro read _ rfl
      exact Build.follows_bind _ (follows_reportLeftOver k _) fun _ _ _ => Build.follows_pure rfl
  intro c c' alike
  have ran := same c c' alike
  have read_ := readAll_ok k params
  generalize ran_ : (readAll k params).run c = result at ran ⊢
  rcases result with ⟨d | read, after⟩
  · exact ran
  · obtain ⟨readable, eq⟩ := read_ read c after ran_
    obtain ⟨read', after', run, same, alike'⟩ := ran
    exact ⟨read', after', run, ⟨same, eq, readable⟩, alike'⟩

section

variable {build build' : Kind → String → Params → Build Params} {k : Kind} {params : Params}
  (trims : ∀ p ∈ k.params, ∀ child, p.shape.child? = some child →
    Trims ns (build child) (build' child))
  (readable : Readable k params)

include trims readable

theorem follows_rest (name : String) :
    Follows ns (fun built built' => built' = trimmedParams built)
      (do
        let built ← buildValues build (values k params) k.params
        Build.ofExcept (check k name built))
      (do
        let built ← buildValues build' (values k params) k.params
        Build.ofExcept (check k name built)) := by
  refine Build.follows_bind _ (follows_buildValues (Beside k) (values k params) k.params ?_)
    (follows_check k name)
  intro p member
  refine follows_buildValue k p member _ (fun plain => ?_) (trims p member)
  rw [value_values k params p member]
  exact p.fits_read k _ plain (readable p member)

end

theorem follows_buildWith {build build' : Kind → String → Params → Build Params} (k : Kind)
    (below : k ≠ .zenPack)
    (trims : ∀ p ∈ k.params, ∀ child, p.shape.child? = some child →
      Trims ns (build child) (build' child)) (name : String) (params : Params) :
    Follows ns (fun built built' => built' = trimmedParams built)
      (buildWith build k name params) (buildWith build' k name params) := by
  have entered (values : Params) : enterNamespace k values = pure () := by
    cases k <;> first | rfl | exact absurd rfl below
  refine Build.follows_bind _ (follows_readAll k params) ?_
  rintro read _ ⟨rfl, rfl, readable⟩
  rw [entered]
  exact follows_rest trims readable name

theorem trims_buildAt (depth : Nat) (k : Kind) (below : k ≠ .zenPack) :
    Trims ns (buildAt depth k) (buildAt depth k) := by
  induction depth generalizing k with
  | zero =>
    refine fun name ps => ⟨composed_buildAt 0 k name ps, follows_buildWith k below ?_ name ps⟩
    exact fun _ _ _ _ _ _ => ⟨.pure _, Build.follows_pure rfl⟩
  | succ depth ih =>
    refine fun name ps => ⟨composed_buildAt (depth + 1) k name ps, follows_buildWith k below ?_ name ps⟩
    exact fun p member child collection =>
      ih child fun same => child?_ne_zenPack k p member (same ▸ collection)

end Node

end PackSpec
