import PackSpec.Proofs.Build.Confined
import PackSpec.Proofs.Build.Tallied
import PackSpec.Proofs.Specification.Framed

set_option autoImplicit false

namespace PackSpec

namespace Node

open Build (Composed Confined Framed)

theorem confined_reportLeftOver {own : Bool} (k : Kind) (names : List String) :
    Confined own (reportLeftOver k names) := by
  induction names with
  | nil => exact Build.confined_pure ()
  | cons name names ih =>
    exact Build.confined_bind (.within name _ (.report _)) (Build.confined_report name _ rfl)
      fun _ => ih

theorem confined_readAll (k : Kind) (params : Params) : Confined true (readAll k params) :=
  Build.confined_bind (.ofExcept true _) (Build.confined_ofExcept _) fun _ =>
    Build.confined_bind (composed_reportLeftOver true k _) (confined_reportLeftOver k _)
      fun _ => Build.confined_pure _

section

variable {build : String → Params → Build Params}
  (composed : ∀ name ps, Composed true (build name ps))
  (builds : ∀ name ps, Confined true (build name ps))

include composed builds

theorem confined_buildEntries (cs : Children) : Confined false (buildEntries build cs) := by
  induction cs with
  | nil => exact Build.confined_pure []
  | cons e cs ih =>
    obtain ⟨name, ps⟩ := e
    rw [buildEntries_cons]
    exact Build.confined_recover name (composed name ps) (builds name ps)
      (fun _ => Build.confined_map (composed_buildEntries true build composed cs) ih) ih

theorem confined_buildCollection (segment : String) (cs : Children) :
    Confined false (buildCollection build segment cs) :=
  Build.confined_asking (f := fun keeps _ =>
      Build.within segment (buildEntries build (Overlay.apply keeps cs)))
    fun _ _ => Build.confined_within segment (confined_buildEntries composed builds _)

theorem confined_buildGroups (gs : Groups) : Confined false (buildGroups build gs) := by
  induction gs with
  | nil => exact Build.confined_pure []
  | cons g gs ih =>
    obtain ⟨name, cs⟩ := g
    exact Build.confined_bind (composed_buildCollection true build composed name cs)
      (confined_buildCollection composed builds name cs)
      fun _ => Build.confined_map (composed_buildGroups true build composed gs) ih

end

section

variable {build : Kind → String → Params → Build Params}
  (composed : ∀ k name ps, Composed true (build k name ps))
  (builds : ∀ k name ps, Confined true (build k name ps))

include composed builds

theorem confined_buildValue (p : Param) (v : Param.Value) :
    Confined false (buildValue build p v) := by
  unfold buildValue
  split
  · exact Build.confined_map (composed_buildCollection true _ (composed _) _ _)
      (confined_buildCollection (composed _) (builds _) _ _)
  · exact Build.confined_map (.within _ _ (composed_buildGroups true _ (composed _) _))
      (Build.confined_within _ (confined_buildGroups (composed _) (builds _) _))
  · exact Build.confined_pure _

theorem confined_buildValues (values : Params) (ps : List Param) :
    Confined false (buildValues build values ps) := by
  induction ps with
  | nil => exact Build.confined_pure []
  | cons p ps ih =>
    exact Build.confined_bind (composed_buildValue true build composed p _)
      (confined_buildValue composed builds p _)
      fun _ => Build.confined_map (composed_buildValues true build composed values ps) ih

theorem confined_buildWith (k : Kind) (name : String) (params : Params) :
    Confined true (buildWith build k name params) := by
  have enters (values : Params) : Confined true (enterNamespace k values) := by
    unfold enterNamespace
    split
    · exact Build.confined_rename _
    · exact Build.confined_pure ()
  exact Build.confined_bind (composed_readAll true k params) (confined_readAll k params)
    fun values => Build.confined_bind (composed_enterNamespace k values) (enters values)
      fun _ => Build.confined_bind (composed_buildValues true build composed values _)
        (confined_buildValues composed builds values _).any fun _ => Build.confined_ofExcept _

end

theorem confined_buildAt (depth : Nat) (k : Kind) (name : String) (params : Params) :
    Confined true (buildAt depth k name params) := by
  induction depth generalizing k name params with
  | zero =>
    exact confined_buildWith (fun _ _ _ => .pure []) (fun _ _ _ => Build.confined_pure []) k name
      params
  | succ depth ih => exact confined_buildWith (composed_buildAt depth) ih k name params

theorem framed_buildAt (depth : Nat) (k : Kind) (below : k ≠ .zenPack) (name : String)
    (params : Params) (c : Context) : Framed false c ((buildAt depth k name params).run c).2 := by
  have framed := Build.framed_run (composed_buildAt depth k name params) c
  have steady := (meets_framed_at (Build.framed_steady c.keepsDefaults c.ns) depth k below name params
    c ⟨rfl, rfl⟩).1
  exact ⟨framed.mode, framed.index, framed.location, framed.keepsDefaults, framed.items,
    fun _ => steady.2⟩

structure Lone (b : Build Params) : Prop where
  composed : Composed true b
  confined : Confined true b
  framed : ∀ c, Framed false c (b.run c).2

theorem lone_buildAt (depth : Nat) (k : Kind) (below : k ≠ .zenPack) (name : String)
    (params : Params) : Lone (buildAt depth k name params) :=
  ⟨composed_buildAt depth k name params, confined_buildAt depth k name params,
    framed_buildAt depth k below name params⟩

/-- What became of entries that were built one after the other at the place of `c`. An entry is kept
or dropped as it is on its own there. -/
inductive Treated (build : String → Params → Build Params) (c : Context) :
    Children → List Diagnostic → Children → Prop where
  | nil : Treated build c [] [] []
  | kept {name : String} {ps out : Params} {inner ds : List Diagnostic} {es built : Children}
      (alone : ∀ c', (c.enter name).Beside c' → ((build name ps).run c').1 = .ok out)
      (inside : ∀ d ∈ inner, d.Below (c.location.path ++ [name]))
      (rest : Treated build c es ds built) :
      Treated build c ((name, ps) :: es) (inner ++ ds) ((name, out) :: built)
  | dropped {name : String} {ps : Params} {d : Diagnostic} {inner ds : List Diagnostic}
      {es built : Children}
      (alone : ∀ c', (c.enter name).Beside c' →
        ∃ d', ((build name ps).run c').1 = .error d' ∧ d.mark = d'.mark)
      (inside : ∀ d ∈ inner, d.Below (c.location.path ++ [name])) (level : d.level = .error)
      (recoverable : d.error.isRecoverable = true)
      (stands : d.location.path = c.location.path ++ [name])
      (rest : Treated build c es ds built) :
      Treated build c ((name, ps) :: es) (inner ++ d :: ds) built

theorem beside_record {c c' : Context} (beside : c.Beside c') (ds : List Diagnostic) :
    (c.record ds).Beside c' :=
  c'.record_nil ▸ beside.record ds []

theorem Lone.run_cases {b : Build Params} (lone : Lone b) (c : Context)
    (lenient : c.diagnostics.mode = .lenient) (prior : List Diagnostic) :
    ∃ inner, (b.run (c.record prior)).2 = c.record (prior ++ inner) ∧
      (∀ d ∈ inner, d.Below c.location.path) ∧
      ((∃ out, (b.run (c.record prior)).1 = .ok out ∧
          ∀ c', c.Beside c' → (b.run c').1 = .ok out) ∨
        ∃ d, (b.run (c.record prior)).1 = .error d ∧ d.level = .error ∧
          (d.error.isRecoverable = true → d.location.path = c.location.path) ∧
          ∀ c', c.Beside c' → ∃ d', (b.run c').1 = .error d' ∧ d.mark = d'.mark) := by
  obtain ⟨inner, same⟩ := Build.record_of_framed (lone.framed (c.record prior))
  obtain ⟨⟨ds, items, below⟩, ends⟩ := lone.confined (c.record prior) lenient
  obtain rfl : ds = inner := by
    rw [same] at items
    exact (List.append_cancel_left items).symm
  refine ⟨ds, same.trans (c.record_record prior ds), fun d member => (below d member).2, ?_⟩
  have alike (c' : Context) (beside : c.Beside c') :
      Build.Ends Eq (b.run (c.record prior)).1 (b.run c').1 :=
    (Build.tallies_self lone.composed _ _ (beside_record beside prior)).ends
  generalize (b.run (c.record prior)).1 = result at ends alike ⊢
  cases result with
  | ok out =>
    refine .inl ⟨out, rfl, fun c' beside => ?_⟩
    have ends' := alike c' beside
    generalize (b.run c').1 = result' at ends' ⊢
    cases result' with
    | ok out' => exact congrArg Except.ok ends'.symm
    | error => exact ends'.elim
  | error d =>
    obtain ⟨level, stands⟩ := ends d rfl
    refine .inr ⟨d, rfl, level, fun recoverable => (stands recoverable).2, fun c' beside => ?_⟩
    have ends' := alike c' beside
    generalize (b.run c').1 = result' at ends' ⊢
    cases result' with
    | ok => exact ends'.elim
    | error d' => exact ⟨d', rfl, ends'⟩

theorem treated_of_run {build : String → Params → Build Params}
    (lone : ∀ name ps, Lone (build name ps)) (c : Context)
    (lenient : c.diagnostics.mode = .lenient) (prior : List Diagnostic) (es : Children) :
    match (buildEntries build es).run (c.record prior) with
    | (.error d, _) => d.error.isRecoverable = false
    | (.ok built, after) => ∃ ds, after = c.record (prior ++ ds) ∧ Treated build c es ds built := by
  -- By induction on the entries: what was recorded before an entry does not matter to it.
  induction es generalizing prior with
  | nil => exact ⟨[], by rw [List.append_nil], .nil⟩
  | cons e es ih =>
    obtain ⟨name, ps⟩ := e
    obtain ⟨inner, last, inside, ends⟩ := (lone name ps).run_cases (c.enter name) lenient prior
    have entered : (c.record prior).enter name = (c.enter name).record prior := rfl
    rw [buildEntries_cons, Build.run_recover, Build.run_within, entered, last,
      c.leave_record_enter name]
    rcases ends with ⟨out, here, alone⟩ | ⟨d, here, level, stands, alone⟩
    · rw [here]
      dsimp only
      have rest := ih (prior ++ inner)
      rw [Build.run_bind]
      generalize (buildEntries build es).run (c.record (prior ++ inner)) = result at rest ⊢
      obtain ⟨_ | built, after⟩ := result
      · exact rest
      · obtain ⟨ds, rfl, treated⟩ := rest
        exact ⟨inner ++ ds, by rw [← List.append_assoc], .kept alone inside treated⟩
    · rw [here]
      dsimp only
      rw [Build.run_handle_lenient d (c.record (prior ++ inner)) lenient level]
      by_cases recoverable : d.error.isRecoverable = true
      · rw [if_pos recoverable, c.record_record]
        dsimp only
        have rest := ih (prior ++ inner ++ [d])
        generalize (buildEntries build es).run (c.record (prior ++ inner ++ [d])) = result at rest ⊢
        obtain ⟨_ | built, after⟩ := result
        · exact rest
        · obtain ⟨ds, rfl, treated⟩ := rest
          exact ⟨inner ++ d :: ds, by simp,
            .dropped alone inside level recoverable (stands recoverable) treated⟩
      · rw [if_neg recoverable]
        simpa using recoverable

namespace Treated

open Diagnostic (errorsAt)

variable {build : String → Params → Build Params} {c : Context} {es built : Children}
  {ds : List Diagnostic}

theorem errorsAt_absent (treated : Treated build c es ds built) (name : String)
    (absent : name ∉ Entries.names es) : errorsAt (c.location.path ++ [name]) ds = [] := by
  induction treated with
  | nil => rfl
  | kept _ inside _ ih =>
    rw [Entries.names, List.map_cons, List.mem_cons, not_or] at absent
    rw [Diagnostic.errorsAt_append, Diagnostic.errorsAt_below _ _ _ _ inside, ih absent.2]
    rfl
  | dropped _ inside level _ stands _ ih =>
    rw [Entries.names, List.map_cons, List.mem_cons, not_or] at absent
    rw [Diagnostic.errorsAt_append, Diagnostic.errorsAt_below _ _ _ _ inside,
      Diagnostic.errorsAt_cons _ _ _ _ _ level stands, if_neg absent.1, ih absent.2]
    rfl

theorem names_built (treated : Treated build c es ds built) (distinct : Entries.Distinct es) :
    Entries.names built =
      (Entries.names es).filter fun name => (errorsAt (c.location.path ++ [name]) ds).isEmpty := by
  induction treated with
  | nil => rfl
  | @kept name ps out inner ds es built _ inside rest ih =>
    obtain ⟨absent, distinct_⟩ := List.nodup_cons.1 distinct
    simp only [Entries.names, List.map_cons, Diagnostic.errorsAt_append,
      Diagnostic.errorsAt_below _ _ _ _ inside, List.nil_append]
    rw [List.filter_cons_of_pos (by rw [rest.errorsAt_absent name absent]; rfl)]
    exact congrArg (List.cons name) (ih distinct_)
  | @dropped name ps d inner ds es built _ inside level _ stands rest ih =>
    obtain ⟨absent, distinct_⟩ := List.nodup_cons.1 distinct
    simp only [Entries.names, List.map_cons, Diagnostic.errorsAt_append,
      Diagnostic.errorsAt_below _ _ _ _ inside, List.nil_append,
      Diagnostic.errorsAt_cons _ _ _ _ _ level stands]
    rw [List.filter_cons_of_neg (by simp)]
    refine (ih distinct_).trans (List.filter_congr fun other member => ?_)
    have other_ : other ≠ name := fun same => absent (same ▸ member)
    rw [if_neg other_]

theorem get?_built (treated : Treated build c es ds built) (name : String)
    (absent : name ∉ Entries.names es) : Entries.get? built name = none := by
  refine Entries.get?_eq_none _ _ fun member => ?_
  induction treated with
  | nil => exact absent member
  | kept _ _ _ ih =>
    rw [Entries.names, List.map_cons, List.mem_cons, not_or] at absent
    rcases List.mem_cons.1 member with same | later
    · exact absent.1 same
    · exact ih absent.2 later
  | dropped _ _ _ _ _ _ ih =>
    rw [Entries.names, List.map_cons, List.mem_cons, not_or] at absent
    exact ih absent.2 member

theorem each (treated : Treated build c es ds built) (distinct : Entries.Distinct es)
    (e : String × Params) (member : e ∈ es) (c' : Context) (beside : (c.enter e.1).Beside c') :
    match ((build e.1 e.2).run c').1 with
    | .ok out => errorsAt (c.location.path ++ [e.1]) ds = [] ∧ Entries.get? built e.1 = some out
    | .error d => Entries.get? built e.1 = none ∧
        ∃ d', errorsAt (c.location.path ++ [e.1]) ds = [d'] ∧ d'.error.isRecoverable = true ∧
          d'.mark = d.mark := by
  induction treated with
  | nil => simp at member
  | @kept name ps out inner ds es built alone inside rest ih =>
    obtain ⟨absent, distinct_⟩ := List.nodup_cons.1 distinct
    rw [Diagnostic.errorsAt_append, Diagnostic.errorsAt_below _ _ _ _ inside, List.nil_append,
      Entries.get?_cons]
    rcases List.mem_cons.1 member with rfl | later
    · rw [alone c' beside]
      exact ⟨rest.errorsAt_absent _ absent, if_pos rfl⟩
    · have other : e.1 ≠ name := fun same => absent (same ▸ List.mem_map.2 ⟨e, later, rfl⟩)
      rw [if_neg other]
      exact ih distinct_ later
  | @dropped name ps d inner ds es built alone inside level recoverable stands rest ih =>
    obtain ⟨absent, distinct_⟩ := List.nodup_cons.1 distinct
    rw [Diagnostic.errorsAt_append, Diagnostic.errorsAt_below _ _ _ _ inside, List.nil_append,
      Diagnostic.errorsAt_cons _ _ _ _ _ level stands]
    rcases List.mem_cons.1 member with rfl | later
    · obtain ⟨d', ended, mark⟩ := alone c' beside
      rw [ended, if_pos rfl, rest.errorsAt_absent _ absent]
      exact ⟨rest.get?_built _ absent, d, rfl, recoverable, mark⟩
    · have other : e.1 ≠ name := fun same => absent (same ▸ List.mem_map.2 ⟨e, later, rfl⟩)
      rw [if_neg other]
      exact ih distinct_ later

end Treated

section

variable {build build_ : Kind → String → Params → Build Params} (k : Kind)
  (same : ∀ p ∈ k.params, ∀ child, p.shape.child? = some child → build child = build_ child)

include same

theorem buildValues_congr (params : Params) (readable : Readable k params) (ps : List Param)
    (within : ∀ p ∈ ps, p ∈ k.params) :
    buildValues build (values k params) ps = buildValues build_ (values k params) ps := by
  induction ps with
  | nil => rfl
  | cons p ps ih =>
    have member := within p (by simp)
    have fits := fun child => p.child?_read k _ child (readable p member)
    have first : buildValue build p (Params.value (values k params) p.name) =
        buildValue build_ p (Params.value (values k params) p.name) := by
      rw [value_values k params p member]
      unfold buildValue
      split
      · next declared child cs shape value =>
        have collection : p.shape.child? = some declared := by rw [shape]; rfl
        obtain rfl : child = declared := by simpa [value, Param.Value.child?] using fits _ collection
        rw [same p member child collection]
      · next declared child gs shape value =>
        have collection : p.shape.child? = some declared := by rw [shape]; rfl
        obtain rfl : child = declared := by simpa [value, Param.Value.child?] using fits _ collection
        rw [same p member child collection]
      · rfl
    rw [buildValues, buildValues, first, ih fun q there => within q (by simp [there])]

theorem buildWith_congr (name : String) (params : Params) :
    buildWith build k name params = buildWith build_ k name params := by
  funext c
  have opened (build : Kind → String → Params → Build Params) :=
    Build.run_bind (readAll k params) (fun values => do
      enterNamespace k values
      let built ← buildValues build values k.params
      Build.ofExcept (check k name built)) c
  refine (opened build).trans (Eq.trans ?_ (opened build_).symm)
  cases ran : (readAll k params).run c with
  | mk result after =>
    cases result with
    | error d => rfl
    | ok read =>
      obtain ⟨readable, rfl⟩ := readAll_ok k params read c after ran
      dsimp only
      rw [buildValues_congr k same params readable k.params fun _ member => member]

end

theorem buildAt_of_height (depth : Nat) (k : Kind) (height : k.height ≤ depth) :
    buildAt depth k = buildParams k := by
  have enough (depth depth_ : Nat) (k : Kind) (height : k.height ≤ depth)
      (height_ : k.height ≤ depth_) : buildAt depth k = buildAt depth_ k := by
    induction depth generalizing depth_ k with
    | zero =>
      funext name params
      cases depth_ with
      | zero => rfl
      | succ depth_ =>
        refine buildWith_congr k (fun p member child collection => ?_) name params
        exact absurd (k.height_child p member child collection) (by omega)
    | succ depth ih =>
      funext name params
      cases depth_ with
      | zero =>
        refine buildWith_congr k (fun p member child collection => ?_) name params
        exact absurd (k.height_child p member child collection) (by omega)
      | succ depth_ =>
        refine buildWith_congr k (fun p member child collection => ?_) name params
        have lower := k.height_child p member child collection
        exact ih depth_ child (by omega) (by omega)
  funext name params
  exact congrFun (congrFun (enough depth k.height k height (Nat.le_refl _)) name) params

open Diagnostic (errorsAt) in
/-- Every collection is built as its entries are on their own. If the build of a collection does not
end with an error that no mode passes over, it gives the entries in their order without those that
were dropped, which are the ones with an error at the place of the entry itself. -/
theorem builds_apart (k : Kind) (below : k ≠ .zenPack) (depth : Nat) (height : k.height ≤ depth)
    (parent segment : String) (cs : Children) (distinct : Entries.Distinct cs) (c : Context)
    (lenient : c.diagnostics.mode = .lenient) :
    (∀ d after, (buildCollection (buildAt depth k) segment cs).run c = (.error d, after) →
      d.error.isRecoverable = false) ∧
    ∀ built after, (buildCollection (buildAt depth k) segment cs).run c = (.ok built, after) →
      ∃ ds, after = c.record ds ∧
        Entries.names built = (Entries.names (Overlay.apply c.keepsDefaults cs)).filter (fun name =>
          (errorsAt (c.location.path ++ [segment, name]) ds).isEmpty) ∧
        ∀ e ∈ Overlay.apply c.keepsDefaults cs, ∀ c',
          ((c.enter segment).enter e.1).Beside c' →
          match ((Node.build k parent e.1 e.2).run c').1 with
          | .ok n => errorsAt (c.location.path ++ [segment, e.1]) ds = [] ∧
              Entries.get? built e.1 = some n.params
          | .error d => Entries.get? built e.1 = none ∧
              ∃ d', errorsAt (c.location.path ++ [segment, e.1]) ds = [d'] ∧
                d'.error.isRecoverable = true ∧ d'.mark = d.mark := by
  have distinct_ : Entries.Distinct (Overlay.apply c.keepsDefaults cs) := by
    rw [Entries.Distinct, Overlay.names_apply]
    exact Overlay.nodup_kept c.keepsDefaults cs distinct
  have treats := treated_of_run (lone_buildAt depth k below) (c.enter segment) lenient []
    (Overlay.apply c.keepsDefaults cs)
  rw [Context.record_nil] at treats
  rw [buildCollection_asking, Build.run_asking, Build.run_within]
  generalize (buildEntries (buildAt depth k) (Overlay.apply c.keepsDefaults cs)).run
    (c.enter segment) = result at treats ⊢
  obtain ⟨d | built, last⟩ := result
  · refine ⟨fun _ _ ran => ?_, fun _ _ ran => by simp at ran⟩
    obtain ⟨rfl, -⟩ : d = _ ∧ _ := by simpa using ran
    exact treats
  · obtain ⟨ds, rfl, treated⟩ := treats
    refine ⟨fun _ _ ran => by simp at ran, fun _ _ ran => ?_⟩
    obtain ⟨rfl, rfl⟩ : built = _ ∧ _ := by simpa using ran
    have place (name : String) : c.location.path ++ [segment, name] =
        (c.enter segment).location.path ++ [name] := by simp [Context.enter]
    refine ⟨ds, c.leave_record_enter segment ds, ?_, fun e member c' beside => ?_⟩
    · simp only [place]
      exact treated.names_built distinct_
    · have each := treated.each distinct_ e member c' beside
      rw [place, build_below k below, Build.run_bind, ← buildAt_of_height depth k height]
      generalize (buildAt depth k e.1 e.2).run c' = alone at each ⊢
      obtain ⟨_ | out, _⟩ := alone <;> exact each

def scopes : Children :=
  [("DEFAULTS", [("index_scope", .str "galaxy")]), ("size", [("index_scope", .str "device")]),
    ("mass", [("label", .str "Mass")]), ("age", [("index_scope", .str "both"), ("unit", .str "d")])]

open Diagnostic (errorsAt) in
theorem builds_apart_scopes :
    let c : Context := .start (.empty .lenient) "pack.yaml" false
    ∃ built ds, (buildCollection (buildAt 0 .classProperty) "properties" scopes).run c =
        (.ok built, c.record ds) ∧ Entries.names built = ["size", "age"] ∧
      (Entries.names (Overlay.apply false scopes)).filter
        (fun name => (errorsAt ["properties", name] ds).isEmpty) = ["size", "age"] ∧
      ∃ d, errorsAt ["properties", "mass"] ds = [d] ∧ d.error.isRecoverable = true := by
  intro c
  obtain ⟨built, after, ran, names⟩ := Build.ok_of_shown
    (b := buildCollection (buildAt 0 .classProperty) "properties" scopes) (c := c) Entries.names
    ["size", "age"] (by decide +kernel)
  have distinct : (Entries.names scopes).Nodup := by decide
  obtain ⟨ds, rfl, kept, each⟩ := (builds_apart .classProperty (by decide) 0 (by decide) "Pod"
    "properties" scopes distinct c rfl).2 built after ran
  refine ⟨built, ds, ran, names, kept.symm.trans names, ?_⟩
  have inside : "mass" ∈ Entries.names (Overlay.apply c.keepsDefaults scopes) := by decide
  obtain ⟨e, there, mass⟩ := List.mem_map.1 inside
  have dropped := each e there ((c.enter "properties").enter e.1) (.self rfl)
  rw [mass] at dropped
  have absent : Entries.get? built "mass" = none :=
    Entries.get?_eq_none _ _ (by rw [names]; decide)
  split at dropped
  · simp [absent] at dropped
  · obtain ⟨_, d, only, recoverable, _⟩ := dropped
    exact ⟨d, only, recoverable⟩

end Node

end PackSpec
