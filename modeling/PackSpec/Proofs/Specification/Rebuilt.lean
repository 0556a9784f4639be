import PackSpec.Proofs.Build.Gives
import PackSpec.Proofs.Document.RoundTrip

set_option autoImplicit false

namespace PackSpec

def Param.Value.Number : Param.Value → Prop
  | .float x => x.isNaN = false
  | _ => True

theorem Param.Value.same_of_number (v : Param.Value) (collection : v.child? = none)
    (number : v.Number) : v.same v = true :=
  v.same_flat collection fun x float => by
    rw [float] at number
    exact number

namespace Overlay

variable {α : Type}

theorem fill_of_names (own defaults : Entries α) (names : Entries.names own = Entries.names defaults) :
    fill own defaults = own :=
  fill_of_has own defaults fun name member => (Entries.has_iff own name).2 (names ▸ member)

end Overlay

namespace Node

open Build (Yields)

variable {keeps : Bool}

theorem apply_gathered (k : Kind) (cs : Children) (gathered : Gathered keeps k cs) :
    Overlay.apply keeps cs = cs := by
  unfold Overlay.apply
  cases found : Entries.get? cs defaultsName with
  | none => rfl
  | some defaults =>
    have there := Entries.mem_of_get? cs _ _ found
    have kept : keeps = true := by
      cases keeps with
      | true => rfl
      | false => exact absurd (List.mem_map.2 ⟨_, there, rfl⟩) (gathered.defaults rfl)
    dsimp only
    rw [if_pos kept]
    refine (List.map_congr_left fun e member => ?_).trans (List.map_id cs)
    have names := (gathered.whole e member).names.trans (gathered.whole _ there).names.symm
    rw [Overlay.fillUnlessDefaults, Overlay.fill_of_names e.2 defaults names]
    simp

section

variable {build : Kind → String → Params → Build Params} {child : Kind}
  (below : child ≠ .zenPack)
  (itself : ∀ ps, Built keeps child ps → ps.Every Param.Value.Number →
    Restoring keeps build child ps ps)

include below itself

theorem rebuilt_collection (segment : String) (cs : Children) (gathered : Gathered keeps child cs)
    (built : ∀ e ∈ cs, Built keeps child e.2)
    (numbers : ∀ e ∈ cs, Params.Every Param.Value.Number e.2) :
    ∃ out, Yields (· = keeps) (buildCollection (buildWith build child) segment cs) out ∧
      Param.Value.childrenSame out cs = true := by
  have each : List.Forall₂ (fun e f => f.1 = e.1 ∧ ∃ again,
      Yields (· = keeps) (buildWith build child f.1 f.2) again ∧ Params.same again e.2 = true)
      cs (Overlay.apply keeps cs) := by
    rw [apply_gathered child cs gathered]
    refine List.forall₂_same.2 fun e member => ⟨rfl, ?_⟩
    exact yields_entry below (built e member).whole
      (itself e.2 (built e member) (numbers e member)) e.1
  obtain ⟨out, yields, all⟩ := yields_buildCollection segment cs cs each
  exact ⟨out, yields, childrenSame_of_perm cs cs out gathered.distinct (List.Perm.refl cs) all⟩

variable {outer : Kind → String → Params → Build Params} {k : Kind} {p : Param} {v : Param.Value}
  (builds : outer child = buildWith build child) (fits : p.Fits v)
  (every : v.Every (Param.Value.Settled keeps)) (numbers : v.Every Param.Value.Number)

include builds fits every numbers

theorem itself_specs (shape : p.shape = .specs child) : Restores keeps outer k p (some v) v := by
  obtain ⟨cs, rfl⟩ := p.specs_of_fits v child shape fits
  have numbers_ (e : String × Params) (member : e ∈ cs) : Params.Every Param.Value.Number e.2 :=
    numbers.inside e.2 ((Param.Value.mem_entries_specs child cs e.2).2 ⟨e, member, rfl⟩)
  obtain ⟨out, yields, same⟩ := rebuilt_collection below itself p.name cs every.here
    (built_of_below keeps child cs every) numbers_
  refine ⟨.specs child cs, Document.reading_of_holds _ (by simp [shape, Param.Shape.holds]),
    .specs child out, ?_, .inl (by rw [Param.Value.same_specs, same])⟩
  rw [← builds] at yields
  unfold buildValue
  rw [shape]
  exact Build.yields_map (f := Param.Value.specs child) yields

theorem itself_groups (shape : p.shape = .groups child) : Restores keeps outer k p (some v) v := by
  obtain ⟨gs, rfl⟩ := p.groups_of_fits v child shape fits
  have each : List.Forall₂ (fun g h => h.1 = g.1 ∧ ∃ out,
      Yields (· = keeps) (buildCollection (outer child) h.1 h.2) out ∧
        Param.Value.childrenSame out g.2 = true) gs gs := by
    refine List.forall₂_same.2 fun g there => ⟨rfl, ?_⟩
    rw [builds]
    refine rebuilt_collection below itself g.1 g.2 (every.here.2 g there)
      (built_of_groups keeps child gs every g there) fun e member => ?_
    exact numbers.inside e.2
      ((Param.Value.mem_entries_groups child gs e.2).2 ⟨g, there, e, member, rfl⟩)
  obtain ⟨out, yields, all⟩ := yields_buildGroups gs gs each
  refine ⟨.groups child gs, Document.reading_of_holds _ (by simp [shape, Param.Shape.holds]),
    .groups child out, ?_, .inl (groupsSame_of_forall₂ child gs out every.here.1 all)⟩
  unfold buildValue
  rw [shape]
  exact Build.yields_map (f := Param.Value.groups child) (Build.yields_within p.name yields)

end

theorem restoring_itself (build : Kind → String → Params → Build Params)
    {outer : Kind → String → Params → Build Params} {k : Kind} {ps : Params}
    (itself : ∀ p ∈ k.params, ∀ child, p.shape.child? = some child → ∀ qs,
      Built keeps child qs → qs.Every Param.Value.Number → Restoring keeps build child qs qs)
    (builds : ∀ p ∈ k.params, ∀ child, p.shape.child? = some child →
      outer child = buildWith build child)
    (built : Built keeps k ps) (numbers : ps.Every Param.Value.Number) :
    Restoring keeps outer k ps ps := by
  refine ⟨fun e member => ?_, fun p member => ?_⟩
  · obtain ⟨p, there, name, _⟩ := mem_of_names k ps built.whole.names e member
    exact ⟨p, there, name⟩
  · have found := get?_of_names k ps built.whole.names p member
    have every := Params.every_get? ps p.name _ built.below found
    have numbers_ := Params.every_get? ps p.name _ numbers found
    have fits := built.whole.fits p member
    rw [found]
    generalize Params.value ps p.name = v at every numbers_ fits
    by_cases null : v = .null
    · rw [null] at fits ⊢
      exact Document.restores_null member .null rfl fits
    have held : p.shape.holds v = true := fits.resolve_left fun given_ => null given_.1
    -- Collections are built again entry by entry; every other value is read as it stands.
    cases shape : p.shape with
    | specs child =>
      have declared : p.shape.child? = some child := by rw [shape]; rfl
      exact itself_specs (fun same => child?_ne_zenPack k p member (same ▸ declared))
        (itself p member child declared) (builds p member child declared) fits every numbers_ shape
    | groups child =>
      have declared : p.shape.child? = some child := by rw [shape]; rfl
      exact itself_groups (fun same => child?_ne_zenPack k p member (same ▸ declared))
        (itself p member child declared) (builds p member child declared) fits every numbers_ shape
    | _ =>
      have flat : p.shape.child? = none := by rw [shape]; rfl
      exact Document.restores_flat v v held flat
        (.inl (v.same_of_number (p.child?_of_fits v fits flat) numbers_.here))

theorem itself_at (depth : Nat) (k : Kind) (ps : Params) (height : k.height ≤ depth)
    (built : Built keeps k ps) (numbers : ps.Every Param.Value.Number) :
    Restoring keeps (Document.buildBelow depth) k ps ps := by
  induction depth generalizing k ps with
  | zero =>
    have nothing {p : Param} (member : p ∈ k.params) {child : Kind}
        (declared : p.shape.child? = some child) : False := by
      have lower := k.height_child p member child declared
      omega
    exact restoring_itself (Document.buildBelow 0)
      (fun _ member _ declared => (nothing member declared).elim)
      (fun _ member _ declared => (nothing member declared).elim) built numbers
  | succ depth ih =>
    refine restoring_itself _ (fun p member child declared qs built_ numbers_ => ?_)
      (fun p member child declared => congrFun (Document.buildAt_eq depth) child) built numbers
    have lower := k.height_child p member child declared
    exact ih child qs (by omega) built_ numbers_

theorem built_below (k : Kind) (below : k ≠ .zenPack) (parent name : String) (params : Params)
    (c after : Context) (n : Node) (distinct : params.Every Param.Value.Distinct)
    (done : (build k parent name params).run c = (.ok n, after)) :
    ∃ ps, n = ⟨k, parent, name, ps⟩ ∧ Built c.keepsDefaults k ps := by
  have gives := meets_built_at c.keepsDefaults c.ns k.height k name params below (Nat.le_refl _)
    distinct c ⟨rfl, rfl⟩
  have height : buildParams k name params = buildAt k.height k name params := rfl
  rw [build_below k below, Build.run_bind, height] at done
  generalize (buildAt k.height k name params).run c = result at done gives
  rcases result with ⟨d | ps, last⟩
  · simp at done
  · exact ⟨ps, (Except.ok.inj (Prod.mk.inj done).1).symm, gives.2⟩

theorem built_root (parent name : String) (params : Params) (c after : Context) (n : Node)
    (distinct : params.Every Param.Value.Distinct)
    (done : (build .zenPack parent name params).run c = (.ok n, after)) :
    ∃ root, Specification.Linked c.keepsDefaults root ∧
      n = ⟨.zenPack, "", Params.str root "name",
        Specification.withSchemas root (Specification.schemasOfRoot root)⟩ := by
  have opened : build .zenPack parent name params = do
      return (← Specification.build params).root := rfl
  rw [opened, Build.run_bind] at done
  generalize ran : (Specification.build params).run c = result at done
  rcases result with ⟨d | s, last⟩
  · simp at done
  · obtain rfl := Except.ok.inj (Prod.mk.inj done).1
    obtain ⟨root, linked, spelled⟩ := Specification.linked_of_build params c last s distinct ran
    refine ⟨root, linked, ?_⟩
    rw [Specification.root, Specification.name, spelled, Specification.name_withSchemas]

theorem built_node (k : Kind) (parent name : String) (params : Params) (c after : Context) (n : Node)
    (distinct : params.Every Param.Value.Distinct)
    (done : (build k parent name params).run c = (.ok n, after)) :
    Built c.keepsDefaults k n.params := by
  by_cases below : k = .zenPack
  · subst below
    obtain ⟨root, linked, rfl⟩ := built_root parent name params c after n distinct done
    exact Specification.built_withSchemas c.keepsDefaults root linked _
  · obtain ⟨ps, rfl, built⟩ := built_below k below parent name params c after n distinct done
    exact built

theorem restored_node (k : Kind) (parent name : String) (params : Params) (c after : Context)
    (n : Node) (distinct : params.Every Param.Value.Distinct)
    (done : (build k parent name params).run c = (.ok n, after))
    (numbers : n.params.Every Param.Value.Number) (c' : Context)
    (setting : c'.keepsDefaults = c.keepsDefaults) :
    ∃ again after', (build k parent name n.params).run c' = (.ok again, after') ∧
      again.same n = true := by
  have restoring := itself_at k.height k n.params (Nat.le_refl _)
    (built_node k parent name params c after n distinct done) numbers
  by_cases below : k = .zenPack
  · subst below
    obtain ⟨root, linked, rfl⟩ := built_root parent name params c after n distinct done
    obtain ⟨again, last, ran, named, same⟩ :=
      Specification.rebuilt_root linked restoring c' setting
    refine ⟨again.root, last, ?_, ?_⟩
    · have opened (params : Params) : build .zenPack parent name params = do
          return (← Specification.build params).root := rfl
      rw [opened, Build.run_bind, ran]
      rfl
    · rw [Specification.root, named]
      exact Document.same_nodes .zenPack "" "" _ _ _ same
  · obtain ⟨ps, rfl, built⟩ := built_below k below parent name params c after n distinct done
    obtain ⟨again, yields, same⟩ := yields_entry below built.whole restoring name
    refine ⟨⟨k, parent, name, again⟩, c', ?_, Document.same_nodes k parent parent name _ _ same⟩
    have height : buildParams k name ps = buildWith (Document.buildBelow k.height) k name ps := by
      rw [buildParams, Document.buildAt_eq]
    rw [build_below k below, Build.run_bind, height, yields c' setting]
    rfl

/-- Building normalises once: the parameters of a node are those of its table in order, and a strict
build from them gives the same node, with warnings at most. -/
theorem rebuilds_itself (k : Kind) (parent name : String) (params : Params) (c after : Context)
    (n : Node) (distinct : params.Distinct)
    (done : (build k parent name params).run c = (.ok n, after)) :
    Entries.names n.params = k.params.map Param.name ∧
      (n.params.Every Param.Value.Number →
        ∀ c' : Context, c'.diagnostics.mode = .strict → c'.keepsDefaults = c.keepsDefaults →
          ∃ again after' ds, (build k parent name n.params).run c' = (.ok again, after') ∧
            again.same n = true ∧
            after'.diagnostics.items = c'.diagnostics.items ++ ds ∧
            ∀ d ∈ ds, d.isWarning = true) := by
  refine ⟨(built_node k parent name params c after n distinct.2 done).whole.names, ?_⟩
  intro numbers c' strict setting
  obtain ⟨again, after', ran, same⟩ :=
    restored_node k parent name params c after n distinct.2 done numbers c' setting
  obtain ⟨ds, recorded, warnings⟩ :=
    Build.warnings_of_strict (composed_build k parent name n.params) again c' after' strict ran
  exact ⟨again, after', ds, ran, same, recorded, warnings⟩

open Document (poll polled keeping)

theorem polled_numbers : polled.Every Param.Value.Number :=
  Params.every_of_shallow polled (by simp [-Prod.forall, polled, Param.Value.Number])
    (by simp [-Prod.forall, polled, Document.point, Param.Value.entries, Param.Value.Number])

theorem rebuilds_polled :
    poll.Distinct ∧
      (build .datasource "" "poll" poll).run keeping =
        (.ok ⟨.datasource, "", "poll", polled⟩, keeping) ∧
      polled.Every Param.Value.Number ∧
      Entries.names polled = (Kind.params .datasource).map Param.name ∧
      ∃ again after ds, (build .datasource "" "poll" polled).run keeping = (.ok again, after) ∧
        again.same ⟨.datasource, "", "poll", polled⟩ = true ∧
        after.diagnostics.items = keeping.diagnostics.items ++ ds ∧
        ∀ d ∈ ds, d.isWarning = true := by
  obtain ⟨names, rebuilds⟩ := rebuilds_itself .datasource "" "poll" poll keeping keeping _
    Document.poll_distinct Document.poll_built
  exact ⟨Document.poll_distinct, Document.poll_built, polled_numbers, names,
    rebuilds polled_numbers keeping rfl rfl⟩

end Node

end PackSpec
