import PackSpec.Proofs.Document.Restored
import PackSpec.Proofs.Specification.Relinked

set_option autoImplicit false

namespace PackSpec

namespace Specification

open Build (Yields)
open Node (Restoring relationshipsParam nameParam)

structure Linked (keeps : Bool) (root : Params) : Prop where
  whole : Node.Whole .zenPack root
  below : ∀ p ∈ Kind.params .zenPack, p.shape ≠ .relationships →
    (Params.value root p.name).Every (Param.Value.Settled keeps)
  nodup : (sides root).Nodup

theorem linked_of_build (params : Params) (c after : Context) (s : Specification)
    (distinct : params.Every Param.Value.Distinct)
    (done : (build params).run c = (.ok s, after)) :
    ∃ root, Linked c.keepsDefaults root ∧ s.params = withSchemas root (schemasOfRoot root) := by
  obtain ⟨root, built, links, ran, _, linked, rfl⟩ := parts_of_build params c after s done
  have rooted := Node.rooted_of_built params root c built distinct ran
  have ending := ending_linking root built rooted.ns
  rw [linked] at ending
  exact ⟨root, ⟨rooted.whole, rooted.below, ending.2⟩, rfl⟩

theorem relationships_of_shape (p : Param) (member : p ∈ Kind.params .zenPack) :
    p.shape = .relationships ↔ p.name = declarations := by
  revert p
  decide

theorem names_withSchemas (root : Params) (schemas : List Schema)
    (names : Entries.names root = (Kind.params .zenPack).map Param.name) :
    Entries.names (withSchemas root schemas) = (Kind.params .zenPack).map Param.name := by
  have present : Entries.has root declarations = true :=
    (Entries.has_iff root declarations).2 (names ▸ by decide)
  rw [withSchemas, Entries.names_put_of_has _ _ _ present, names]

theorem built_withSchemas (keeps : Bool) (root : Params) (linked : Linked keeps root)
    (schemas : List Schema) : Node.Built keeps .zenPack (withSchemas root schemas) := by
  have names := names_withSchemas root schemas linked.whole.names
  have settled : (Param.Value.relationships (schemas.map Schema.declaration)).Every
      (Param.Value.Settled keeps) := by
    refine .flat (fun d member => ?_) rfl
    obtain ⟨s, _, rfl⟩ := List.mem_map.1 member
    exact s.settled_declaration
  have whole : Node.Whole .zenPack (withSchemas root schemas) := by
    refine ⟨names, fun p member => ?_, fun _ => rfl⟩
    rw [value_withSchemas]
    by_cases here : p.name = declarations
    · rw [if_pos here]
      right
      rw [(relationships_of_shape p member).2 here]
      rfl
    · rw [if_neg here]
      exact linked.whole.fits p member
  refine ⟨whole, Node.every_of_values _ .zenPack _ names fun p member => ?_⟩
  rw [value_withSchemas]
  by_cases here : p.name = declarations
  · rw [if_pos here]
    exact settled
  · rw [if_neg here]
    exact linked.below p member fun shape => here ((relationships_of_shape p member).1 shape)

theorem has_of_childrenSame (cs ds : Children) (same : Param.Value.childrenSame cs ds = true)
    (name : String) (present : Entries.has cs name = true) : Entries.has ds name = true := by
  rw [Param.Value.childrenSame, Bool.and_eq_true, Param.Value.childrenIn_iff] at same
  obtain ⟨e, member, rfl⟩ := List.mem_map.1 ((Entries.has_iff cs name).1 present)
  obtain ⟨qs, found, _⟩ := same.2 e member
  rw [Entries.has_eq_isSome, found]
  rfl

theorem has_of_same (out ps : Params) (name : String)
    (same : (Params.value out name).same (Params.value ps name) = true) (entry : String)
    (present : Entries.has (Params.children out name) entry = true) :
    Entries.has (Params.children ps name) entry = true := by
  unfold Params.children at present ⊢
  generalize Params.value out name = v at same present
  generalize Params.value ps name = w at same
  cases v with
  | specs k cs =>
    cases w with
    | specs j ds =>
      simp only [Param.Value.same, Bool.and_eq_true, beq_iff_eq] at same
      have collections : Param.Value.childrenSame cs ds = true := by
        simp [Param.Value.childrenSame, same.1.2, same.2]
      exact has_of_childrenSame cs ds collections entry present
    | _ => simp [Param.Value.same] at same
  | _ => simp [Entries.has] at present

theorem declares_of_restored (out : Params) (ns : String) (schemas : List Schema)
    (resolved : ∀ s ∈ schemas, s.Resolved ns)
    (restored : (Params.value out declarations).Restored
      (.relationships (schemas.map Schema.declaration))) :
    List.Forall₂ (fun d s => s.Resolved ns ∧ Decl.Declares d s)
      (Params.relationships out declarations) schemas := by
  unfold Params.relationships
  generalize Params.value out declarations = v at restored
  have spelled : List.Forall₂ (fun d s => s.Resolved ns ∧ Decl.Declares d s)
      (schemas.map Schema.declaration) schemas := by
    rw [List.forall₂_map_left_iff, List.forall₂_same]
    exact fun s member => ⟨resolved s member, s.declares_declaration ns (resolved s member)⟩
  have shortened : List.Forall₂ (fun d s => s.Resolved ns ∧ Decl.Declares d s)
      ((schemas.map Schema.declaration).map Decl.shortened) schemas := by
    rw [List.map_map, List.forall₂_map_left_iff, List.forall₂_same]
    exact fun s member => ⟨resolved s member, s.declaration.declares_shortened s
      s.settled_declaration (s.declares_declaration ns (resolved s member))⟩
  rcases restored with same | ⟨ds, given_, rfl⟩
  · cases v <;> simp [Param.Value.same] at same
    rw [same]
    exact spelled
  · rw [← Param.Value.relationships.inj given_]
    exact shortened

section

variable {keeps : Bool} {root out : Params} (linked : Linked keeps root)
  (restored : ∀ p ∈ Kind.params .zenPack, (Params.value out p.name).Restored
    (Params.value (withSchemas root (schemasOfRoot root)) p.name))

include restored

theorem declares_of_root : List.Forall₂
    (fun d s => s.Resolved (Params.str root "name") ∧ Decl.Declares d s)
    (Params.relationships out declarations) (schemasOfRoot root) := by
  have value := restored relationshipsParam (by decide)
  have name : relationshipsParam.name = declarations := rfl
  rw [value_withSchemas, name, if_pos rfl] at value
  exact declares_of_restored out _ _ (resolved_schemasOf _ _) value

theorem oriented_of_restored :
    ∀ d ∈ Params.relationships out declarations, d.isOriented = true := by
  intro d member
  have each := declares_of_root restored
  obtain ⟨s, _, _, declares⟩ := Node.exists_of_forall₂ _ _ each.flip d member
  exact d.oriented_of_declares s declares

include linked

theorem same_of_restored (p : Param) (member : p ∈ Kind.params .zenPack)
    (other : p.shape ≠ .relationships) :
    (Params.value out p.name).same (Params.value root p.name) = true := by
  have value := restored p member
  rw [value_withSchemas, if_neg fun name => other ((relationships_of_shape p member).2 name)] at value
  exact Node.restored_same p other _ _ (linked.whole.fits p member) value

theorem name_of_restored : Params.str out "name" = Params.str root "name" := by
  have same := same_of_restored linked restored nameParam (by decide) (by decide)
  rw [Params.str, Params.str, Node.str?_of_same out root "name" same]

theorem views_of_restored :
    (schemasOfRoot out).flatMap Schema.views = (schemasOfRoot root).flatMap Schema.views ∧
      (schemasOfRoot out).map Schema.declaration = (schemasOfRoot root).map Schema.declaration := by
  have views := views_of_declares _ _ _ (declares_of_root restored)
  rw [← name_of_restored linked restored] at views
  exact views

theorem nodup_of_restored : (sides out).Nodup := by
  have classes : ∀ name, Entries.has (Params.children out "classes") name = true →
      Entries.has (Params.children root "classes") name = true :=
    has_of_same out root "classes" (same_of_restored linked restored
      (Param.of "classes" (.specs .modelClass)) (by decide) (by decide))
  have fewer := Links.taken_sublist (Params.str root "name") classes
    ((schemasOfRoot root).flatMap Schema.views)
  rw [sides, name_of_restored linked restored, (views_of_restored linked restored).1]
  exact linked.nodup.sublist fewer

theorem same_withSchemas (names : Entries.names out = (Kind.params .zenPack).map Param.name) :
    Params.same (withSchemas out (schemasOfRoot out)) (withSchemas root (schemasOfRoot root)) =
      true := by
  refine Node.same_of_values (names_withSchemas out _ names)
    (built_withSchemas keeps root linked _).whole fun p member => ?_
  rw [value_withSchemas, value_withSchemas]
  by_cases here : p.name = declarations
  · rw [if_pos here, if_pos here, (views_of_restored linked restored).2]
    simp [Param.Value.same]
  · rw [if_neg here, if_neg here]
    exact same_of_restored linked restored p member fun shape =>
      here ((relationships_of_shape p member).1 shape)

end

section

variable {keeps : Bool} {root own : Params} (linked : Linked keeps root)
  (restoring : Restoring keeps (Node.buildAt 3) .zenPack (withSchemas root (schemasOfRoot root)) own)
  (c : Context) (setting : c.keepsDefaults = keeps)

include linked restoring setting

theorem namespace_of_restoring :
    Params.str (Node.values .zenPack own) "name" = Params.str root "name" := by
  obtain ⟨w, reads, a, yields, restored⟩ := restoring.restores nameParam (by decide)
  have flat : (Node.buildValue (Node.buildAt 3) nameParam w).run c = (.ok w, c) := rfl
  rw [yields c setting] at flat
  obtain rfl := Except.ok.inj (Prod.mk.inj flat).1
  have read : Params.value (Node.values .zenPack own) "name" = a :=
    (Node.value_values .zenPack own nameParam (by decide)).trans
      (nameParam.read_of_reading .zenPack _ a reads)
  rw [value_withSchemas, if_neg (by decide)] at restored
  have same := Node.restored_same nameParam (by decide) a _
    (linked.whole.fits nameParam (by decide)) restored
  have text : Params.str? (Node.values .zenPack own) "name" = Params.str? root "name" :=
    Node.str?_of_same _ root "name" (by rw [read]; exact same)
  rw [Params.str, Params.str, text]

theorem rebuilt_root :
    ∃ s after, (build own).run c = (.ok s, after) ∧ s.name = Params.str root "name" ∧
      s.params.same (withSchemas root (schemasOfRoot root)) = true := by
  have readable := Node.readable_of_restoring restoring
  obtain ⟨made, yields, restored⟩ := Node.yields_restored restoring
  let out : Params := (Kind.params .zenPack).map fun p => (p.name, made p)
  let entered : Context := { c with ns := Params.str (Node.values .zenPack own) "name" }
  have ran : (Node.buildParams .zenPack "" own).run c = (.ok out, entered) := by
    rw [Node.run_buildParams_root own c readable restoring.declared]
    exact yields entered setting
  have fine : ∀ p ∈ Kind.params .zenPack, (Params.value out p.name).Restored
      (Params.value (withSchemas root (schemasOfRoot root)) p.name) := by
    intro p member
    have value : Params.value out p.name = made p := by
      rw [Params.value, Entries.get?_map_name _ made p (Kind.nodup_names .zenPack) member]
      rfl
    rw [value]
    exact restored p member
  -- The namespace is entered by the name that was read, which is the name that was written.
  have named : entered.ns = Params.str out "name" :=
    (namespace_of_restoring linked restoring c setting).trans (name_of_restored linked fine).symm
  have ending := ending_linking out entered named
  have relinked := run_specification own out c entered ran (oriented_of_restored fine)
  generalize (linking out).run entered = result at ending relinked
  rcases result with ⟨d | links, after⟩
  -- Linking ends only with two sides that are the same, and these had none.
  · obtain ⟨className, relationName, twice, _⟩ := ending
    exact absurd (nodup_of_restored linked fine) twice.not_nodup
  · exact ⟨_, after, relinked, (name_withSchemas out _).trans (name_of_restored linked fine),
      same_withSchemas linked fine (by simp [out, Entries.names])⟩

end

end Specification

namespace Document

theorem kept_params (keeps : Bool) (k : Kind) (ps : Params) (m : List (Yaml × Yaml))
    (built : Node.Built keeps k ps) (carried : ps.Every Param.Value.Carried)
    (made : Encode.params k none ps = .ok m) :
    ∃ own, (∀ c, (Decode.params k (.map m)).run c = (.ok own, c)) ∧
      Node.Restoring keeps (buildBelow k.height) k ps own := by
  obtain ⟨own, reads, kept⟩ := kept_at keeps k.height k none ps m built carried (Nat.le_refl _) made
  exact ⟨own, fun c => reads c trivial, restoring_alone kept⟩

theorem same_nodes (k : Kind) (parent other name : String) (ps qs : Params)
    (same : ps.same qs = true) :
    Node.same ⟨k, parent, name, ps⟩ ⟨k, other, name, qs⟩ = true := by
  simp [Node.same, same]

/-- An entry can be written; if documents carry its values, what is written is read without a
diagnostic, and what was read is built into the same entry. -/
def RoundTrips (keeps : Bool) (k : Kind) (name : String) (n : Node) : Prop :=
  ∃ m, Encode.params k none n.params = .ok m ∧
    (n.params.Every Param.Value.Carried →
      ∃ ps, (∀ c, (Decode.params k (.map m)).run c = (.ok ps, c)) ∧
        ∀ parent c, c.keepsDefaults = keeps →
          ∃ again after, (Node.build k parent name ps).run c = (.ok again, after) ∧
            again.same n = true)

theorem roundTrips_below (k : Kind) (below : k ≠ .zenPack) (parent name : String)
    (params : Params) (c after : Context) (n : Node) (distinct : params.Every Param.Value.Distinct)
    (built : (Node.build k parent name params).run c = (.ok n, after)) :
    RoundTrips c.keepsDefaults k name n := by
  have opened (parent : String) (params : Params) : Node.build k parent name params = (do
      return ⟨k, parent, name, ← Node.buildParams k name params⟩) := by
    cases k <;> first | rfl | exact absurd rfl below
  rw [opened, Build.run_bind] at built
  -- What was built is as entries have to be, so it is written, read and restored.
  have gives := Node.meets_built_at c.keepsDefaults c.ns k.height k name params below (Nat.le_refl _)
    distinct c ⟨rfl, rfl⟩
  have height : Node.buildParams k name params = Node.buildAt k.height k name params := rfl
  rw [height] at built
  generalize (Node.buildAt k.height k name params).run c = result at built gives
  rcases result with ⟨d | ps, last⟩
  · simp at built
  · obtain rfl := Except.ok.inj (Prod.mk.inj built).1
    have whole : Node.Built c.keepsDefaults k ps := gives.2
    obtain ⟨m, made⟩ := Encode.writes_at k.height none whole (Nat.le_refl _)
    refine ⟨m, made, fun carried => ?_⟩
    obtain ⟨own, reads, restoring⟩ := kept_params c.keepsDefaults k ps m whole carried made
    refine ⟨own, reads, fun other building setting => ?_⟩
    obtain ⟨again, yields, same⟩ := Node.yields_entry below whole.whole restoring name
    refine ⟨⟨k, other, name, again⟩, building, ?_, same_nodes k other parent name again ps same⟩
    have here : Node.buildParams k name own = Node.buildWith (buildBelow k.height) k name own := by
      rw [Node.buildParams, buildAt_eq]
    rw [opened, Build.run_bind, here, yields building setting]
    rfl

theorem roundTrips_root (parent name : String) (params : Params) (c after : Context) (n : Node)
    (distinct : params.Every Param.Value.Distinct)
    (built : (Node.build .zenPack parent name params).run c = (.ok n, after)) :
    RoundTrips c.keepsDefaults .zenPack name n := by
  have opened (parent : String) (params : Params) : Node.build .zenPack parent name params = (do
      return (← Specification.build params).root) := rfl
  rw [opened, Build.run_bind] at built
  generalize ran : (Specification.build params).run c = result at built
  -- The root is written with its names spelled out, and its sides are linked once more.
  rcases result with ⟨d | s, last⟩
  · simp at built
  · obtain rfl := Except.ok.inj (Prod.mk.inj built).1
    obtain ⟨root, linked, spelled⟩ :=
      Specification.linked_of_build params c last s distinct ran
    have whole := Specification.built_withSchemas c.keepsDefaults root linked
      (Specification.schemasOfRoot root)
    rw [← spelled] at whole
    obtain ⟨m, made⟩ := Encode.writes_at 4 none whole (Nat.le_refl _)
    refine ⟨m, made, fun carried => ?_⟩
    obtain ⟨own, reads, restoring⟩ :=
      kept_params c.keepsDefaults .zenPack s.params m whole carried made
    refine ⟨own, reads, fun other building setting => ?_⟩
    have restoring_ : Node.Restoring c.keepsDefaults (Node.buildAt 3) .zenPack
        (Specification.withSchemas root (Specification.schemasOfRoot root)) own := by
      rw [← spelled]
      exact restoring
    obtain ⟨again, done, rebuilt, named, same⟩ :=
      Specification.rebuilt_root linked restoring_ building setting
    refine ⟨again.root, done, ?_, ?_⟩
    · rw [opened, Build.run_bind, rebuilt]
      rfl
    · have name : again.name = s.name := by
        rw [named, Specification.name, spelled, Specification.name_withSchemas]
      rw [Specification.root, Specification.root, name, spelled]
      exact same_nodes .zenPack "" "" s.name _ _ same

/-- Whatever has been built, from whatever parameters, can be written and built again. -/
theorem rebuilds_written (k : Kind) (parent name : String) (params : Params) (c after : Context)
    (n : Node) (distinct : params.Distinct)
    (built : (Node.build k parent name params).run c = (.ok n, after)) :
    RoundTrips c.keepsDefaults k name n := by
  by_cases root : k = .zenPack
  · subst root
    exact roundTrips_root parent name params c after n distinct.2 built
  · exact roundTrips_below k root parent name params c after n distinct.2 built

def poll : Params :=
  [("severity", .int 3),
    ("datapoints", .specs .datapoint
      [("DEFAULTS", [("rrdtype", .str "DERIVE"), ("rrdmin", .str "0")]),
        ("in", [("description", .str "received")]),
        ("out", [("rrdtype", .str "GAUGE"), ("rrdmin", .null)])])]

def point (rrdtype rrdmin description : Param.Value) : Params :=
  [("rrdtype", rrdtype), ("createCmd", .null), ("isrow", .null), ("rrdmin", rrdmin),
    ("rrdmax", .null), ("description", description)]

def polled : Params :=
  [("sourcetype", .null), ("enabled", .null), ("component", .null), ("eventClass", .null),
    ("eventKey", .null), ("severity", .severity .warning), ("commandTemplate", .null),
    ("cycletime", .null),
    ("datapoints", .specs .datapoint
      [("DEFAULTS", point (.str "DERIVE") (.str "0") .null),
        ("in", point (.str "DERIVE") (.str "0") (.str "received")),
        ("out", point (.str "GAUGE") .null .null)])]

def keeping : Context := .start (.empty .strict) "poll.yaml" true

set_option maxRecDepth 20000 in
theorem poll_built : (Node.build .datasource "" "poll" poll).run keeping =
    (.ok ⟨.datasource, "", "poll", polled⟩, keeping) := by
  rfl

theorem polled_carried : polled.Every Param.Value.Carried :=
  Params.every_of_shallow polled (by simp [-Prod.forall, polled, Param.Value.Carried])
    (by simp [-Prod.forall, polled, point, Param.Value.entries, Param.Value.Carried])

theorem poll_distinct : poll.Distinct :=
  ⟨by simp [poll, Entries.Distinct, Entries.names],
    Params.every_of_shallow poll
      (by simp [-Prod.forall, poll, Param.Value.Distinct, Entries.Distinct, Entries.names])
      (by simp [-Prod.forall, poll, Param.Value.entries, Param.Value.Distinct])⟩

theorem rebuilds_poll :
    poll.Distinct ∧
      (Node.build .datasource "" "poll" poll).run keeping =
        (.ok ⟨.datasource, "", "poll", polled⟩, keeping) ∧
      polled.Every Param.Value.Carried ∧
      ∃ m ps again done, Encode.params .datasource none polled = .ok m ∧
        (Decode.params .datasource (.map m)).run keeping = (.ok ps, keeping) ∧
        (Node.build .datasource "" "poll" ps).run keeping = (.ok again, done) ∧
        again.same ⟨.datasource, "", "poll", polled⟩ = true := by
  refine ⟨poll_distinct, poll_built, polled_carried, ?_⟩
  obtain ⟨m, made, carried⟩ := rebuilds_written .datasource "" "poll" poll keeping keeping _
    poll_distinct poll_built
  obtain ⟨ps, reads, rebuilds⟩ := carried polled_carried
  obtain ⟨again, done, rebuilt, same⟩ := rebuilds "" keeping rfl
  exact ⟨m, ps, again, done, made, reads keeping, rebuilt, same⟩

end Document

end PackSpec
