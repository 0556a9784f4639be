import PackSpec.Proofs.Node.Built
import PackSpec.Proofs.Specification.Linking

set_option autoImplicit false

namespace PackSpec

namespace Build

variable {α : Type} {names : String → Prop}

/-- However a run ends, the context is as before but for diagnostics that were added and for the
namespace, which may be one of the names. -/
def Leaves (names : String → Prop) (b : Build α) : Prop :=
  ∀ c, Framed true c (b.run c).2 ∧ ((b.run c).2.ns = c.ns ∨ names (b.run c).2.ns)

theorem leaves_of_composed {b : Build α} (composed : Composed false b) : Leaves names b := by
  intro c
  have framed := framed_run composed c
  exact ⟨framed.any, .inl (framed.ns rfl)⟩

theorem leaves_of_meets {b : Build α} (composed : Composed true b)
    (meets : ∀ keeps ns, Meets (naming keeps ns names) (fun _ => True) b fun _ => True) :
    Leaves names b :=
  fun c => ⟨framed_run composed c, (meets c.keepsDefaults c.ns c ⟨rfl, .inl rfl⟩).1.2⟩

end Build

namespace Node

open Build (Composed Framed Leaves Meets naming framed_naming)

def Names (k : Kind) (params : Params) (ns : String) : Prop :=
  k = .zenPack ∧ Entries.get? params "name" = some (.str ns)

def buildEach (k : Kind) (parent name : String) (params : Params) : Build Params := do
  return (← build k parent name params).params

theorem names_of_readable (params : Params) (readable : Readable .zenPack params) :
    Names .zenPack params (Params.str (values .zenPack params) "name") := by
  obtain ⟨w, reads⟩ := readable nameParam (by decide)
  have value : Params.value (values .zenPack params) "name" = w :=
    (value_values .zenPack params nameParam (by decide)).trans
      (nameParam.read_of_reading .zenPack _ w reads)
  obtain ⟨v, settled, accepted⟩ := nameParam.reading_ok .zenPack _ w reads
  refine ⟨rfl, ?_⟩
  -- The name has to be given, as a text.
  cases found : Entries.get? params nameParam.name with
  | none =>
    rw [found] at settled
    simp [nameParam, Param.orElse, Param.settled, Param.defaultValue] at settled
  | some u =>
    rw [found] at settled
    cases u with
    | null => simp [nameParam, Param.orElse, Param.settled, Param.defaultValue] at settled
    | str s =>
      obtain rfl := Option.some.inj settled
      obtain rfl := Option.some.inj accepted
      rw [Params.str, Params.str?, value]
      exact found
    | _ =>
      obtain rfl := Option.some.inj settled
      simp [nameParam, Param.orElse, Param.of, Param.Shape.accept] at accepted

section

variable {I : Invariant} (framed : ∀ c after, Framed false c after → I.holds c → I.holds after)

include framed

theorem meets_framed_with {build : Kind → String → Params → Build Params} (k : Kind) (name : String)
    (params : Params)
    (enters : Readable k params →
      Meets I (fun _ => True) (enterNamespace k (values k params)) fun _ => True)
    (builds : ∀ child ≠ .zenPack, ∀ name ps,
      Meets I (fun _ => True) (build child name ps) fun _ => True) :
    Meets I (fun _ => True) (buildWith build k name params) fun _ => True := by
  have reads : Meets I (fun _ => True) (readAll k params) fun read =>
      read = values k params ∧ Readable k params :=
    Build.meets_framed (composed_readAll false k params) framed _
      fun c read after ran => (readAll_ok k params read c after ran).symm
  have fields (readable : Readable k params) (p : Param) (member : p ∈ k.params) :
      Meets I (fun _ => True) (buildValue build p (p.read k (Entries.get? params p.name)))
        (BuiltFrom (fun _ _ => True) I.keeps p (p.read k (Entries.get? params p.name))) :=
    @meets_buildValue I (fun _ => True) _ build (fun _ _ => True) _
      (fun d _ => Build.meets_framed_handle d framed) (fun _ _ _ _ _ => trivial) p _
      (fun child collection name ps _ =>
        builds child (fun same => child?_ne_zenPack k p member (same ▸ collection)) name ps)
      (fun child collection => p.child?_read k _ child (readable p member) collection)
      fun _ _ _ _ => trivial
  exact meets_buildWith reads enters fields
    fun _ out _ => Build.meets_framed (.ofExcept false _) framed _ fun _ _ _ _ => trivial

theorem meets_framed_at (depth : Nat) (k : Kind) (below : k ≠ .zenPack) (name : String)
    (params : Params) :
    Meets I (fun _ => True) (buildAt depth k name params) fun _ => True := by
  have enters : Meets I (fun _ => True) (enterNamespace k (values k params)) fun _ => True := by
    cases k with
    | zenPack => exact absurd rfl below
    | _ => exact Build.meets_pure () trivial
  induction depth generalizing k name params with
  | zero =>
    exact meets_framed_with framed k name params (fun _ => enters)
      fun _ _ _ _ => Build.meets_pure [] trivial
  | succ depth ih =>
    refine meets_framed_with framed k name params (fun _ => enters) fun child below name ps => ?_
    exact ih child below name ps (by
      cases child with
      | zenPack => exact absurd rfl below
      | _ => exact Build.meets_pure () trivial)

end

section

variable {keeps : Bool} {ns : String} {names : String → Prop}

theorem meets_naming_root (params : Params) (named : ∀ s, Names .zenPack params s → names s) :
    Meets (naming keeps ns names) (fun _ => True) (Specification.build params) fun _ => True := by
  have framed := framed_naming keeps ns names
  refine Build.meets_bind (fun _ => True) ?_ fun root _ => ?_
  · refine @meets_framed_with _ framed (buildAt 3) .zenPack "" params (fun readable => ?_)
      fun child below => meets_framed_at framed 3 child below
    intro c held
    exact ⟨⟨held.1, .inr (named _ (names_of_readable params readable))⟩, trivial⟩
  · exact Build.meets_framed (.bind _ _ (.within _ _ (Specification.composed_resolveAll false _ 0 _))
      fun schemas => .bind _ _ (Links.composed_build false _ schemas) fun _ => .pure _) framed _
      fun _ _ _ _ => trivial

theorem meets_naming_build (k : Kind) (parent name : String) (params : Params)
    (named : ∀ s, Names k params s → names s) :
    Meets (naming keeps ns names) (fun _ => True) (build k parent name params) fun _ => True := by
  by_cases root : k = .zenPack
  · subst root
    exact Build.meets_bind _ (meets_naming_root params named) fun s _ => Build.meets_pure _ trivial
  · rw [build_below k root]
    exact Build.meets_bind _ (meets_framed_at (framed_naming keeps ns names) _ k root name params)
      fun _ _ => Build.meets_pure _ trivial

theorem meets_naming_each (k : Kind) (parent name : String) (params : Params)
    (named : ∀ s, Names k params s → names s) :
    Meets (naming keeps ns names) (fun _ => True) (buildEach k parent name params) fun _ => True :=
  Build.meets_bind _ (meets_naming_build k parent name params named)
    fun _ _ => Build.meets_pure _ trivial

end

theorem names_fill (k : Kind) (names : String → Prop) (own defaults : Params)
    (mine : ∀ s, Names k own s → names s) (theirs : ∀ s, Names k defaults s → names s) (s : String)
    (named : Names k (Overlay.fill own defaults) s) : names s := by
  obtain ⟨root, found⟩ := named
  rw [Overlay.get?_fill, Option.or_eq_some_iff] at found
  rcases found with here | ⟨_, there⟩
  · exact mine s ⟨root, here⟩
  · exact theirs s ⟨root, there⟩

theorem composed_buildEach (k : Kind) (parent name : String) (params : Params) :
    Composed true (buildEach k parent name params) :=
  .bind _ _ (composed_build k parent name params) fun _ => .pure _

theorem leaves_build (k : Kind) (parent name : String) (params : Params) :
    Leaves (Names k params) (build k parent name params) :=
  Build.leaves_of_meets (composed_build k parent name params) fun _ _ =>
    meets_naming_build k parent name params fun _ named => named

theorem leaves_buildCollection (k : Kind) (parent segment : String) (cs : Children) :
    Leaves (fun ns => ∃ e ∈ cs, Names k e.2 ns) (buildCollection (buildEach k parent) segment cs) := by
  refine Build.leaves_of_meets
    (composed_buildCollection true _ (composed_buildEach k parent) segment cs) fun keeps ns => ?_
  exact (@meets_buildCollection _ (fun _ => True) _ _ (fun _ => True)
    (fun d _ => Build.meets_framed_handle d (framed_naming keeps ns _))
    _ (names_fill k _) (fun name ps named => meets_naming_each k parent name ps named) segment cs
    fun e member s named => ⟨e, member, named⟩).forget

theorem leaves_buildGroups (k : Kind) (parent segment : String) (gs : Groups) :
    Leaves (fun ns => ∃ g ∈ gs, ∃ e ∈ g.2, Names k e.2 ns)
      (Build.within segment (buildGroups (buildEach k parent) gs)) := by
  refine Build.leaves_of_meets (.within segment _
    (composed_buildGroups true _ (composed_buildEach k parent) gs)) fun keeps ns => ?_
  exact Build.meets_within segment (@meets_buildGroups _ (fun _ => True) _ _ (fun _ => True)
    (fun d _ => Build.meets_framed_handle d (framed_naming keeps ns _))
    _ (names_fill k _) (fun name ps named => meets_naming_each k parent name ps named) gs
    fun g there e member s named => ⟨g, there, e, member, named⟩).forget

end Node

namespace Specification

theorem namespace_of_build (params : Params) (c after : Context) (s : Specification)
    (done : (build params).run c = (.ok s, after)) : after.ns = s.name := by
  obtain ⟨root, built, links, made, _, linked, rfl⟩ := parts_of_build params c after s done
  obtain ⟨_, named, _, each⟩ := @Node.made_of_root (fun _ _ => True) (fun _ _ => True)
    (fun _ _ _ _ _ => trivial) params root c built made
    (fun ns child below _ name ps _ =>
      Node.meets_framed_at (Build.framed_steady c.keepsDefaults ns) 3 child below name ps)
    fun _ _ _ _ _ _ _ => trivial
  have framed := Build.framed_run (Links.composed_build false (Params.children root "classes")
    (schemasOfRoot root)) built
  rw [linking] at linked
  rw [linked] at framed
  calc after.ns = built.ns := framed.ns rfl
    _ = Params.str root "name" := named.trans (Node.name_of_made params root each)
    _ = name ⟨withSchemas root (schemasOfRoot root), schemasOfRoot root, links⟩ :=
      (name_withSchemas root _).symm

open Build (Leaves) in
/-- Decoding, building and linking leave the shared context as they found it, whether they give a
value or end with a diagnostic. Only a root changes the namespace, to its own name. -/
theorem leaves_context :
    (∀ k v, Leaves (fun _ => False) (Decode.params k v)) ∧
      (∀ k v, Leaves (fun _ => False) (Decode.children k v)) ∧
      (∀ k parent segment cs, Leaves (fun ns => ∃ e ∈ cs, Node.Names k e.2 ns)
        (Node.buildCollection (Node.buildEach k parent) segment cs)) ∧
      (∀ k parent segment gs, Leaves (fun ns => ∃ g ∈ gs, ∃ e ∈ g.2, Node.Names k e.2 ns)
        (Build.within segment (Node.buildGroups (Node.buildEach k parent) gs))) ∧
      (∀ k parent name ps, Leaves (Node.Names k ps) (Node.build k parent name ps)) ∧
      (∀ ps c after s, (build ps).run c = (.ok s, after) → after.ns = s.name) ∧
      ∀ classes schemas, Leaves (fun _ => False) (Links.build classes schemas) :=
  ⟨fun k v => Build.leaves_of_composed (Decode.composed_params k v),
    fun k v => Build.leaves_of_composed (Decode.composed_collection _
      (fun v => Decode.composed_entryAt k.height k v) v),
    Node.leaves_buildCollection, Node.leaves_buildGroups, Node.leaves_build, namespace_of_build,
    fun classes schemas => Build.leaves_of_composed (Links.composed_build false classes schemas)⟩

def kiosk : Params :=
  [("name", .str "Kiosk"),
    ("classes", .specs .modelClass [("Panel", []), ("Door", [("label", .int 3)])])]

theorem leaves_kiosk :
    let c : Context := .start (.empty .lenient) "kiosk.yaml" false
    (∃ d after, (Node.build .zenPack "" "" kiosk).run c = (.error d, after) ∧
      d.location.path = ["classes", "Door"] ∧ after.ns = "Kiosk" ∧ after.location = c.location) ∧
      ∃ s after, (build (Entries.erase kiosk "classes")).run c = (.ok s, after) ∧
        after.ns = s.name := by
  obtain ⟨-, -, -, -, builds, named, -⟩ := leaves_context
  intro c
  constructor
  · have ends : (match ((Node.build .zenPack "" "" kiosk).run c).1 with
        | .error d => d.location.path
        | .ok _ => []) = ["classes", "Door"] ∧
        ((Node.build .zenPack "" "" kiosk).run c).2.ns = "Kiosk" := by decide +kernel
    have here := (builds .zenPack "" "" kiosk c).1.location
    generalize (Node.build .zenPack "" "" kiosk).run c = result at ends here ⊢
    rcases result with ⟨d | n, after⟩
    · exact ⟨d, after, rfl, ends.1, ends.2, here⟩
    · simp at ends
  · obtain ⟨s, after, ran, -⟩ := Build.ok_of_shown (b := build (Entries.erase kiosk "classes"))
      (c := c) (fun s => s.links.size) 0 (by decide +kernel)
    exact ⟨s, after, ran, named _ c after s ran⟩

end Specification

end PackSpec
