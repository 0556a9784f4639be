import PackSpec.Proofs.Node.Trimmed
import PackSpec.Proofs.Specification.Placing

set_option autoImplicit false

namespace PackSpec

open Param.Value (trimmedParams trimmedChildren)
open Build (Alike)

namespace Links

variable (ns : String) (classes : Children)

theorem localClass?_trimmed (token : String) :
    localClass? ns (trimmedChildren classes) token = localClass? ns classes token := by
  unfold localClass?
  congr 1
  funext name
  rw [Children.has_trimmed, Bool.and_assoc, Bool.and_self]

theorem place_trimmed (v : View) : place ns (trimmedChildren classes) v = place ns classes v := by
  rw [place, localClass?_trimmed, place]

theorem taken_trimmed (views : List View) :
    taken ns (trimmedChildren classes) views = taken ns classes views := by
  unfold taken taken?
  simp only [place_trimmed]

theorem addAll_trimmed (t : Links) (views : List View) :
    addAll ns (trimmedChildren classes) t views = addAll ns classes t views := by
  unfold addAll add
  simp only [place_trimmed]

theorem build_trimmed (schemas : List Schema) (c c' after : Context) (t : Links)
    (same : c'.ns = c.ns) (done : (build classes schemas).run c = (.ok t, after)) :
    ∃ after', (build (trimmedChildren classes) schemas).run c' = (.ok t, after') := by
  have fresh := fresh_of_build t classes schemas c after done
  have ran := run_build classes schemas c fresh
  have trimmed := run_build (trimmedChildren classes) schemas c' (by
    rw [same, taken_trimmed]
    exact fresh)
  rw [done] at ran
  rw [same, addAll_trimmed, ← Except.ok.inj (Prod.mk.inj ran).1] at trimmed
  exact ⟨_, trimmed⟩

end Links

namespace Node

theorem buildParams_trimmed (ps root : Params) (c c' built : Context) (ns : String)
    (alike : Alike ns c c') (done : (buildParams .zenPack "" ps).run c = (.ok root, built)) :
    ∃ built', (buildParams .zenPack "" ps).run c' = (.ok (trimmedParams root), built') ∧
      built'.ns = built.ns := by
  have opened : buildParams .zenPack "" ps = buildWith (buildAt 3) .zenPack "" ps := rfl
  rw [opened, buildWith] at done ⊢
  obtain ⟨_, _, after, after', ⟨rfl, rfl, readable⟩, alike_, _, rest, ran'⟩ :=
    (follows_readAll .zenPack ps).past alike done
  rw [Build.run_bind, ran']
  -- From here on both runs are in the namespace that the root names.
  let ns := Params.str (values .zenPack ps) "name"
  have entered (c : Context) : (enterNamespace .zenPack (values .zenPack ps)).run c =
      (.ok (), { c with ns }) := rfl
  have named : Alike ns { after with ns } { after' with ns } :=
    ⟨rfl, rfl, alike_.mode, alike_.index, alike_.location, alike_.keeps, alike_.drops⟩
  have follows := follows_rest (fun p member child collection =>
    trims_buildAt 3 child fun same => child?_ne_zenPack .zenPack p member (same ▸ collection))
    readable "" _ _ named
  rw [Build.run_bind, entered] at rest
  dsimp only at rest ⊢
  rw [rest] at follows
  obtain ⟨_, built', ran, rfl, alike'⟩ := follows
  rw [Build.run_bind, entered]
  exact ⟨built', ran, alike'.there.trans alike'.here.symm⟩

end Node

namespace Specification

def trimmed (s : Specification) : Specification := { s with params := trimmedParams s.params }

theorem trimmed_withSchemas (root : Params) (schemas : List Schema) :
    trimmedParams (withSchemas root schemas) = withSchemas (trimmedParams root) schemas :=
  Params.put_trimmed root declarations (.relationships (schemas.map Schema.declaration))

/-- A specification that can be built with its defaults kept can be built with them dropped. -/
theorem builds_trimmed (ps : Params) (c after : Context) (s : Specification)
    (done : (build ps).run { c with keepsDefaults := true } = (.ok s, after)) :
    ∃ after', (build ps).run { c with keepsDefaults := false } = (.ok s.trimmed, after') := by
  have alike : Alike c.ns { c with keepsDefaults := true } { c with keepsDefaults := false } :=
    ⟨rfl, rfl, rfl, rfl, rfl, rfl, rfl⟩
  obtain ⟨root, built, links, made, oriented, linked, rfl⟩ := parts_of_build ps _ after s done
  obtain ⟨built', made', same⟩ := Node.buildParams_trimmed ps root _ _ built c.ns alike made
  have schemas : schemasOfRoot (trimmedParams root) = schemasOfRoot root := by
    rw [schemasOfRoot, Params.str_trimmed, Params.relationships_trimmed, schemasOfRoot]
  obtain ⟨after', linked'⟩ := Links.build_trimmed _ _ built built' after links same linked
  have linking_ : (linking (trimmedParams root)).run built' = (.ok links, after') := by
    rw [linking, schemas, Params.children_trimmed]
    exact linked'
  rw [run_specification ps (trimmedParams root) _ built' made' (by
    rw [Params.relationships_trimmed]
    exact oriented), linking_, schemas]
  exact ⟨after', by rw [trimmed, trimmed_withSchemas]; rfl⟩

def shop : Params :=
  [("name", .str "Shop"),
    ("classes", .specs .modelClass
      [("DEFAULTS", [("label_width", .int 90),
        ("properties", .specs .classProperty
          [("DEFAULTS", [("display", .bool false)]), ("size", [])])]),
      ("Shelf", [("properties", .specs .classProperty [("DEFAULTS", []), ("width", [])])]),
      ("Item", [])]),
    ("class_relationships", .relationships
      [⟨⟨"Shelf", none, .multiOwning⟩, ⟨"Item", none, .single⟩⟩,
        ⟨⟨"DEFAULTS", none, .multiOwning⟩, ⟨"Item", some "kind", .single⟩⟩]),
    ("device_classes", .specs .deviceClass
      [("/Shop", [("component_templates", .groups .template
        [("DEFAULTS", [("DEFAULTS", [("description", .str "shop")]), ("Sales", [])])])])])]

theorem builds_shop_trimmed :
    let c : Context := .start (.empty .strict) "shop.yaml" true
    ∃ s after, (build shop).run { c with keepsDefaults := true } = (.ok s, after) ∧
      Entries.has s.classes defaultsName = true ∧ s.links.size = 3 ∧
      ∃ after', (build shop).run { c with keepsDefaults := false } = (.ok s.trimmed, after') := by
  intro c
  have evaluated : (((build shop).run { c with keepsDefaults := true }).1.toOption.map fun s =>
      (Entries.has s.classes defaultsName, s.links.size)) = some (true, 3) := by decide +kernel
  have trims := builds_trimmed shop c
  generalize (build shop).run { c with keepsDefaults := true } = result at evaluated trims ⊢
  rcases result with ⟨d | s, after⟩
  · simp [Except.toOption] at evaluated
  · obtain ⟨kept, linked⟩ := Prod.mk.inj (Option.some.inj evaluated)
    exact ⟨s, after, rfl, kept, linked, trims after s rfl⟩

end Specification

end PackSpec
