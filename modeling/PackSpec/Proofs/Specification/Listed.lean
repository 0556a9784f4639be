import PackSpec.Command.Rows
import PackSpec.Proofs.Specification.Deriving
import PackSpec.Proofs.Specification.Undeclared

set_option autoImplicit false

namespace PackSpec

namespace Links

theorem placed_of_build (classes : Children) (schemas : List Schema) (c after : Context) (t : Links)
    (done : (build classes schemas).run c = (.ok t, after)) :
    t.keys.Nodup ∧ ∃ ds, after = c.record ds ∧ Placed c classes schemas t ds := by
  have fresh := fresh_of_build t classes schemas c after done
  have ran := run_build classes schemas c fresh
  obtain ⟨table, rfl⟩ := Prod.mk.inj (done.symm.trans ran)
  obtain rfl := Except.ok.inj table
  refine ⟨by rw [keys_addAll]; exact fresh, _, rfl, placed_addAll c classes schemas _ fresh ?_⟩
  -- The warnings about classes come after those about sides and are of another kind.
  obtain ⟨ds, warned, others⟩ := records_warnOfClasses classes
    (addAll c.ns classes empty (schemas.flatMap Schema.views)) classes (c.enter "classes")
  rw [run_warnOfClasses] at warned
  have same := congrArg (fun r => r.2.diagnostics.items) warned
  rw [List.filter_append, filter_straysFrom, List.append_cancel_left same,
    List.filter_eq_nil_iff.2 fun d member => by simp [others d member], List.append_nil]

section

variable {ns : String} {classes : Children} {views : List View} {t : Links}

theorem defined_of_linked (placed : t.linked = views.filterMap (link? ns classes)) (l : Link)
    (member : l ∈ t.linked) : l.className ∈ Entries.names classes := by
  rw [placed] at member
  obtain ⟨v, _, made⟩ := List.mem_filterMap.1 member
  obtain ⟨name, found, rfl⟩ := Option.map_eq_some_iff.1 made
  have defined := (Option.filter_eq_some_iff.1 found).2
  exact (Entries.has_iff classes name).1 (Bool.and_eq_true_iff.1 defined).1

theorem error_of_straysFrom (c : Context) (i : Nat) (schemas : List Schema) (d : Diagnostic)
    (member : d ∈ straysFrom classes ns c i schemas) :
    ∃ v ∈ schemas.flatMap Schema.views, d.error = undefinedClass v := by
  obtain ⟨e, there, inside⟩ := List.mem_flatMap.1 member
  obtain ⟨v, stray, rfl⟩ := List.mem_map.1 inside
  have schema : e.1 ∈ schemas := (List.mem_zipIdx there).2.2 ▸ List.getElem_mem _
  exact ⟨v, List.mem_flatMap.2 ⟨e.1, schema, (List.mem_filter.1 stray).1⟩, rfl⟩

end

def linksOf (linked : List Link) (className : String) : List Link :=
  linked.filter fun l => l.className == className

theorem mem_linksOf (linked : List Link) (className : String) (l : Link) :
    l ∈ linksOf linked className ↔ l ∈ linked ∧ l.className = className := by
  simp [linksOf]

theorem perm_linksOf (names : List String) (once : names.Nodup) (linked : List Link)
    (covered : ∀ l ∈ linked, l.className ∈ names) :
    (names.flatMap (linksOf linked)).Perm linked := by
  induction names generalizing linked with
  | nil => simp [List.eq_nil_iff_forall_not_mem.2 fun l member => by simpa using covered l member]
  | cons name names ih =>
    obtain ⟨new, once⟩ := List.nodup_cons.1 once
    let others := linked.filter fun l => !(l.className == name)
    have later : names.flatMap (linksOf linked) = names.flatMap (linksOf others) := by
      refine List.flatMap_congr fun other member => ?_
      simp only [linksOf, others, List.filter_filter]
      refine List.filter_congr fun l _ => ?_
      by_cases same : l.className = other
      · simp [same, ne_of_mem_of_not_mem member new]
      · simp [same]
    have rest : (names.flatMap (linksOf others)).Perm others := by
      refine ih once others fun l member => ?_
      obtain ⟨there, other⟩ := List.mem_filter.1 member
      exact (List.mem_cons.1 (covered l there)).resolve_left (by simpa using other)
    rw [List.flatMap_cons, later]
    exact (rest.append_left _).trans (List.filter_append_perm _ linked)

theorem nodup_linksOf (t : Links) (distinct : t.keys.Nodup) (names : List String)
    (once : names.Nodup) :
    ((names.flatMap (linksOf t.linked)).map fun l => (l.className, l.relationName)).Nodup := by
  refine List.Nodup.map_on (fun l here m there same => ?_) (List.nodup_flatMap.2 ⟨fun name _ => ?_, ?_⟩)
  · have linked (l : Link) (member : l ∈ names.flatMap (linksOf t.linked)) : l ∈ t.linked := by
      obtain ⟨name, _, inside⟩ := List.mem_flatMap.1 member
      exact ((mem_linksOf _ _ _).1 inside).1
    exact List.inj_on_of_nodup_map distinct (linked l here) (linked m there) same
  · exact (List.Nodup.of_map _ distinct).filter _
  · refine once.imp fun {name other} apart l here there => apart ?_
    rw [← ((mem_linksOf _ name l).1 here).2, ((mem_linksOf _ other l).1 there).2]

end Links

namespace Specification

/-- What the listing of a specification has, where building it recorded some diagnostics. -/
structure Listed (s : Specification) (ds : List Diagnostic) : Prop where
  whole : s.rows none false =
    ((Entries.names s.classes).flatMap fun name => s.rows (some name) false) ++
      (s.links.host.flatMap Prod.snd).map (Row.ofView true)
  linked : ((Entries.names s.classes).flatMap fun name => s.rows (some name) false).Perm
    (s.links.linked.map fun l => Row.ofView false l.view)
  strays : ∀ d ∈ ds.filter Links.isStrayWarning,
    ∃ v ∈ s.schemas.flatMap Schema.views, d.error = Links.undefinedClass v
  total : (s.rows none false).length + (ds.filter Links.isStrayWarning).length =
    2 * s.schemas.length
  inherited : ∀ name, s.rows (some name) true =
    (name :: s.baseClasses true name).flatMap fun other => s.rows (some other) false
  once : ∀ name, ∃ ls : List Link,
    s.rows (some name) true = ls.map (fun l => Row.ofView false l.view) ∧
    (ls.map fun l => (l.className, l.relationName)).Nodup ∧
    ∀ l, l ∈ ls ↔ l ∈ s.links.linked ∧ l.className ∈ name :: s.baseClasses true name

section

variable (s : Specification)

theorem rowsOf_eq (name : String) :
    s.rows (some name) false =
      (Links.linksOf s.links.linked name).map fun l => Row.ofView false l.view :=
  List.map_map

theorem flatMap_rowsOf (names : List String) :
    (names.flatMap fun name => s.rows (some name) false) =
      (names.flatMap (Links.linksOf s.links.linked)).map fun l => Row.ofView false l.view := by
  simp only [rowsOf_eq, List.map_flatMap]

theorem inheritedRows_eq (name : String) :
    s.rows (some name) true =
      (name :: s.baseClasses true name).flatMap fun other => s.rows (some other) false :=
  List.map_flatMap

theorem listed_of_placed (c : Context) (ds es : List Diagnostic)
    (classes_ : Entries.Distinct s.classes) (keys : s.links.keys.Nodup)
    (placed : Links.Placed c s.classes s.schemas s.links ds)
    (same : es.filter Links.isStrayWarning = ds.filter Links.isStrayWarning) : s.Listed es := by
  have linked : ((Entries.names s.classes).flatMap fun name => s.rows (some name) false).Perm
      (s.links.linked.map fun l => Row.ofView false l.view) := by
    rw [flatMap_rowsOf]
    exact (Links.perm_linksOf _ classes_ _ (Links.defined_of_linked placed.linked)).map _
  have whole : s.rows none false =
      ((Entries.names s.classes).flatMap fun name => s.rows (some name) false) ++
        (s.links.host.flatMap Prod.snd).map (Row.ofView true) := rfl
  refine ⟨whole, linked, fun d member => ?_, ?_, s.inheritedRows_eq, fun name => ?_⟩
  · rw [same, placed.warned] at member
    exact Links.error_of_straysFrom _ _ _ d member
  · rw [same, whole, List.length_append, linked.length_eq, List.length_map, List.length_map]
    exact placed.total
  · refine ⟨_, (s.inheritedRows_eq name).trans (s.flatMap_rowsOf _),
      s.links.nodup_linksOf keys _ (Lineage.nodup_ancestors s.classes true name), fun l => ?_⟩
    simp only [List.mem_flatMap, Links.mem_linksOf]
    exact ⟨fun ⟨other, above, there, same⟩ => ⟨there, same ▸ above⟩,
      fun ⟨there, above⟩ => ⟨l.className, above, there, rfl⟩⟩

end

/-- The listing of a specification that was built has a row for every view that is linked, class by
class, and one for every view that is kept for the host; with the sides that were warned about these
are all the sides of its relationships. The rows of a class with those it inherits are its own and then
those of each class it derives from, and no link is among them twice. -/
theorem lists_every_view (params : Params) (c after : Context) (s : Specification)
    (distinct : params.Distinct) (done : (build params).run c = (.ok s, after)) :
    ∃ ds, after.diagnostics.items = c.diagnostics.items ++ ds ∧ s.Listed ds := by
  have classes_ := distinct_classes params c after s distinct done
  obtain ⟨root, built, links, made, _, linked, rfl⟩ := parts_of_build params c after s done
  -- Building the root records errors only, so the warnings about sides come from linking.
  obtain ⟨-, errors, items, all⟩ := errors_of_root params root c built made
  obtain ⟨keys, ds, rfl, placed⟩ := Links.placed_of_build _ _ built after links linked
  have warned : (errors ++ ds).filter Links.isStrayWarning = ds.filter Links.isStrayWarning := by
    rw [List.filter_append, List.filter_eq_nil_iff.2, List.nil_append]
    intro d member
    simp [Links.isStrayWarning, Diagnostic.isWarning, all d member]
  rw [← classes_withSchemas root (schemasOfRoot root) links] at placed
  exact ⟨errors ++ ds, by rw [← List.append_assoc, ← items]; rfl,
    listed_of_placed _ built ds _ classes_ keys placed warned⟩

def depot : Params :=
  [("name", .str "Depot"),
    ("classes", .specs .modelClass
      [("DEFAULTS", [("label_width", .int 90)]), ("Widget", [("base", ownClasses ["Shelf"])]),
        ("Shelf", [("base", ownClasses [])]), ("Rack", [("base", ownClasses [])])]),
    ("class_relationships", .relationships
      [⟨⟨"Rack", some "shelfs", .multiOwning⟩, ⟨"Shelf", some "rack", .single⟩⟩,
        ⟨⟨"Depot.Shelf", some "widgets", .multi⟩, ⟨"Widget", some "shelf", .single⟩⟩,
        ⟨⟨"Widget", some "places", .multi⟩, ⟨"host.Place", some "widgets", .multi⟩⟩,
        ⟨⟨"Shelf", some "ghosts", .multi⟩, ⟨"Ghost", some "shelf", .single⟩⟩])]

theorem distinct_depot : depot.Distinct := by
  have text (t : String) : (Param.Value.str t).Every Param.Value.Distinct := .flat trivial rfl
  have number (n : Int64) : (Param.Value.int n).Every Param.Value.Distinct := .flat trivial rfl
  have bases (cs : List ClassRef) : (Param.Value.classRefs cs).Every Param.Value.Distinct :=
    .flat trivial rfl
  have relationships (ds : List Decl) : (Param.Value.relationships ds).Every Param.Value.Distinct :=
    .flat trivial rfl
  refine ⟨by simp [depot, Entries.Distinct, Entries.names], ?_⟩
  simp [-Prod.forall, depot, Params.Every, Param.Value.every_specs_iff, text, number, bases,
    relationships, Param.Value.Distinct, Entries.Distinct, Entries.names, ownClasses]

theorem lists_every_view_depot :
    let c : Context := .start (.empty .lenient) "depot.yaml" true
    ∃ s after ds, depot.Distinct ∧ (build depot).run c = (.ok s, after) ∧
      after.diagnostics.items = ds ∧ s.Listed ds ∧
      (s.rows none false).map (fun r => (r.className, r.relationName)) =
        [("Widget", "shelf"), ("Widget", "places"), ("Shelf", "rack"), ("Depot.Shelf", "widgets"),
          ("Shelf", "ghosts"), ("Rack", "shelfs"), ("host.Place", "widgets")] ∧
      (ds.filter Links.isStrayWarning).length = 1 ∧
      (s.rows (some "Widget") true).map Row.relationName =
        ["shelf", "places", "rack", "widgets", "ghosts"] := by
  intro c
  obtain ⟨s, after, ran, shown⟩ := Build.ok_of_shown (b := build depot) (c := c)
    (fun s => ((s.rows none false).map fun r => (r.className, r.relationName), s.schemas.length,
      (s.rows (some "Widget") true).map Row.relationName))
    ([("Widget", "shelf"), ("Widget", "places"), ("Shelf", "rack"), ("Depot.Shelf", "widgets"),
      ("Shelf", "ghosts"), ("Rack", "shelfs"), ("host.Place", "widgets")], 4,
      ["shelf", "places", "rack", "widgets", "ghosts"]) (by decide +kernel)
  simp only [Prod.mk.injEq] at shown
  obtain ⟨all, schemas, widget⟩ := shown
  obtain ⟨ds, items, listed⟩ := lists_every_view depot c after s distinct_depot ran
  have rows : (s.rows none false).length = 7 := by
    rw [← List.length_map (f := fun r : Row => (r.className, r.relationName)), all]
    rfl
  have total := listed.total
  exact ⟨s, after, ds, distinct_depot, ran, items, listed, all, by omega, widget⟩

end Specification

end PackSpec
