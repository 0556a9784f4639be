import PackSpec.Proofs.Node.Apart
import PackSpec.Proofs.Specification.Placing
import PackSpec.Proofs.Specification.Walks

set_option autoImplicit false

namespace PackSpec

namespace Links

section

variable (t : Links) (classes : Children)

theorem path_warning (c : Context) (e : Problem) : (warning c e).location.path = c.location.path :=
  Diagnostics.path_locate _ _

def WarnsUndeclared (c : Context) (name r : String) (d : Diagnostic) : Prop :=
  d.level = .warning ∧
    d.location.path = c.location.path ++ ["classes", name, "relationships", r] ∧
    d.error = undeclared name r

theorem undeclared_warningsOf (c : Context) (name other r : String) (ps : Params) :
    (∃ d ∈ warningsOf t classes (c.enter "classes") other ps, WarnsUndeclared c name r d) ↔
      name = other ∧ r ∈ undeclaredNames t classes other ps := by
  constructor
  · rintro ⟨d, member, -, path, error⟩
    rcases List.mem_append.1 member with base | relationship
    · obtain ⟨_, inside, rfl⟩ := List.mem_map.1 base
      obtain ⟨base, _, rfl⟩ := List.mem_map.1 inside
      exact absurd (Problem.unresolved.inj error).1 (by decide)
    · obtain ⟨s, undeclared_, rfl⟩ := List.mem_map.1 relationship
      rw [path_warning] at path
      have same : other = name ∧ s = r := by simpa [Context.enter] using path
      exact ⟨same.1.symm, same.2 ▸ undeclared_⟩
  · rintro ⟨rfl, member⟩
    refine ⟨_, List.mem_append_right _ (List.mem_map.2 ⟨r, member, rfl⟩), rfl, ?_, rfl⟩
    rw [path_warning]
    simp [Context.enter]

theorem undeclared_straysFrom (ns : String) (c c' : Context) (i : Nat) (schemas : List Schema)
    (name r : String) (d : Diagnostic) (member : d ∈ straysFrom classes ns c' i schemas) :
    ¬ WarnsUndeclared c name r d := by
  rintro ⟨-, -, error⟩
  obtain ⟨e, _, inside⟩ := List.mem_flatMap.1 member
  obtain ⟨v, _, rfl⟩ := List.mem_map.1 inside
  exact absurd (Problem.unresolved.inj error).1 (by decide)

theorem named_of_build (schemas : List Schema) (c after : Context)
    (done : (build classes schemas).run c = (.ok t, after)) :
    ∀ l ∈ t.linked, l.relationName = l.view.relationName := by
  have ran := run_build classes schemas c (fresh_of_build t classes schemas c after done)
  obtain rfl := Except.ok.inj (Prod.mk.inj (done.symm.trans ran)).1
  intro l member
  rw [linked_addAll, show empty.linked = [] from rfl, List.nil_append] at member
  obtain ⟨v, _, found⟩ := List.mem_filterMap.1 member
  obtain ⟨_, _, rfl⟩ := Option.map_eq_some_iff.1 found
  rfl

theorem mem_ofClass (className : String) (v : View) :
    v ∈ t.ofClass className ↔ ∃ l ∈ t.linked, l.className = className ∧ l.view = v := by
  simp [ofClass, and_assoc]

theorem mem_undeclaredNames (name r : String) (ps : Params) :
    r ∈ undeclaredNames t classes name ps ↔
      r ∈ Entries.names (Params.children ps "relationships") ∧ r ≠ defaultsName ∧
        ∀ other ∈ Lineage.lineage classes name, t.has other r = false := by
  simp [undeclaredNames]

theorem undeclared_build (schemas : List Schema) (c after : Context)
    (done : (build classes schemas).run c = (.ok t, after)) :
    ∃ ds, after = c.record ds ∧ ∀ name ps r, (name, ps) ∈ classes → name ≠ defaultsName →
      r ∈ Entries.names (Params.children ps "relationships") → r ≠ defaultsName →
      ((∃ d ∈ ds, WarnsUndeclared c name r d) ↔
        ∀ other ∈ Lineage.lineage classes name, t.has other r = false) := by
  have ran := run_build classes schemas c (fresh_of_build t classes schemas c after done)
  obtain ⟨table, rfl⟩ := Prod.mk.inj (done.symm.trans ran)
  obtain rfl := Except.ok.inj table
  refine ⟨_, rfl, fun name ps r member other described named => ⟨?_, fun missing => ?_⟩⟩
  · rintro ⟨d, recorded, warned⟩
    rcases List.mem_append.1 recorded with stray | ofClass
    · exact absurd warned (undeclared_straysFrom _ _ _ _ _ _ _ _ _ stray)
    · obtain ⟨e, _, inside⟩ := List.mem_flatMap.1 ofClass
      obtain ⟨rfl, missing⟩ := (undeclared_warningsOf _ classes c name e.1 r e.2).1 ⟨d, inside, warned⟩
      exact ((mem_undeclaredNames _ _ _ _ _).1 missing).2.2
  · obtain ⟨d, inside, warned⟩ := (undeclared_warningsOf _ classes c name name r ps).2
      ⟨rfl, (mem_undeclaredNames _ _ _ _ _).2 ⟨described, named, missing⟩⟩
    exact ⟨d, List.mem_append_right _ (List.mem_flatMap.2
      ⟨(name, ps), List.mem_filter.2 ⟨member, by simpa using other⟩, inside⟩), warned⟩

end

end Links

namespace Specification

theorem classes_withSchemas (root : Params) (schemas : List Schema) (links : Links) :
    classes ⟨withSchemas root schemas, schemas, links⟩ = Params.children root "classes" := by
  rw [classes, Params.children, value_withSchemas, if_neg (by decide), ← Params.children]

theorem no_view_iff (s : Specification) (name r : String)
    (named : ∀ l ∈ s.links.linked, l.relationName = l.view.relationName) :
    (∀ v ∈ s.inheritedViews name, v.relationName ≠ r) ↔
      ∀ other ∈ Lineage.lineage s.classes name, s.links.has other r = false := by
  have lineage (other : String) : other ∈ name :: s.baseClasses true name ↔
      other ∈ Lineage.lineage s.classes name := by
    rw [List.mem_cons, Lineage.mem_lineage_iff]
    rfl
  constructor
  · intro none_ other inside
    refine Bool.eq_false_iff.2 fun there => ?_
    obtain ⟨l, member, key⟩ := List.any_eq_true.1 there
    rw [Bool.and_eq_true, beq_iff_eq, beq_iff_eq] at key
    refine none_ l.view (List.mem_flatMap.2 ⟨other, (lineage other).2 inside, ?_⟩)
      ((named l member).symm.trans key.2)
    exact (s.links.mem_ofClass other l.view).2 ⟨l, member, key.1, rfl⟩
  · rintro absent v inside rfl
    obtain ⟨other, above, linked⟩ := List.mem_flatMap.1 inside
    obtain ⟨l, member, rfl, rfl⟩ := (s.links.mem_ofClass other v).1 linked
    have there : s.links.has l.className l.view.relationName = true :=
      List.any_eq_true.2 ⟨l, member, by simp [named l member]⟩
    rw [absent _ ((lineage _).1 above)] at there
    simp at there

theorem errors_of_root (params root : Params) (c built : Context)
    (made : (Node.buildParams .zenPack "" params).run c = (.ok root, built)) :
    built.location = c.location ∧ ∃ errors,
      built.diagnostics.items = c.diagnostics.items ++ errors ∧ ∀ d ∈ errors, d.level = .error := by
  have composed := Node.composed_buildAt 4 .zenPack "" params
  have framed := Build.framed_run composed c
  have opened : Node.buildParams .zenPack "" params = Node.buildAt 4 .zenPack "" params := rfl
  rw [← opened, made] at framed
  exact ⟨framed.location, Build.errors_of_confined composed
    (Node.confined_buildAt 4 .zenPack "" params) root c built made⟩

theorem warns_undeclared (params : Params) (c after : Context) (s : Specification)
    (done : (build params).run c = (.ok s, after)) :
    ∃ ds, after.diagnostics.items = c.diagnostics.items ++ ds ∧
      ∀ name ps r, (name, ps) ∈ s.classes → name ≠ defaultsName →
        r ∈ Entries.names (Params.children ps "relationships") → r ≠ defaultsName →
        ((∃ d ∈ ds, Links.WarnsUndeclared c name r d) ↔
          ∀ v ∈ s.inheritedViews name, v.relationName ≠ r) := by
  obtain ⟨root, built, links, made, _, linked, rfl⟩ := parts_of_build params c after s done
  -- Building the root records errors only, so the warnings come from linking.
  obtain ⟨place, errors, items, all⟩ := errors_of_root params root c built made
  obtain ⟨ds, rfl, warned⟩ := Links.undeclared_build links _ _ built after linked
  refine ⟨errors ++ ds, by rw [← List.append_assoc, ← items]; rfl, ?_⟩
  intro name ps r member other described named
  rw [no_view_iff _ name r (Links.named_of_build links _ _ built _ linked), classes_withSchemas]
  rw [classes_withSchemas] at member
  rw [← warned name ps r member other described named]
  have here (d : Diagnostic) :
      Links.WarnsUndeclared c name r d ↔ Links.WarnsUndeclared built name r d := by
    rw [Links.WarnsUndeclared, Links.WarnsUndeclared, place]
  constructor
  · rintro ⟨d, recorded, warns⟩
    rcases List.mem_append.1 recorded with error | linking
    · exact absurd (warns.1.symm.trans (all d error)) (by decide)
    · exact ⟨d, linking, (here d).1 warns⟩
  · rintro ⟨d, linking, warns⟩
    exact ⟨d, List.mem_append_right _ linking, (here d).2 warns⟩

open Lineage (Base listing lineage ownBases) in
/-- In a specification that was built, whatever its classes name as their bases, both walks over the
bases of a class are exact. The recursive one lists each class that is reached through one base or
more, once and without the class itself, in the order of a depth-first search; the worklist has the
same classes and the class itself. So a relationship that a class describes is warned about exactly
if no view that the class has or inherits is of that name. -/
theorem walks_are_exact (params : Params) (c after : Context) (s : Specification)
    (done : (build params).run c = (.ok s, after)) :
    (∀ name,
      s.baseClasses true name = (listing s.classes [name] (ownBases s.classes name)).eraseDups ∧
      (name :: s.baseClasses true name).Nodup ∧
      (∀ other, other ∈ s.baseClasses true name ↔
        other ≠ name ∧ Relation.TransGen (Base s.classes) name other) ∧
      (lineage s.classes name).Nodup ∧
      ∀ other, other ∈ lineage s.classes name ↔ other = name ∨ other ∈ s.baseClasses true name) ∧
    ∃ ds, after.diagnostics.items = c.diagnostics.items ++ ds ∧
      ∀ name ps r, (name, ps) ∈ s.classes → name ≠ defaultsName →
        r ∈ Entries.names (Params.children ps "relationships") → r ≠ defaultsName →
        ((∃ d ∈ ds, Links.WarnsUndeclared c name r d) ↔
          ∀ v ∈ s.inheritedViews name, v.relationName ≠ r) := by
  refine ⟨fun name => ⟨Lineage.ancestors_eq s.classes name, Lineage.nodup_ancestors s.classes true
    name, fun other => ?_, (Lineage.working_lineage s.classes name).once, fun other =>
    Lineage.mem_lineage_iff name other⟩, warns_undeclared params c after s done⟩
  exact (Lineage.mem_ancestors name other).trans (Lineage.reaches_iff name other)

def ownClasses (bases : List String) : Param.Value := .classRefs (bases.map ClassRef.own)

def cabinet : Params :=
  [("name", .str "Cabinet"),
    ("classes", .specs .modelClass
      [("Rack", [("base", ownClasses ["Shelf", "Frame", "Rack", "Shelf", "Crate"]),
          ("relationships", .specs .classRelationship [("fans", []), ("drawers", [])])]),
        ("Frame", [("base", ownClasses ["Unit", "Rack"])]),
        ("Shelf", [("base", ownClasses ["Unit"])]), ("Unit", [("base", ownClasses [])]),
        ("Fan", [])]),
    ("class_relationships", .relationships
      [⟨⟨"Unit", some "fans", .multiOwning⟩, ⟨"Fan", some "unit", .single⟩⟩])]

theorem walks_are_exact_cabinet :
    let c : Context := .start (.empty .strict) "cabinet.yaml" false
    ∃ s after, (build cabinet).run c = (.ok s, after) ∧
      s.baseClasses true "Rack" = ["Shelf", "Unit", "Frame"] ∧
      (Lineage.listing s.classes ["Rack"] ["Shelf", "Frame", "Rack", "Shelf", "Crate"]).eraseDups =
        ["Shelf", "Unit", "Frame"] ∧
      (∃ d ∈ after.diagnostics.items, Links.WarnsUndeclared c "Rack" "drawers" d) ∧
      ¬ ∃ d ∈ after.diagnostics.items, Links.WarnsUndeclared c "Rack" "fans" d := by
  intro c
  obtain ⟨s, after, ran, shown⟩ := Build.ok_of_shown (b := build cabinet) (c := c)
    (fun s => (s.baseClasses true "Rack", Lineage.ownBases s.classes "Rack",
      (s.inheritedViews "Rack").map View.relationName,
      s.classes.head?.map fun e => (e.1, Entries.names (Params.children e.2 "relationships"))))
    (["Shelf", "Unit", "Frame"], ["Shelf", "Frame", "Rack", "Shelf", "Crate"], ["fans"],
      some ("Rack", ["fans", "drawers"])) (by decide +kernel)
  simp only [Prod.mk.injEq] at shown
  obtain ⟨bases, own, views, first⟩ := shown
  obtain ⟨walks, ds, items, warned⟩ := walks_are_exact cabinet c after s ran
  rw [show c.diagnostics.items = [] from rfl, List.nil_append] at items
  obtain ⟨⟨name, ps⟩, head, same⟩ := Option.map_eq_some_iff.1 first
  obtain ⟨rfl, described⟩ := Prod.mk.inj same
  have member := List.mem_of_mem_head? head
  have view (r : String) : (∀ v ∈ s.inheritedViews "Rack", v.relationName ≠ r) ↔ r ≠ "fans" := by
    rw [← List.forall_mem_map (f := View.relationName) (P := fun n => n ≠ r), views]
    simp [eq_comm]
  refine ⟨s, after, ran, bases, ?_, ?_, ?_⟩
  · rw [← bases, (walks "Rack").1, own]
  · rw [items, warned "Rack" ps "drawers" member (by decide) (by simp [described]) (by decide), view]
    decide
  · rw [items, warned "Rack" ps "fans" member (by decide) (by simp [described]) (by decide), view]
    simp

end Specification

end PackSpec
