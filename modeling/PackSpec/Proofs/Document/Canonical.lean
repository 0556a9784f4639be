import PackSpec.Proofs.Document.Parallel

set_option autoImplicit false

namespace PackSpec

namespace Param

theorem shape_of_specs (p : Param) (child : Kind) (cs : Children)
    (fits : p.Fits (.specs child cs)) : p.shape = .specs child := by
  rcases fits with ⟨null, _⟩ | held
  · simp at null
  · cases shape : p.shape <;> simp_all [Shape.holds]

theorem shape_of_groups (p : Param) (child : Kind) (gs : Groups)
    (fits : p.Fits (.groups child gs)) : p.shape = .groups child := by
  rcases fits with ⟨null, _⟩ | held
  · simp at null
  · cases shape : p.shape <;> simp_all [Shape.holds]

end Param

def Specification.groupNames (s : Specification) (deviceClass : String) : Option (List String) :=
  (Entries.get? s.deviceClasses deviceClass).map fun n =>
    Entries.names (n.groups "component_templates")

namespace Encode

open Node (Built)

def isGroupless (k : Kind) : Bool := k != .zenPack && k != .deviceClass

theorem groupless_params (k : Kind) (groupless : isGroupless k = true) (p : Param)
    (member : p ∈ k.params) : p.shape.child?.all isGroupless = true ∧
      ∀ child, p.shape ≠ .groups child := by
  have known : p.shape.child?.all isGroupless = true ∧ ∀ child ∈ Kind.all, p.shape ≠ .groups child := by
    revert p
    cases k <;> first | decide | simp [isGroupless] at groupless
  exact ⟨known.1, fun child => known.2 child child.mem_all⟩

section

variable {keeps : Bool} {k : Kind} {ps : Params} (built : Built keeps k ps) (p : Param)
  (member : p ∈ k.params) (child : Kind)

include built member

theorem declared_specs (cs : Children) (held : Params.value ps p.name = .specs child cs) :
    p.shape = .specs child ∧ ∀ e ∈ cs, Built keeps child e.2 := by
  have found := Node.get?_of_names k ps built.whole.names p member
  have every := Params.every_get? ps p.name _ built.below found
  have fits := built.whole.fits p member
  rw [held] at fits every
  exact ⟨p.shape_of_specs child cs fits, Node.built_of_below keeps child cs every⟩

theorem declared_groups (gs : Groups) (held : Params.value ps p.name = .groups child gs) :
    p.shape = .groups child ∧ ∀ g ∈ gs, ∀ e ∈ g.2, Built keeps child e.2 := by
  have found := Node.get?_of_names k ps built.whole.names p member
  have every := Params.every_get? ps p.name _ built.below found
  have fits := built.whole.fits p member
  rw [held] at fits every
  exact ⟨p.shape_of_groups child gs fits, Node.built_of_groups keeps child gs every⟩

end

theorem grouped_of_groupless {keeps : Bool} (k : Kind) (ps qs : Params)
    (groupless : isGroupless k = true) (built : Built keeps k ps) : Grouped k ps qs := by
  -- By induction on the height of the kind: the kinds of the entries are lower and groupless too.
  induction height : k.height using Nat.strong_induction_on generalizing k ps qs with
  | _ n ih =>
    have none_ (p : Param) (member : p ∈ k.params) (child : Kind) (gs : Groups)
        (held : Params.value ps p.name = .groups child gs) : False :=
      (groupless_params k groupless p member).2 child
        (declared_groups built p member child gs held).1
    refine .intro k ps qs (fun p member child gs _ held _ => (none_ p member child gs held).elim)
      (fun p member child cs ds held _ e inside f _ _ => ?_)
      (fun p member child gs _ held _ => (none_ p member child gs held).elim)
    obtain ⟨shape, below⟩ := declared_specs built p member child cs held
    have declared : p.shape.child? = some child := by rw [shape]; rfl
    have lower := k.height_child p member child declared
    have groupless_ := (groupless_params k groupless p member).1
    rw [declared, Option.all_some] at groupless_
    exact ih child.height (height ▸ lower) child e.2 f.2 groupless_ (below e inside) rfl

theorem grouped_deviceClass {keeps : Bool} (ps qs : Params) (built : Built keeps .deviceClass ps)
    (names : ∀ child gs hs, Params.value ps "component_templates" = .groups child gs →
      Params.value qs "component_templates" = .groups child hs →
      Entries.names gs = Entries.names hs) : Grouped .deviceClass ps qs := by
  have groupless : ∀ p ∈ Kind.params .deviceClass, p.shape.child?.all isGroupless = true ∧
      (p.name = "component_templates" ∨ ∀ child ∈ Kind.all, p.shape ≠ .groups child) := by
    decide
  -- Templates are in groups under one name only, and what is in templates has no groups.
  have groupless_ (p : Param) (member : p ∈ Kind.params .deviceClass) (child : Kind)
      (declared : p.shape.child? = some child) : isGroupless child = true := by
    have all := (groupless p member).1
    rwa [declared, Option.all_some] at all
  refine .intro .deviceClass ps qs (fun p member child gs hs held held_ => ?_)
    (fun p member child cs ds held _ e inside f _ _ => ?_)
    (fun p member child gs hs held _ g inside h _ _ e there f _ _ => ?_)
  · obtain ⟨shape, _⟩ := declared_groups built p member child gs held
    rcases (groupless p member).2 with name | other
    · rw [name] at held held_
      exact names child gs hs held held_
    · exact absurd shape (other child child.mem_all)
  · obtain ⟨shape, below⟩ := declared_specs built p member child cs held
    exact grouped_of_groupless child e.2 f.2
      (groupless_ p member child (by rw [shape]; rfl)) (below e inside)
  · obtain ⟨shape, below⟩ := declared_groups built p member child gs held
    exact grouped_of_groupless child e.2 f.2
      (groupless_ p member child (by rw [shape]; rfl)) (below g inside e there)

theorem grouped_root {keeps : Bool} (ps qs : Params) (built : Built keeps .zenPack ps)
    (each : ∀ cs ds, Params.value ps "device_classes" = .specs .deviceClass cs →
      Params.value qs "device_classes" = .specs .deviceClass ds → ∀ e ∈ cs, ∀ f ∈ ds, e.1 = f.1 →
      Built keeps .deviceClass e.2 → Grouped .deviceClass e.2 f.2) : Grouped .zenPack ps qs := by
  have known : ∀ p ∈ Kind.params .zenPack, (∀ child ∈ Kind.all, p.shape ≠ .groups child) ∧
      (p.shape.child?.all isGroupless = true ∨
        p.name = "device_classes" ∧ p.shape = .specs .deviceClass) := by
    decide
  have none_ (p : Param) (member : p ∈ Kind.params .zenPack) (child : Kind) (gs : Groups)
      (held : Params.value ps p.name = .groups child gs) : False :=
    (known p member).1 child child.mem_all (declared_groups built p member child gs held).1
  refine .intro .zenPack ps qs (fun p member child gs _ held _ => (none_ p member child gs held).elim)
    (fun p member child cs ds held held_ e inside f inside_ name => ?_)
    (fun p member child gs _ held _ => (none_ p member child gs held).elim)
  obtain ⟨shape, below⟩ := declared_specs built p member child cs held
  rcases (known p member).2 with groupless | ⟨place, shape_⟩
  · rw [shape] at groupless
    exact grouped_of_groupless child e.2 f.2 groupless (below e inside)
  · obtain rfl := Param.Shape.specs.inj (shape.symm.trans shape_)
    rw [place] at held held_
    exact each cs ds held held_ e inside f inside_ name (below e inside)

end Encode

namespace Param.Value

theorem Every.and {P Q : Param.Value → Prop} {v : Param.Value} (left : v.Every P)
    (right : v.Every Q) : v.Every fun w => P w ∧ Q w := by
  induction left with
  | intro v here inside ih =>
    exact .intro v ⟨here, right.here⟩ fun ps there e member =>
      ih ps there e member (right.inside ps there e member)

theorem every_specs_iff (P : Param.Value → Prop) (k : Kind) (cs : Children) :
    (specs k cs).Every P ↔ P (.specs k cs) ∧ ∀ e ∈ cs, Params.Every P e.2 := by
  refine ⟨fun every => ⟨every.here, fun e member => ?_⟩, fun both => .intro _ both.1 ?_⟩
  · exact every.inside e.2 ((mem_entries_specs k cs e.2).2 ⟨e, member, rfl⟩)
  · intro ps there
    obtain ⟨e, member, rfl⟩ := (mem_entries_specs k cs ps).1 there
    exact both.2 e member

theorem every_groups_iff (P : Param.Value → Prop) (k : Kind) (gs : Groups) :
    (groups k gs).Every P ↔ P (.groups k gs) ∧ ∀ g ∈ gs, ∀ e ∈ g.2, Params.Every P e.2 := by
  refine ⟨fun every => ⟨every.here, fun g there e member => ?_⟩, fun both => .intro _ both.1 ?_⟩
  · exact every.inside e.2 ((mem_entries_groups k gs e.2).2 ⟨g, there, e, member, rfl⟩)
  · intro ps inside
    obtain ⟨g, there, e, member, rfl⟩ := (mem_entries_groups k gs ps).1 inside
    exact both.2 g there e member

theorem distinct_of_settled {keeps : Bool} {v : Param.Value} (settled : v.Every (Settled keeps)) :
    v.Every Distinct := by
  have once (k : Kind) (ps : Params) (whole : Node.Whole k ps) : Entries.Distinct ps := by
    rw [Entries.Distinct, whole.names]
    exact k.nodup_names
  induction settled with
  | intro v here inside ih =>
    refine .intro v ?_ ih
    cases v with
    | specs k cs => exact ⟨here.distinct, fun e member => once k e.2 (here.whole e member)⟩
    | groups k gs =>
      refine ⟨here.1, fun g there => ⟨(here.2 g there).distinct, fun e member => ?_⟩⟩
      exact once k e.2 ((here.2 g there).whole e member)
    | _ => trivial

end Param.Value

namespace Specification

theorem get?_ofChildren (k : Kind) (parent : String) (cs : Children) (name : String) :
    Entries.get? (Node.ofChildren k parent cs) name =
      (Entries.get? cs name).map fun ps => ⟨k, parent, name, ps⟩ := by
  induction cs with
  | nil => rfl
  | cons e cs ih =>
    rw [Node.ofChildren, List.map_cons, Entries.get?_cons, Entries.get?_cons]
    by_cases here : name = e.1
    · rw [if_pos here, if_pos here, here]
      rfl
    · rw [if_neg here, if_neg here]
      exact ih

theorem groupNames_eq (s : Specification) (cs : Children)
    (held : Params.value s.params "device_classes" = .specs .deviceClass cs)
    (distinct : Entries.Distinct cs) (e : String × Params) (member : e ∈ cs) (child : Kind)
    (gs : Groups) (groups : Params.value e.2 "component_templates" = .groups child gs) :
    s.groupNames e.1 = some (Entries.names gs) := by
  have there : s.deviceClasses = Node.ofChildren .deviceClass s.name cs := by
    unfold deviceClasses Node.children Node.value root
    rw [held]
  rw [groupNames, there, get?_ofChildren, Entries.get?_of_mem cs e distinct member]
  simp [Node.groups, Node.value, groups, Entries.names]

theorem built_of_build (ps : Params) (c after : Context) (s : Specification)
    (distinct : ps.Distinct) (done : (build ps).run c = (.ok s, after)) :
    Node.Built c.keepsDefaults .zenPack s.params := by
  obtain ⟨root, linked, spelled⟩ := linked_of_build ps c after s distinct.2 done
  rw [spelled]
  exact built_withSchemas c.keepsDefaults root linked _

theorem grouped_of_names {keeps keeps_ : Bool} (a b : Specification)
    (built : Node.Built keeps .zenPack a.params) (built_ : Node.Built keeps_ .zenPack b.params)
    (grouped : ∀ name, a.groupNames name = b.groupNames name) :
    Encode.Grouped .zenPack a.params b.params := by
  have once {keeps : Bool} {s : Specification} (built : Node.Built keeps .zenPack s.params)
      (cs : Children) (held : Params.value s.params "device_classes" = .specs .deviceClass cs) :
      Entries.Distinct cs := by
    have member : (Param.of "device_classes" (.specs .deviceClass)) ∈ Kind.params .zenPack := by
      decide
    have every := Params.every_get? s.params "device_classes" _ built.below
      (Node.get?_of_names .zenPack s.params built.whole.names _ member)
    have here := every.here
    rw [Param.of, held] at here
    exact here.distinct
  refine Encode.grouped_root a.params b.params built fun cs ds held held_ e inside f inside_ name
    below => ?_
  refine Encode.grouped_deviceClass e.2 f.2 below fun child gs hs groups groups_ => ?_
  have left := groupNames_eq a cs held (once built cs held) e inside child gs groups
  have right := groupNames_eq b ds held_ (once built_ ds held_) f inside_ child hs groups_
  rw [name, grouped f.1, right] at left
  exact (Option.some.inj left).symm

def store (classes templates : Children) (settings : List (Yaml × Yaml)) : Params :=
  [("name", .str "Store"), ("classes", .specs .modelClass classes),
    ("device_classes", .specs .deviceClass
      [("/Store", [("zProperties", .dict settings),
        ("component_templates", .groups .template [("Racks", templates), ("Bays", [])])])])]

def shelf : String × Params := ("Shelf", [("label", .str "Rack")])
def item : String × Params := ("Item", [])
def defaults : String × Params := (defaultsName, [("label_width", .int 90)])

def template : String × Params := ("Fan", [("description", .str "speed")])
def other : String × Params := ("Disk", [])

def stored : Params :=
  store [defaults, shelf, item] [template, other] [(.str "zPort", .int (.ofInt64 80)), (.null, .null)]

def restored : Params :=
  store [item, shelf, defaults] [other, template] [(.null, .null), (.str "zPort", .int (.ofInt64 80))]

theorem stored_distinct : stored.Distinct ∧ restored.Distinct := by
  have text (s : String) : (Param.Value.str s).Every Param.Value.Distinct := .flat trivial rfl
  have width (n : Int64) : (Param.Value.int n).Every Param.Value.Distinct := .flat trivial rfl
  have settings (es : List (Yaml × Yaml)) : (Param.Value.dict es).Every Param.Value.Distinct :=
    .flat trivial rfl
  constructor
  all_goals
    refine ⟨by simp [stored, restored, store, Entries.Distinct, Entries.names], ?_⟩
    simp [-Prod.forall, stored, restored, store, defaults, shelf, item, template, other,
      Params.Every, Param.Value.every_specs_iff, Param.Value.every_groups_iff, text, width, settings,
      Param.Value.Distinct, Entries.Distinct, Entries.names, defaultsName]

theorem stored_keyed :
    stored.Every Param.Value.Keyed ∧ restored.Every Param.Value.Keyed := by
  have text (s : String) : (Param.Value.str s).Every Param.Value.Keyed := .flat trivial rfl
  have width (n : Int64) : (Param.Value.int n).Every Param.Value.Keyed := .flat trivial rfl
  have settings (es : List (Yaml × Yaml))
      (members : ∀ e ∈ es, e = (.str "zPort", .int (.ofInt64 80)) ∨ e = (.null, .null))
      (apart : es.Pairwise fun e f => e.1.same f.1 = false) :
      (Param.Value.dict es).Every Param.Value.Keyed := by
    refine .flat (.map es apart (fun e member => ?_) fun e member => ?_) rfl
    · rcases members e member with rfl | rfl
      · exact .str _
      · exact .null
    · rcases members e member with rfl | rfl
      · exact .int _
      · exact .null
  have listed := settings [(.str "zPort", .int (.ofInt64 80)), (.null, .null)]
    (by simp) (by simp [Yaml.same])
  have swapped := settings [(.null, .null), (.str "zPort", .int (.ofInt64 80))]
    (by simp) (by simp [Yaml.same])
  constructor
  all_goals
    simp [-Prod.forall, stored, restored, store, defaults, shelf, item, template, other,
      Params.Every, Param.Value.every_specs_iff, Param.Value.every_groups_iff, text, width, listed,
      swapped, Param.Value.Keyed]

theorem groupNames_other (s : Specification) (deviceClass name : String)
    (names : Entries.names s.deviceClasses = [deviceClass]) (other : name ≠ deviceClass) :
    s.groupNames name = none := by
  have absent : name ∉ Entries.names s.deviceClasses := by simp [names, other]
  rw [groupNames, Entries.get?_eq_none _ _ absent]
  rfl

end Specification

end PackSpec
