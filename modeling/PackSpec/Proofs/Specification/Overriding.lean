import PackSpec.Proofs.Specification.Answers
import PackSpec.Proofs.Specification.Walks

set_option autoImplicit false

namespace PackSpec

open Relation (TransGen)

namespace Lineage

variable {classes : Children}

theorem Lays.deterministic {bases : List String} {w after other : Walk}
    (lays : Lays classes bases w after) (again : Lays classes bases w other) : after = other := by
  induction lays generalizing other with
  | done => cases again; rfl
  | again seen _ ih =>
    cases again with
    | again _ later => exact ih later
    | unknown fresh | lay fresh => exact absurd seen fresh
  | unknown fresh undefined _ ih =>
    cases again with
    | again seen => exact absurd seen fresh
    | unknown _ _ later => exact ih later
    | lay _ defined => simp [undefined] at defined
  | lay fresh defined _ _ inner later =>
    cases again with
    | again seen => exact absurd seen fresh
    | unknown _ undefined => simp [defined] at undefined
    | lay _ _ inner_ later_ =>
      obtain rfl := inner inner_
      exact later later_

theorem lays_overlayOrder (classes : Children) (name : String) :
    ∃ seen, Lays classes [name] ⟨[], []⟩ ⟨seen, overlayOrder classes name⟩ :=
  ⟨_, lays_overlay (classes.length + 2) [name] ⟨[], []⟩
    (Nat.lt_succ_of_lt (unseen_lt_fuel classes []))⟩

theorem overlayOrder_eq (name : String) (defined : Entries.has classes name = true) :
    ∃ earlier, overlayOrder classes name = earlier ++ [name] := by
  obtain ⟨seen, lays⟩ := lays_overlayOrder classes name
  generalize overlayOrder classes name = order at lays
  cases lays with
  | again seen => simp at seen
  | unknown _ undefined => simp [defined] at undefined
  | lay _ _ _ later =>
    cases later
    exact ⟨_, rfl⟩

/-- Where the walk has come to. The classes of `path` wait for their bases to be laid; the others
that it came to are laid, each after its bases. -/
structure Laying (classes : Children) (path : List String) (w : Walk) : Prop where
  laid : w.found ⊆ w.seen
  waiting : ∀ name ∈ path, name ∈ w.seen ∧ name ∉ w.found
  finished : ∀ name ∈ w.seen, Entries.has classes name = true → name ∈ w.found ∨ name ∈ path
  closed : ∀ name ∈ w.found, ∀ base, Base classes name base → base ∈ w.found
  ordered : w.found.Pairwise fun earlier later => ¬ TransGen (Base classes) earlier later

namespace Laying

variable {path : List String} {w : Walk} {base : String}

theorem start (classes : Children) : Laying classes [] ⟨[], []⟩ :=
  ⟨List.nil_subset _, by simp, by simp, by simp, .nil⟩

theorem note (laying : Laying classes path w) (undefined : Entries.has classes base = false) :
    Laying classes path ⟨base :: w.seen, w.found⟩ := by
  refine ⟨fun _ member => .tail _ (laying.laid member), fun name onPath => ?_,
    fun name member defined => ?_, laying.closed, laying.ordered⟩
  · exact ⟨.tail _ (laying.waiting name onPath).1, (laying.waiting name onPath).2⟩
  · rcases List.mem_cons.1 member with rfl | before
    · simp [undefined] at defined
    · exact laying.finished name before defined

theorem enter (laying : Laying classes path w) (fresh : base ∉ w.seen) :
    Laying classes (base :: path) ⟨base :: w.seen, w.found⟩ := by
  refine ⟨fun _ member => .tail _ (laying.laid member), fun name onPath => ?_,
    fun name member defined => ?_, laying.closed, laying.ordered⟩
  · rcases List.mem_cons.1 onPath with rfl | before
    · exact ⟨.head _, fun found => fresh (laying.laid found)⟩
    · exact ⟨.tail _ (laying.waiting name before).1, (laying.waiting name before).2⟩
  · rcases List.mem_cons.1 member with rfl | before
    · exact .inr (.head _)
    · exact (laying.finished name before defined).imp_right fun onPath => .tail _ onPath

theorem mem_of_derives (laying : Laying classes path w) (name other : String)
    (member : name ∈ w.found) (derives : TransGen (Base classes) name other) : other ∈ w.found := by
  induction derives with
  | single isBase => exact laying.closed _ member _ isBase
  | tail _ isBase ih => exact laying.closed _ ih _ isBase

theorem leave (laying : Laying classes (base :: path) w) (apart : base ∉ path)
    (below : ∀ other, Base classes base other → other ∈ w.found) :
    Laying classes path ⟨w.seen, w.found ++ [base]⟩ := by
  obtain ⟨here, new⟩ := laying.waiting base (.head _)
  refine ⟨fun name member => ?_, fun name onPath => ?_, fun name member defined => ?_,
    fun name member other isBase => ?_, ?_⟩
  · rcases List.mem_append.1 member with before | last
    · exact laying.laid before
    · exact List.mem_singleton.1 last ▸ here
  · obtain ⟨seen, absent⟩ := laying.waiting name (.tail _ onPath)
    have different : name ≠ base := ne_of_mem_of_not_mem onPath apart
    exact ⟨seen, by simp [absent, different]⟩
  · rcases laying.finished name member defined with before | onPath
    · exact .inl (List.mem_append_left _ before)
    · rcases List.mem_cons.1 onPath with rfl | waits
      · exact .inl (by simp)
      · exact .inr waits
  · rcases List.mem_append.1 member with before | last
    · exact List.mem_append_left _ (laying.closed name before other isBase)
    · obtain rfl := List.mem_singleton.1 last
      exact List.mem_append_left _ (below other isBase)
  · -- What an earlier class derives from has been laid, and this one has not.
    refine List.pairwise_append.2 ⟨laying.ordered, List.pairwise_singleton _ _, ?_⟩
    intro earlier member last isLast derives
    obtain rfl := List.mem_singleton.1 isLast
    exact new (laying.mem_of_derives earlier last member derives)

end Laying

section

variable (acyclic : ∀ name, ¬ TransGen (Base classes) name name)

include acyclic

theorem Lays.laying {bases : List String} {w after : Walk} (lays : Lays classes bases w after)
    (path : List String) (laying : Laying classes path w)
    (above : ∀ name ∈ path, ∀ base ∈ bases, Entries.has classes base = true →
      TransGen (Base classes) name base) : Laying classes path after := by
  induction lays generalizing path with
  | done => exact laying
  | again _ _ ih =>
    exact ih path laying fun name onPath base member => above name onPath base (.tail _ member)
  | unknown _ undefined _ ih =>
    exact ih path (laying.note undefined) fun name onPath base member =>
      above name onPath base (.tail _ member)
  | @lay base rest w below after fresh defined inner _ ihInner ihLater =>
    have entered := ihInner (base :: path) (laying.enter fresh) fun name onPath other own defined_ => by
      rcases List.mem_cons.1 onPath with rfl | before
      · exact .single ⟨own, defined_⟩
      · exact (above name before base (.head _) defined).tail ⟨own, defined_⟩
    refine ihLater path (entered.leave (fun onPath => fresh (laying.waiting base onPath).1) ?_)
      fun name onPath other member => above name onPath other (.tail _ member)
    -- A base that still waits would derive from the class, which would be a cycle.
    intro other isBase
    rcases entered.finished other (inner.bases_seen isBase.1) isBase.2 with found | onPath
    · exact found
    · rcases List.mem_cons.1 onPath with rfl | waits
      · exact absurd (.single isBase) (acyclic other)
      · exact absurd ((above other waits base (.head _) defined).tail isBase) (acyclic other)

theorem ordered_overlayOrder (name : String) :
    (overlayOrder classes name).Pairwise fun earlier later =>
      ¬ TransGen (Base classes) earlier later := by
  obtain ⟨seen, lays⟩ := lays_overlayOrder classes name
  exact (lays.laying acyclic [] (.start classes) (by simp)).ordered

end

theorem mem_own_or_ancestor (name other : String) :
    other ∈ name :: ancestors classes true name ↔ Reaches classes name other := by
  rw [List.mem_cons, ← mem_lineage_iff, mem_lineage]

theorem derives_of_mem_ancestors (name other : String)
    (member : other ∈ ancestors classes true name) : TransGen (Base classes) name other :=
  ((reaches_iff name other).1 ((mem_ancestors name other).1 member)).2

end Lineage

namespace Specification

open Lineage (Base Lays)

variable (s : Specification) (collection : String)

def Gives (className name : String) (node : Node) : Prop :=
  ∃ n, s.classNode? className = some n ∧ (name, node) ∈ n.children collection

theorem declares_iff (className name : String) :
    s.Declares collection className name ↔ ∃ node, s.Gives collection className name node := by
  constructor
  · rintro ⟨ps, found, member⟩
    rw [← names_children ⟨.modelClass, s.name, className, ps⟩ collection] at member
    obtain ⟨⟨_, node⟩, inside, rfl⟩ := List.mem_map.1 member
    exact ⟨node, _, by rw [classNode?, found]; rfl, inside⟩
  · rintro ⟨node, n, defined, member⟩
    obtain ⟨ps, found, rfl⟩ := Option.map_eq_some_iff.1 defined
    have named := List.mem_map_of_mem (f := Prod.fst) member
    exact ⟨ps, found, names_children ⟨.modelClass, s.name, className, ps⟩ collection ▸ named⟩

def lay (laid : Entries (String × Node)) (className : String) : Entries (String × Node) :=
  match s.classNode? className with
  | some n => putAll className laid (n.children collection)
  | none => laid

theorem distinct_putAll (className : String) (laid : Entries (String × Node)) (own : Entries Node)
    (distinct : Entries.Distinct laid) : Entries.Distinct (putAll className laid own) := by
  induction own generalizing laid with
  | nil => exact distinct
  | cons e own ih => exact ih _ (Entries.distinct_put laid e.1 (className, e.2) distinct)

theorem distinct_lay (order : List String) (laid : Entries (String × Node))
    (distinct : Entries.Distinct laid) : Entries.Distinct (order.foldl (s.lay collection) laid) := by
  induction order generalizing laid with
  | nil => exact distinct
  | cons className order ih =>
    refine ih _ ?_
    unfold lay
    split
    · exact distinct_putAll className laid _ distinct
    · exact distinct

theorem get?_putAll (className : String) (laid : Entries (String × Node)) (own : Entries Node)
    (name : String) (x : String × Node)
    (found : Entries.get? (putAll className laid own) name = some x) :
    x.1 = className ∧ (name, x.2) ∈ own ∨
      name ∉ Entries.names own ∧ Entries.get? laid name = some x := by
  induction own generalizing laid with
  | nil => exact .inr ⟨by simp [Entries.names], found⟩
  | cons e own ih =>
    rcases ih (Entries.put laid e.1 (className, e.2)) found with ⟨same, member⟩ | ⟨absent, before⟩
    · exact .inl ⟨same, .tail _ member⟩
    · rw [Entries.get?_put] at before
      by_cases here : name = e.1
      · rw [if_pos here] at before
        obtain rfl := Option.some.inj before
        exact .inl ⟨rfl, here ▸ .head _⟩
      · rw [if_neg here] at before
        exact .inr ⟨by simpa [Entries.names, here] using absent, before⟩

theorem get?_lay (className : String) (laid : Entries (String × Node)) (name : String)
    (x : String × Node) (found : Entries.get? (s.lay collection laid className) name = some x) :
    x.1 = className ∧ s.Gives collection className name x.2 ∨
      ¬ s.Declares collection className name ∧ Entries.get? laid name = some x := by
  unfold lay at found
  cases defined : s.classNode? className with
  | none =>
    rw [defined] at found
    exact .inr ⟨by simp [declares_iff, Gives, defined], found⟩
  | some n =>
    rw [defined] at found
    rcases get?_putAll className laid (n.children collection) name x found with
      ⟨same, member⟩ | ⟨absent, before⟩
    · exact .inl ⟨same, n, defined, member⟩
    · refine .inr ⟨?_, before⟩
      rw [declares_iff]
      rintro ⟨node, n_, defined_, member⟩
      obtain rfl := Option.some.inj (defined.symm.trans defined_)
      exact absent (List.mem_map_of_mem member)

theorem get?_laid (order : List String) (laid : Entries (String × Node)) (name : String)
    (x : String × Node)
    (found : Entries.get? (order.foldl (s.lay collection) laid) name = some x) :
    (∃ earlier later, order = earlier ++ x.1 :: later ∧ s.Gives collection x.1 name x.2 ∧
      ∀ other ∈ later, ¬ s.Declares collection other name) ∨
    (∀ other ∈ order, ¬ s.Declares collection other name) ∧ Entries.get? laid name = some x := by
  induction order generalizing laid with
  | nil => exact .inr ⟨by simp, found⟩
  | cons className order ih =>
    rcases ih (s.lay collection laid className) found with
      ⟨earlier, later, split, gives, last⟩ | ⟨none_, before⟩
    · exact .inl ⟨className :: earlier, later, by rw [split, List.cons_append], gives, last⟩
    · rcases s.get?_lay collection className laid name x before with ⟨rfl, gives⟩ | ⟨absent, start⟩
      · exact .inl ⟨[], order, rfl, gives, none_⟩
      · exact .inr ⟨List.forall_mem_cons.2 ⟨absent, none_⟩, start⟩

/-- What a class inherits in one of its collections. -/
structure Overridden (name : String) (answer : List Inherited) : Prop where
  names : ∀ entry, entry ∈ answer.map Inherited.name ↔
    ∃ other ∈ name :: s.baseClasses true name, s.Declares collection other entry
  once : (answer.map Inherited.name).Nodup
  given : ∀ i ∈ answer, i.className ∈ name :: s.baseClasses true name ∧
    s.Gives collection i.className i.name i.node
  own : ∀ i ∈ answer, s.Declares collection name i.name → i.className = name
  nearest : (∀ other, ¬ TransGen (Base s.classes) other other) → ∀ i ∈ answer,
    ∀ other ∈ name :: s.baseClasses true name, i.className ∈ s.baseClasses true other →
      ¬ s.Declares collection other i.name

theorem overridden_inherited (name : String) :
    s.Overridden collection name (s.inherited (fun n => n.children collection) name) := by
  generalize merged : (Lineage.overlayOrder s.classes name).foldl (s.lay collection) [] = laid
  have answer : s.inherited (fun n => n.children collection) name =
      laid.map fun e => ⟨e.1, e.2.1, e.2.2⟩ := by
    rw [← merged]
    rfl
  have distinct : Entries.Distinct laid := merged ▸ s.distinct_lay collection _ [] List.nodup_nil
  have names : (s.inherited (fun n => n.children collection) name).map Inherited.name =
      Entries.names laid := by
    rw [answer, List.map_map]
    rfl
  -- Where in the order the class of an entry stands.
  have placed (i : Inherited) (member : i ∈ s.inherited (fun n => n.children collection) name) :
      ∃ earlier later, Lineage.overlayOrder s.classes name = earlier ++ i.className :: later ∧
        s.Gives collection i.className i.name i.node ∧
        ∀ other ∈ later, ¬ s.Declares collection other i.name := by
    rw [answer, List.mem_map] at member
    obtain ⟨e, inside, rfl⟩ := member
    have found := Entries.get?_of_mem laid e distinct inside
    rw [← merged] at found
    exact (s.get?_laid collection _ [] e.1 e.2 found).resolve_right (by simp [Entries.get?])
  have reached (other : String) : other ∈ name :: s.baseClasses true name ↔
      Lineage.Reaches s.classes name other := Lineage.mem_own_or_ancestor name other
  refine ⟨fun entry => ?_, names ▸ distinct, fun i member => ?_, fun i member own => ?_,
    fun acyclic i member other inside below declares => ?_⟩
  · rw [mem_inherited]
    simp only [reached]
  · obtain ⟨earlier, later, split, gives, -⟩ := placed i member
    have laid_ : i.className ∈ Lineage.overlayOrder s.classes name := by simp [split]
    exact ⟨(reached _).2 ((Lineage.mem_overlayOrder name _).1 laid_).2, gives⟩
  · obtain ⟨earlier, later, split, -, last⟩ := placed i member
    have defined : Entries.has s.classes name = true := by
      obtain ⟨ps, found, -⟩ := own
      rw [Entries.has_eq_isSome, found]
      rfl
    -- The class itself stands at the end of the order.
    obtain ⟨before, order⟩ := Lineage.overlayOrder_eq name defined
    rcases List.eq_nil_or_concat later with rfl | ⟨init, final, rfl⟩
    · have ends := List.append_inj' (split.symm.trans order) rfl
      exact List.singleton_inj.1 ends.2
    · have final_ : final = name := by
        have ends : (earlier ++ i.className :: init) ++ [final] = before ++ [name] := by
          rw [← order, split]
          simp
        exact List.singleton_inj.1 (List.append_inj' ends rfl).2
      exact absurd own (final_ ▸ last final (by simp))
  · obtain ⟨earlier, later, split, -, last⟩ := placed i member
    have laid_ : other ∈ Lineage.overlayOrder s.classes name := by
      have defined : Entries.has s.classes name = true :=
        ((Lineage.mem_overlayOrder name i.className).1 (by simp [split])).1
      exact (Lineage.mem_overlayOrder name other).2 ⟨defined, (reached other).1 inside⟩
    have derives := Lineage.derives_of_mem_ancestors other i.className below
    have ordered := Lineage.ordered_overlayOrder acyclic name
    rw [split] at laid_ ordered
    rcases List.mem_append.1 laid_ with before | behind
    · exact (List.pairwise_append.1 ordered).2.2 other before i.className (.head _) derives
    · rcases List.mem_cons.1 behind with same | after
      · exact acyclic other (same ▸ derives)
      · exact last other after declares

/-- A class wins over its bases. What it inherits is named by the declarations of its lineage, its own
are taken before any other, and without cycles none is taken where a class that derives from its own
has another one. The walk comes to an end in exactly one way, also with cycles. -/
theorem derived_class_wins (name : String) :
    s.Overridden "properties" name (s.inheritedProperties name) ∧
    s.Overridden "relationships" name (s.inheritedRelationships name) ∧
    ∃ seen, ∀ w, Lays s.classes [name] ⟨[], []⟩ w ↔
      w = ⟨seen, Lineage.overlayOrder s.classes name⟩ := by
  obtain ⟨seen, lays⟩ := Lineage.lays_overlayOrder s.classes name
  refine ⟨s.overridden_inherited "properties" name, s.overridden_inherited "relationships" name,
    seen, fun w => ⟨fun other => other.deterministic lays, ?_⟩⟩
  rintro rfl
  exact lays

def crates : Params :=
  [("name", .str "Crates"),
    ("classes", .specs .modelClass
      [("Crate", [("base", .classRefs [.own "Tray", .own "Box"])]),
        ("Box", [("properties", .specs .classProperty [("size", []), ("weight", [])])]),
        ("Tray", [("base", .classRefs [.own "Box"]),
          ("properties", .specs .classProperty [("size", [])])])])]

-- The size is the tray's, though the box is the later base.
example : ((build crates).run (.start (.empty .strict) "crates.yaml" false)).1.toOption.map (fun s =>
    (s.inheritedProperties "Crate").map fun i => (i.name, i.className)) =
      some [("size", "Tray"), ("weight", "Box")] := by decide +kernel

end Specification

end PackSpec
