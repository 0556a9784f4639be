import PackSpec.Proofs.Specification.Lineage
import PackSpec.Proofs.Specification.Trimmed

set_option autoImplicit false

namespace PackSpec

open Relation (ReflTransGen)
open Param.Value (trimmedParams trimmedChildren)

namespace Lineage

def Avoids (classes : Children) (shunned : String) : String → String → Prop :=
  ReflTransGen fun name base => Base classes name base ∧ base ≠ shunned

variable (classes : Children)

theorem reaches_of_avoids (shunned name other : String)
    (avoids : Avoids classes shunned name other) : Reaches classes name other :=
  ReflTransGen.mono (fun _ _ (step : _ ∧ _) => step.1) _ _ avoids

theorem ne_of_avoids (shunned name other : String) (distinct : name ≠ shunned)
    (avoids : Avoids classes shunned name other) : other ≠ shunned := by
  cases avoids with
  | refl => exact distinct
  | tail _ step => exact step.2

theorem avoids_of_not_reaches (shunned name other : String)
    (never : ¬ Reaches classes name shunned) (path : Reaches classes name other) :
    Avoids classes shunned name other := by
  induction path with
  | refl => exact .refl
  | tail before isBase ih =>
    refine .tail ih ⟨isBase, ?_⟩
    rintro rfl
    exact never (before.tail isBase)

theorem defined_of_base (name base : String) (isBase : Base classes name base) :
    Entries.has classes name = true := by
  rw [Entries.has_eq_isSome]
  obtain ⟨own, -⟩ := isBase
  unfold ownBases at own
  split at own
  · next found => rw [found]; rfl
  · simp at own

theorem ownBases_trimmed (name : String) (other : name ≠ defaultsName) :
    ownBases (trimmedChildren classes) name = ownBases classes name := by
  unfold ownBases
  rw [Children.get?_trimmed classes name other]
  cases Entries.get? classes name with
  | none => rfl
  | some ps => simp only [Option.map_some, Params.classRefs_trimmed]

theorem base_trimmed (name base : String) (other : name ≠ defaultsName) :
    Base (trimmedChildren classes) name base ↔ Base classes name base ∧ base ≠ defaultsName := by
  rw [Base, ownBases_trimmed classes name other, Children.has_trimmed, Base]
  simp [and_assoc]

theorem reaches_trimmed (name other : String) (distinct : name ≠ defaultsName) :
    Reaches (trimmedChildren classes) name other ↔ Avoids classes defaultsName name other := by
  -- No class on the way holds defaults, so the step from it is the same.
  have both := fun last => ne_of_avoids classes defaultsName name last distinct
  constructor
  · intro path
    induction path with
    | refl => exact .refl
    | tail _ isBase ih => exact .tail ih ((base_trimmed classes _ _ (both _ ih)).1 isBase)
  · intro path
    induction path with
    | refl => exact .refl
    | tail before step ih => exact .tail ih ((base_trimmed classes _ _ (both _ before)).2 step)

theorem visits_trimmed {classes : Children} {recursive : Bool} {bases : List String}
    {w after : Walk} (visits : Visits classes recursive bases w after)
    (never : defaultsName ∉ after.seen) :
    Visits (trimmedChildren classes) recursive bases w after := by
  induction visits with
  | done => exact .done _
  | skip passed _ ih =>
    exact .skip (passed.imp_left fun undefined => by simp [Children.has_trimmed, undefined]) (ih never)
  | @visit base _ _ _ _ defined fresh inner later ihInner ihLater =>
    have notBelow := fun member => never (later.seen_subset member)
    have other : base ≠ defaultsName := by
      rintro rfl
      exact notBelow (inner.seen_subset (.head _))
    refine .visit (by simp [Children.has_trimmed, defined, other]) fresh ?_ (ihLater never)
    have same : under (trimmedChildren classes) recursive base = under classes recursive base := by
      rw [under, ownBases_trimmed classes base other, under]
    exact same ▸ ihInner notBelow

theorem ancestors_trimmed (recursive : Bool) (name : String) (distinct : name ≠ defaultsName)
    (never : defaultsName ∉ ancestors classes recursive name) :
    ancestors (trimmedChildren classes) recursive name = ancestors classes recursive name := by
  have kept := visits_trimmed (visits_ancestors classes recursive name)
    fun member => ((mem_seen_ancestors recursive name defaultsName).1 member).elim never
      (distinct ∘ Eq.symm)
  have dropped := visits_ancestors (trimmedChildren classes) recursive name
  rw [ownBases_trimmed classes name distinct] at dropped
  exact congrArg Walk.found (dropped.deterministic kept)

end Lineage

namespace Specification

open Lineage (Avoids Reaches Base)

/-- Two specifications answer alike about a class. -/
structure AnswersAlike (a b : Specification) (name : String) : Prop where
  bases : ∀ recursive, a.baseClasses recursive name = b.baseClasses recursive name
  subclasses : a.subclasses name = b.subclasses name
  properties : ∀ property, property ∈ (a.inheritedProperties name).map Inherited.name ↔
    property ∈ (b.inheritedProperties name).map Inherited.name
  relationships : ∀ relationship,
    relationship ∈ (a.inheritedRelationships name).map Inherited.name ↔
      relationship ∈ (b.inheritedRelationships name).map Inherited.name
  isA : ∀ token, a.isA name token = b.isA name token

def Declares (s : Specification) (collection className name : String) : Prop :=
  ∃ ps, Entries.get? s.classes className = some ps ∧
    name ∈ Entries.names (Params.children ps collection)

theorem names_children (n : Node) (collection : String) :
    Entries.names (n.children collection) =
      Entries.names (Params.children n.params collection) := by
  rw [Node.children, Params.children, Node.value]
  split <;> simp_all [Node.ofChildren, Entries.names]

theorem mem_names_merged (s : Specification) (collection name : String) (order : List String)
    (acc : Entries (String × Node)) :
    name ∈ Entries.names (order.foldl (fun acc c =>
        match s.classNode? c with
        | some n => putAll c acc (n.children collection)
        | none => acc) acc) ↔
      name ∈ Entries.names acc ∨ ∃ c ∈ order, s.Declares collection c name := by
  induction order generalizing acc with
  | nil => simp
  | cons c order ih =>
    rw [List.foldl_cons, ih]
    cases found : Entries.get? s.classes c with
    | none =>
      have declares : ¬ s.Declares collection c name := by simp [Declares, found]
      simp [classNode?, found, declares]
    | some ps =>
      have declares : s.Declares collection c name ↔
          name ∈ Entries.names (Params.children ps collection) := by
        simp [Declares, found]
      simp [classNode?, found, putAll, Entries.mem_names_puts, names_children, declares, or_assoc]

theorem mem_inherited (s : Specification) (collection className name : String) :
    name ∈ (s.inherited (fun n => n.children collection) className).map Inherited.name ↔
      ∃ other, Reaches s.classes className other ∧ s.Declares collection other name := by
  have merged : (s.inherited (fun n => n.children collection) className).map Inherited.name =
      Entries.names ((Lineage.overlayOrder s.classes className).foldl (fun acc c =>
        match s.classNode? c with
        | some n => putAll c acc (n.children collection)
        | none => acc) []) := by
    rw [inherited, List.map_map, Entries.names]
    rfl
  rw [merged, mem_names_merged]
  simp only [Lineage.mem_overlayOrder, Entries.names, List.map_nil, List.not_mem_nil, false_or]
  constructor
  · rintro ⟨other, ⟨-, path⟩, declares⟩
    exact ⟨other, path, declares⟩
  · rintro ⟨other, path, declares⟩
    refine ⟨other, ⟨?_, path⟩, declares⟩
    -- The class is defined, since it either declares the entry or has a base.
    rcases path.cases_head with rfl | ⟨base, isBase, -⟩
    · obtain ⟨ps, found, -⟩ := declares
      rw [Entries.has_eq_isSome, found]
      rfl
    · exact Lineage.defined_of_base s.classes className base isBase

theorem classes_trimmed (s : Specification) : s.trimmed.classes = trimmedChildren s.classes :=
  Params.children_trimmed s.params "classes"

theorem declares_trimmed (s : Specification) (collection className name : String)
    (other : className ≠ defaultsName) :
    s.trimmed.Declares collection className name ↔
      s.Declares collection className name ∧ name ≠ defaultsName := by
  rw [Declares, classes_trimmed, Children.get?_trimmed s.classes className other, Declares]
  cases Entries.get? s.classes className with
  | none => simp
  | some ps => simp [Params.children_trimmed, Children.names_trimmed]

theorem names_definedClasses (s : Specification) :
    s.definedClasses.map Node.name = (Entries.names s.classes).filter (· != defaultsName) := by
  rw [definedClasses, classNodes, classes, Node.children, Params.children, Node.value,
    show s.root.params = s.params from rfl]
  cases Params.value s.params "classes" <;>
    simp [Node.ofChildren, Entries.names, List.filter_map, Function.comp_def]

theorem mem_subclasses (s : Specification) (className other : String) :
    other ∈ s.subclasses className ↔
      other ≠ defaultsName ∧ other ≠ className ∧ Reaches s.classes other className := by
  rw [subclasses, names_definedClasses, List.mem_filter, List.mem_filter, List.contains_iff_mem,
    baseClasses, Lineage.mem_ancestors, bne_iff_ne, ← Entries.has_iff]
  constructor
  · rintro ⟨⟨-, own⟩, different, path⟩
    exact ⟨own, different.symm, path⟩
  · rintro ⟨own, different, path⟩
    refine ⟨⟨?_, own⟩, different.symm, path⟩
    rcases path.cases_head with same | ⟨base, isBase, -⟩
    · exact absurd same different
    · exact Lineage.defined_of_base s.classes other base isBase

theorem subclasses_trimmed_iff (s : Specification) (className : String) :
    s.subclasses className = s.trimmed.subclasses className ↔
      ∀ other ≠ defaultsName, Reaches s.classes other className →
        Avoids s.classes defaultsName other className := by
  constructor
  · intro same other own path
    by_cases different : other = className
    · exact different ▸ .refl
    · have member := (mem_subclasses s className other).2 ⟨own, different, path⟩
      rw [same, mem_subclasses, classes_trimmed] at member
      exact (Lineage.reaches_trimmed s.classes other className own).1 member.2.2
  · intro avoids
    have names : s.trimmed.definedClasses.map Node.name = s.definedClasses.map Node.name := by
      rw [names_definedClasses, classes_trimmed, Children.names_trimmed, List.filter_filter,
        names_definedClasses]
      simp
    rw [subclasses, subclasses, names]
    refine List.filter_congr fun other member => ?_
    have own : other ≠ defaultsName := by
      rw [names_definedClasses] at member
      simpa using (List.mem_filter.1 member).2
    rw [Bool.eq_iff_iff, List.contains_iff_mem, List.contains_iff_mem, baseClasses, baseClasses,
      Lineage.mem_ancestors, Lineage.mem_ancestors, classes_trimmed,
      Lineage.reaches_trimmed s.classes other className own]
    refine and_congr_right fun _ => ⟨avoids other own, ?_⟩
    exact Lineage.reaches_of_avoids s.classes defaultsName other className

section

variable (s : Specification) (name : String) (distinct : name ≠ defaultsName)

include distinct

theorem baseClasses_trimmed (recursive : Bool)
    (never : defaultsName ∉ s.baseClasses recursive name) :
    s.trimmed.baseClasses recursive name = s.baseClasses recursive name := by
  rw [baseClasses, classes_trimmed]
  exact Lineage.ancestors_trimmed s.classes recursive name distinct never

theorem mem_inherited_trimmed (collection entry : String)
    (never : ¬ Reaches s.classes name defaultsName) :
    entry ∈ (s.trimmed.inherited (fun n => n.children collection) name).map Inherited.name ↔
      entry ∈ (s.inherited (fun n => n.children collection) name).map Inherited.name ∧
        entry ≠ defaultsName := by
  rw [mem_inherited, mem_inherited, classes_trimmed]
  constructor
  · rintro ⟨other, path, declares⟩
    have avoids := (Lineage.reaches_trimmed s.classes name other distinct).1 path
    obtain ⟨there, own⟩ := (declares_trimmed s collection other entry
      (Lineage.ne_of_avoids s.classes defaultsName name other distinct avoids)).1 declares
    exact ⟨⟨other, Lineage.reaches_of_avoids s.classes _ name other avoids, there⟩, own⟩
  · rintro ⟨⟨other, path, declares⟩, own⟩
    have avoids := Lineage.avoids_of_not_reaches s.classes _ name other never path
    refine ⟨other, (Lineage.reaches_trimmed s.classes name other distinct).2 avoids, ?_⟩
    exact (declares_trimmed s collection other entry
      (Lineage.ne_of_avoids s.classes defaultsName name other distinct avoids)).2 ⟨declares, own⟩

theorem isA_trimmed (token : String) (never : defaultsName ∉ s.baseClasses true name) :
    s.trimmed.isA name token = s.isA name token := by
  have lines := baseClasses_trimmed s name distinct true never
  have hosts : s.trimmed.hostBases name = s.hostBases name := by
    rw [hostBases, lines, hostBases]
    refine List.flatMap_congr fun other member => ?_
    have own : other ≠ defaultsName := by
      rintro rfl
      exact (List.mem_cons.1 member).elim (distinct ∘ Eq.symm) never
    rw [classNode?, classes_trimmed, Children.get?_trimmed s.classes other own, classNode?]
    cases Entries.get? s.classes other with
    | none => rfl
    | some ps => simp [ModelClass.bases, Params.classRefs_trimmed]
  rw [isA, lines, hosts, isA]

theorem alike_trimmed_iff :
    AnswersAlike s s.trimmed name ↔
      (∀ other, Reaches s.classes name other → other ≠ defaultsName ∧
        ¬ s.Declares "properties" other defaultsName ∧
        ¬ s.Declares "relationships" other defaultsName) ∧
      ∀ other ≠ defaultsName, Reaches s.classes other name →
        Avoids s.classes defaultsName other name := by
  constructor
  · intro alike
    -- An ancestor that holds defaults would be one without such entries too.
    have never : ¬ Reaches s.classes name defaultsName := by
      intro path
      have member := (Lineage.mem_ancestors name defaultsName).2 ⟨distinct.symm, path⟩
      have there : defaultsName ∈ s.trimmed.baseClasses true name := alike.bases true ▸ member
      rw [baseClasses, classes_trimmed] at there
      have avoids := (Lineage.reaches_trimmed s.classes name defaultsName distinct).1
        ((Lineage.mem_ancestors name defaultsName).1 there).2
      exact Lineage.ne_of_avoids s.classes defaultsName name defaultsName distinct avoids rfl
    have nothing (collection : String) (same : ∀ entry,
        entry ∈ (s.inherited (fun n => n.children collection) name).map Inherited.name ↔
          entry ∈ (s.trimmed.inherited (fun n => n.children collection) name).map Inherited.name)
        (other : String) (path : Reaches s.classes name other) :
        ¬ s.Declares collection other defaultsName := by
      intro declares
      have inherits := (mem_inherited s collection name defaultsName).2 ⟨other, path, declares⟩
      exact ((mem_inherited_trimmed s name distinct collection defaultsName never).1
        ((same defaultsName).1 inherits)).2 rfl
    refine ⟨fun other path => ⟨?_, nothing "properties" alike.properties other path,
      nothing "relationships" alike.relationships other path⟩,
      (subclasses_trimmed_iff s name).1 alike.subclasses⟩
    rintro rfl
    exact never path
  · rintro ⟨lineage, below⟩
    have never : ¬ Reaches s.classes name defaultsName := fun path => (lineage _ path).1 rfl
    have absent (recursive : Bool) : defaultsName ∉ s.baseClasses recursive name :=
      fun member => never (Lineage.reaches_of_mem_ancestors recursive name defaultsName member)
    have same (collection : String)
        (nothing : ∀ other, Reaches s.classes name other →
          ¬ s.Declares collection other defaultsName) (entry : String) :
        entry ∈ (s.inherited (fun n => n.children collection) name).map Inherited.name ↔
          entry ∈ (s.trimmed.inherited (fun n => n.children collection) name).map Inherited.name := by
      rw [mem_inherited_trimmed s name distinct collection entry never]
      refine ⟨fun inherits => ⟨inherits, ?_⟩, And.left⟩
      rintro rfl
      obtain ⟨other, path, declares⟩ := (mem_inherited s collection name defaultsName).1 inherits
      exact nothing other path declares
    exact ⟨fun recursive => (baseClasses_trimmed s name distinct recursive (absent recursive)).symm,
      (subclasses_trimmed_iff s name).2 below,
      same "properties" fun other path => (lineage other path).2.1,
      same "relationships" fun other path => (lineage other path).2.2,
      fun token => (isA_trimmed s name distinct token (absent true)).symm⟩

end

/-- A specification built with its defaults kept can be built with them dropped. Both answer alike
about a class exactly if no entry that holds defaults is in its lineage, neither as a class nor as a
property or a relationship, and no class derives from it through such an entry alone. -/
theorem builds_alike_iff (ps : Params) (c after : Context) (kept : Specification)
    (done : (build ps).run { c with keepsDefaults := true } = (.ok kept, after)) :
    ∃ dropped after', (build ps).run { c with keepsDefaults := false } = (.ok dropped, after') ∧
      ∀ name ≠ defaultsName, (AnswersAlike kept dropped name ↔
        (∀ other, Reaches kept.classes name other → other ≠ defaultsName ∧
          ¬ kept.Declares "properties" other defaultsName ∧
          ¬ kept.Declares "relationships" other defaultsName) ∧
        ∀ other ≠ defaultsName, Reaches kept.classes other name →
          Avoids kept.classes defaultsName other name) := by
  obtain ⟨after', dropped⟩ := builds_trimmed ps c after kept done
  exact ⟨kept.trimmed, after', dropped, fun name distinct => kept.alike_trimmed_iff name distinct⟩

def stall : Params :=
  [("name", .str "Stall"),
    ("classes", .specs .modelClass
      [("DEFAULTS", [("label_width", .int 90)]),
      ("Shelf", [("base", .classRefs [.own "DEFAULTS"])]),
      ("Item", [("properties", .specs .classProperty
        [("DEFAULTS", [("display", .bool false)]), ("size", [])])]),
      ("Box", [("base", .classRefs [.own "Item"])])])]

theorem builds_alike_iff_stall :
    let c : Context := .start (.empty .strict) "stall.yaml" true
    ∃ kept after dropped after',
      (build stall).run { c with keepsDefaults := true } = (.ok kept, after) ∧
      (build stall).run { c with keepsDefaults := false } = (.ok dropped, after') ∧
      ∀ name ≠ defaultsName, (AnswersAlike kept dropped name ↔
        (∀ other, Reaches kept.classes name other → other ≠ defaultsName ∧
          ¬ kept.Declares "properties" other defaultsName ∧
          ¬ kept.Declares "relationships" other defaultsName) ∧
        ∀ other ≠ defaultsName, Reaches kept.classes other name →
          Avoids kept.classes defaultsName other name) := by
  intro c
  obtain ⟨kept, after, ran, -⟩ := Build.ok_of_shown (b := build stall)
    (c := { c with keepsDefaults := true }) (fun s => s.links.size) 0 (by decide +kernel)
  obtain ⟨dropped, after', ran', alike⟩ := builds_alike_iff stall c after kept ran
  exact ⟨kept, after, dropped, after', ran, ran', alike⟩

/-- With its defaults kept the stall has a shelf whose base is an entry of defaults, and a box that
inherits one more property than with them dropped. -/
theorem stall_not_alike :
    let c : Context := .start (.empty .strict) "stall.yaml" true
    ∃ kept after dropped after',
      (build stall).run { c with keepsDefaults := true } = (.ok kept, after) ∧
      (build stall).run { c with keepsDefaults := false } = (.ok dropped, after') ∧
      ¬ AnswersAlike kept dropped "Shelf" ∧ ¬ AnswersAlike kept dropped "Box" := by
  intro c
  obtain ⟨kept, after, ran, keeps⟩ := Build.ok_of_shown (b := build stall)
    (c := { c with keepsDefaults := true })
    (fun s => (s.isA "Shelf" "DEFAULTS", (s.inheritedProperties "Box").map Inherited.name))
    (true, ["DEFAULTS", "size"]) (by decide +kernel)
  obtain ⟨dropped, after', ran', drops⟩ := Build.ok_of_shown (b := build stall)
    (c := { c with keepsDefaults := false })
    (fun s => (s.isA "Shelf" "DEFAULTS", (s.inheritedProperties "Box").map Inherited.name))
    (false, ["size"]) (by decide +kernel)
  obtain ⟨shelfKept, boxKept⟩ := Prod.mk.inj keeps
  obtain ⟨shelfDropped, boxDropped⟩ := Prod.mk.inj drops
  refine ⟨kept, after, dropped, after', ran, ran', fun alike => ?_, fun alike => ?_⟩
  · have same := alike.isA "DEFAULTS"
    rw [shelfKept, shelfDropped] at same
    exact absurd same (by decide)
  · have same := alike.properties "DEFAULTS"
    rw [boxKept, boxDropped] at same
    exact absurd (same.1 (by simp)) (by decide)

end Specification

end PackSpec
