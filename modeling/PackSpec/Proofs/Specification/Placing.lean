import PackSpec.Proofs.Specification.Warned

set_option autoImplicit false

namespace PackSpec

namespace Links

theorem length_views (schemas : List Schema) :
    (schemas.flatMap Schema.views).length = 2 * schemas.length := by
  induction schemas with
  | nil => rfl
  | cons s schemas ih =>
    rw [List.flatMap_cons, List.length_append, ih]
    simp [Schema.views]
    omega

theorem opposite_mem (schemas : List Schema) (v : View)
    (member : v ∈ schemas.flatMap Schema.views) : v.opposite ∈ schemas.flatMap Schema.views := by
  obtain ⟨s, there, side⟩ := List.mem_flatMap.1 member
  refine List.mem_flatMap.2 ⟨s, there, ?_⟩
  simp only [Schema.views, List.mem_cons, List.not_mem_nil, or_false] at side ⊢
  rcases side with rfl | rfl
  · exact .inr s.opposite_leftView
  · exact .inl s.opposite_rightView

section

variable (ns : String) (classes : Children)

/-- Two sides, of one schema or of two, are of the same class and have the same relation name. -/
def Clash (schemas : List Schema) (name relationName : String) : Prop :=
  ∃ v w, [v, w].Sublist (schemas.flatMap Schema.views) ∧
    localClass? ns classes v.className = some name ∧
    localClass? ns classes w.className = some name ∧
    v.relationName = relationName ∧ w.relationName = relationName

theorem taken?_iff (v : View) (name relationName : String) :
    taken? ns classes v = some (name, relationName) ↔
      localClass? ns classes v.className = some name ∧ v.relationName = relationName := by
  rw [← place_class_iff]
  unfold taken?
  cases place ns classes v with
  | «class» other => simp
  | host | nowhere => simp

theorem clash_iff (schemas : List Schema) (name relationName : String) :
    Clash ns classes schemas name relationName ↔
      (taken ns classes (schemas.flatMap Schema.views)).Duplicate (name, relationName) := by
  rw [List.duplicate_iff_sublist, taken, List.sublist_filterMap_iff]
  constructor
  · rintro ⟨v, w, sub, first, second, rfl, same⟩
    refine ⟨[v, w], sub, ?_⟩
    rw [List.filterMap_cons, (taken?_iff ns classes v name _).2 ⟨first, rfl⟩, List.filterMap_cons,
      (taken?_iff ns classes w name _).2 ⟨second, same⟩]
    rfl
  · rintro ⟨views, sub, same⟩
    obtain ⟨skipped, v, rest, rfl, _, first, later⟩ := List.filterMap_eq_cons_iff.1 same.symm
    obtain ⟨skipped_, w, rest_, rfl, _, second, _⟩ := List.filterMap_eq_cons_iff.1 later
    rw [taken?_iff] at first second
    refine ⟨v, w, List.Sublist.trans ?_ sub, first.1, second.1, first.2, second.2⟩
    exact ((List.singleton_sublist.2 (by simp)).cons_cons v).trans (List.sublist_append_right _ _)

theorem nodup_iff (schemas : List Schema) :
    (taken ns classes (schemas.flatMap Schema.views)).Nodup ↔
      ∀ name relationName, ¬ Clash ns classes schemas name relationName := by
  rw [List.nodup_iff_forall_not_duplicate]
  constructor
  · exact fun none_ name relationName clash =>
      none_ _ ((clash_iff ns classes schemas name relationName).1 clash)
  · exact fun none_ key twice =>
      none_ key.1 key.2 ((clash_iff ns classes schemas key.1 key.2).2 twice)

end

/-- The first schema with a side that clashes with an earlier one is named by its number. -/
structure StoppedAt (c : Context) (classes : Children) (schemas : List Schema) (i : Nat)
    (d : Diagnostic) : Prop where
  inside : i < schemas.length
  before : ∀ name relationName, ¬ Clash c.ns classes (schemas.take i) name relationName
  here : ∃ name relationName, Clash c.ns classes (schemas.take (i + 1)) name relationName ∧
    d.error = repeated name relationName
  level : d.level = .error
  path : d.location.path = c.location.path ++ ["class_relationships", toString i]

/-- Where the sides of the schemas are once they are linked and `ds` has been recorded. -/
structure Placed (c : Context) (classes : Children) (schemas : List Schema) (t : Links)
    (ds : List Diagnostic) : Prop where
  linked : t.linked = (schemas.flatMap Schema.views).filterMap (link? c.ns classes)
  host : ∀ name, (Entries.get? t.host name).getD [] =
    (hostSides c.ns classes (schemas.flatMap Schema.views)).filter fun v => v.className = name
  warned : ds.filter isStrayWarning =
    straysFrom classes c.ns (c.enter "class_relationships") 0 schemas
  total : t.size + hostSize t.host + (ds.filter isStrayWarning).length = 2 * schemas.length
  found : ∀ name relationName v, t.get? name relationName = some v ↔
    v ∈ schemas.flatMap Schema.views ∧ localClass? c.ns classes v.className = some name ∧
      v.relationName = relationName
  mirrored : ∀ l ∈ t.linked, ∀ name, localClass? c.ns classes l.view.remoteClass = some name →
    t.get? name l.view.remoteName = some l.view.opposite

theorem placed_addAll (c : Context) (classes : Children) (schemas : List Schema)
    (ds : List Diagnostic)
    (fresh : (taken c.ns classes (schemas.flatMap Schema.views)).Nodup)
    (warned : ds.filter isStrayWarning =
      straysFrom classes c.ns (c.enter "class_relationships") 0 schemas) :
    Placed c classes schemas (addAll c.ns classes empty (schemas.flatMap Schema.views)) ds := by
  generalize sides_ : schemas.flatMap Schema.views = sides at fresh
  have linked : (addAll c.ns classes empty sides).linked = sides.filterMap (link? c.ns classes) :=
    linked_addAll c.ns classes empty sides
  have distinct : (addAll c.ns classes empty sides).keys.Nodup := by
    rw [keys_addAll]
    exact fresh
  have found (name relationName : String) (v : View) :
      (addAll c.ns classes empty sides).get? name relationName = some v ↔
        v ∈ sides ∧ localClass? c.ns classes v.className = some name ∧
          v.relationName = relationName := by
    rw [get?_iff _ distinct, linked, List.mem_filterMap]
    constructor
    · rintro ⟨w, member, same⟩
      obtain ⟨name_, here, same⟩ := Option.map_eq_some_iff.1 same
      obtain ⟨rfl, rfl, rfl⟩ := Link.mk.inj same
      exact ⟨member, here, rfl⟩
    · rintro ⟨member, here, rfl⟩
      exact ⟨v, member, by rw [link?, here]; rfl⟩
  subst sides_
  refine ⟨linked, get?_addAll_host c.ns classes empty _, warned, ?_, found, ?_⟩
  · have all := length_places c.ns classes (schemas.flatMap Schema.views)
    have kept := hostSize_addAll c.ns classes empty List.nodup_nil (schemas.flatMap Schema.views)
    have none_ : hostSize empty.host = 0 := rfl
    rw [warned, length_straysFrom, size, linked, ← length_views]
    omega
  · intro l member name remote
    rw [linked, List.mem_filterMap] at member
    obtain ⟨v, side, same⟩ := member
    obtain ⟨_, _, rfl⟩ := Option.map_eq_some_iff.1 same
    exact (found name v.remoteName v.opposite).2 ⟨opposite_mem schemas v side, remote, rfl⟩

/-- Linking fails exactly where two sides clash, and then at the first schema that does; else every
side is in exactly one place, and each linked side finds its other side. -/
theorem places_every_side (classes : Children) (schemas : List Schema) (c : Context) :
    ((∃ d, ((build classes schemas).run c).1 = .error d) ↔
      ∃ name relationName, Clash c.ns classes schemas name relationName) ∧
    match (build classes schemas).run c with
    | (.error d, _) => ∃ i, StoppedAt c classes schemas i d
    | (.ok t, after) => ∃ ds, after = c.record ds ∧ Placed c classes schemas t ds := by
  rw [build_asking, Build.run_asking, Build.run_bind, Build.run_within]
  by_cases fresh : (taken c.ns classes (schemas.flatMap Schema.views)).Nodup
  · -- The sides are linked with a warning for each stray; the warnings about classes come after.
    rw [run_linkSchemas classes c.ns empty 0 schemas (c.enter "class_relationships") fresh]
    dsimp only
    rw [Context.leave_record_enter]
    let t := addAll c.ns classes empty (schemas.flatMap Schema.views)
    let sideWarnings := straysFrom classes c.ns (c.enter "class_relationships") 0 schemas
    obtain ⟨ds, ran, others⟩ := Build.records_within "classes"
      (records_warnOfClasses classes t classes) (c.record sideWarnings)
    rw [Build.run_bind, ran]
    have clear := (nodup_iff c.ns classes schemas).1 fresh
    refine ⟨⟨?_, ?_⟩, sideWarnings ++ ds, Context.record_record c _ _, ?_⟩
    · rintro ⟨d, failed⟩
      cases failed
    · rintro ⟨name, relationName, clash⟩
      exact absurd clash (clear name relationName)
    · refine placed_addAll c classes schemas _ fresh ?_
      have none_ : ds.filter isStrayWarning = [] := by
        rw [List.filter_eq_nil_iff]
        exact fun d member => by simp [others d member]
      rw [List.filter_append, none_, List.append_nil]
      exact filter_straysFrom _ _ _ _ _
  · obtain ⟨i, inside, d, ran, before, key⟩ := linkSchemas_stops classes c.ns empty 0 schemas
      (c.enter "class_relationships") List.nodup_nil fresh
    obtain ⟨name, relationName, twice, level, error, path⟩ := key
    generalize (linkSchemas c.ns classes empty 0 schemas).run (c.enter "class_relationships") =
      result at ran ⊢
    obtain ⟨_, after⟩ := result
    dsimp only at ran
    subst ran
    refine ⟨⟨fun _ => ?_, fun _ => ⟨d, rfl⟩⟩, i, inside, (nodup_iff _ _ _).1 before,
      ⟨name, relationName, (clash_iff _ _ _ _ _).2 twice, error⟩, level, ?_⟩
    · by_contra none_
      exact fresh ((nodup_iff c.ns classes schemas).2 fun name relationName clash =>
        none_ ⟨name, relationName, clash⟩)
    · rw [path]
      simp [Context.enter]

end Links

end PackSpec
