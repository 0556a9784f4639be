import PackSpec.Proofs.Specification.Linking

set_option autoImplicit false

namespace PackSpec

namespace Links

section

variable (ns : String) (classes : Children)

theorem place_class_iff (v : View) (name : String) :
    place ns classes v = .class name ↔ localClass? ns classes v.className = some name := by
  unfold place
  cases localClass? ns classes v.className with
  | some other => simp
  | none => cases (ClassRef.ofToken v.className).isOwn <;> simp

def add (t : Links) (v : View) : Links :=
  match place ns classes v with
  | .class name => { t with linked := t.linked ++ [⟨name, v.relationName, v⟩] }
  | .host => { t with host := putHost t.host v }
  | .nowhere => t

def addAll (t : Links) (views : List View) : Links := views.foldl (add ns classes) t

theorem addAll_append (t : Links) (vs ws : List View) :
    addAll ns classes t (vs ++ ws) = addAll ns classes (addAll ns classes t vs) ws :=
  List.foldl_append

def link? (v : View) : Option Link :=
  (localClass? ns classes v.className).map fun name => ⟨name, v.relationName, v⟩

def hostSides (views : List View) : List View :=
  views.filter fun v => place ns classes v = .host

def strays (views : List View) : List View :=
  views.filter fun v => place ns classes v = .nowhere

theorem linked_add (t : Links) (v : View) :
    (add ns classes t v).linked = t.linked ++ [v].filterMap (link? ns classes) := by
  unfold add place link?
  rw [List.filterMap_cons]
  cases localClass? ns classes v.className with
  | some name => rfl
  | none => cases (ClassRef.ofToken v.className).isOwn <;> simp

theorem linked_addAll (t : Links) (views : List View) :
    (addAll ns classes t views).linked = t.linked ++ views.filterMap (link? ns classes) := by
  induction views generalizing t with
  | nil => simp [addAll]
  | cons v views ih =>
    have rest : addAll ns classes t (v :: views) = addAll ns classes (add ns classes t v) views := rfl
    rw [rest, ih, linked_add, List.append_assoc, ← List.filterMap_append, List.singleton_append]

theorem keys_addAll (t : Links) (views : List View) :
    (addAll ns classes t views).keys = t.keys ++ taken ns classes views := by
  have key (v : View) : (link? ns classes v).map (fun l => (l.className, l.relationName)) =
      taken? ns classes v := by
    unfold link? taken? place
    cases localClass? ns classes v.className with
    | some name => rfl
    | none => cases (ClassRef.ofToken v.className).isOwn <;> rfl
  rw [keys, linked_addAll, List.map_append, List.map_filterMap, taken, keys]
  simp only [key]

theorem get?_iff (t : Links) (distinct : t.keys.Nodup) (name relationName : String) (v : View) :
    t.get? name relationName = some v ↔ ⟨name, relationName, v⟩ ∈ t.linked := by
  unfold get?
  rw [Option.map_eq_some_iff]
  constructor
  · rintro ⟨l, found, rfl⟩
    have here := List.find?_some found
    simp only [Bool.and_eq_true, beq_iff_eq] at here
    obtain ⟨rfl, rfl⟩ := here
    exact List.mem_of_find?_eq_some found
  · intro member
    have some_ : (t.linked.find? fun l => l.className == name && l.relationName == relationName).isSome
        = true := by
      rw [List.find?_isSome]
      exact ⟨_, member, by simp⟩
    obtain ⟨l, found⟩ := Option.isSome_iff_exists.1 some_
    have here := List.find?_some found
    simp only [Bool.and_eq_true, beq_iff_eq] at here
    have same : l = ⟨name, relationName, v⟩ :=
      List.inj_on_of_nodup_map distinct (List.mem_of_find?_eq_some found) member
        (Prod.ext here.1 here.2)
    exact ⟨l, found, by rw [same]⟩

theorem distinct_add (t : Links) (v : View) (distinct : Entries.Distinct t.host) :
    Entries.Distinct (add ns classes t v).host := by
  unfold add
  cases place ns classes v with
  | host => exact Entries.distinct_put _ _ _ distinct
  | «class» _ | nowhere => exact distinct

theorem get?_putHost (host : Entries (List View)) (v : View) (name : String) :
    (Entries.get? (putHost host v) name).getD [] =
      (Entries.get? host name).getD [] ++ [v].filter fun v => v.className = name := by
  rw [putHost, Entries.get?_put]
  by_cases same : name = v.className
  · simp [same]
  · simp [same, Ne.symm same]

theorem get?_add_host (t : Links) (v : View) (name : String) :
    (Entries.get? (add ns classes t v).host name).getD [] =
      (Entries.get? t.host name).getD [] ++
        (hostSides ns classes [v]).filter fun v => v.className = name := by
  unfold add hostSides
  rw [List.filter_cons, List.filter_nil]
  cases place ns classes v with
  | host => exact get?_putHost t.host v name
  | «class» _ | nowhere => simp

theorem get?_addAll_host (t : Links) (views : List View) (name : String) :
    (Entries.get? (addAll ns classes t views).host name).getD [] =
      (Entries.get? t.host name).getD [] ++
        (hostSides ns classes views).filter fun v => v.className = name := by
  induction views generalizing t with
  | nil => simp [addAll, hostSides]
  | cons v views ih =>
    have rest : addAll ns classes t (v :: views) = addAll ns classes (add ns classes t v) views := rfl
    rw [rest, ih, get?_add_host, List.append_assoc, ← List.filter_append, hostSides, hostSides,
      ← List.filter_append, List.singleton_append, hostSides]

def hostSize (host : Entries (List View)) : Nat := (host.flatMap Prod.snd).length

theorem hostSize_replace (host : Entries (List View)) (distinct : Entries.Distinct host)
    (name : String) (old new : List View) (there : Entries.get? host name = some old) :
    hostSize (host.map fun e => if e.1 == name then (e.1, new) else e) + old.length =
      hostSize host + new.length := by
  induction host with
  | nil => simp [Entries.get?] at there
  | cons e host ih =>
    obtain ⟨fresh, distinct⟩ := List.nodup_cons.1 distinct
    rw [Entries.get?_cons] at there
    by_cases first : name = e.1
    · -- The rest has no entry of that name, so it stays as it is.
      rw [if_pos first] at there
      obtain rfl := Option.some.inj there
      have rest : (host.map fun d => if d.1 == name then (d.1, new) else d) = host := by
        refine (List.map_congr_left fun d member => ?_).trans (List.map_id host)
        have other : d.1 ≠ name := fun same =>
          fresh (first ▸ same ▸ List.mem_map_of_mem member)
        simp [other]
      rw [List.map_cons, rest, first]
      simp [hostSize]
      omega
    · rw [if_neg first] at there
      have step := ih distinct there
      simp only [hostSize, List.map_cons, List.flatMap_cons, List.length_append, beq_iff_eq,
        Ne.symm first, if_false] at step ⊢
      omega

theorem hostSize_putHost (host : Entries (List View)) (distinct : Entries.Distinct host) (v : View) :
    hostSize (putHost host v) = hostSize host + 1 := by
  rw [putHost, Entries.put, Entries.has_eq_isSome]
  cases there : Entries.get? host v.className with
  | some old =>
    have replaced := hostSize_replace host distinct v.className old (old ++ [v]) there
    rw [List.length_append, List.length_singleton] at replaced
    simp only [Option.isSome_some, if_true, Option.getD_some]
    omega
  | none => simp [hostSize]

theorem hostSize_addAll (t : Links) (distinct : Entries.Distinct t.host) (views : List View) :
    hostSize (addAll ns classes t views).host =
      hostSize t.host + (hostSides ns classes views).length := by
  induction views generalizing t with
  | nil => simp [addAll, hostSides]
  | cons v views ih =>
    have rest : addAll ns classes t (v :: views) = addAll ns classes (add ns classes t v) views := rfl
    rw [rest, ih _ (distinct_add ns classes t v distinct), hostSides, hostSides, List.filter_cons]
    unfold add
    cases place ns classes v with
    | host =>
      rw [hostSize_putHost t.host distinct v]
      simp
      omega
    | «class» _ | nowhere => simp

theorem length_places (views : List View) :
    (views.filterMap (link? ns classes)).length + (hostSides ns classes views).length +
      (strays ns classes views).length = views.length := by
  induction views with
  | nil => rfl
  | cons v views ih =>
    unfold hostSides strays link? at ih ⊢
    rw [List.filterMap_cons, List.filter_cons, List.filter_cons]
    cases there : place ns classes v with
    | «class» name =>
      rw [(place_class_iff ns classes v name).1 there]
      simp
      omega
    | host | nowhere =>
      -- Only a class takes a link, and the host and nowhere are for views without one.
      have unlinked : localClass? ns classes v.className = none := by
        cases found : localClass? ns classes v.className with
        | none => rfl
        | some name => simp [(place_class_iff ns classes v name).2 found] at there
      rw [unlinked]
      simp
      omega

end

end Links

end PackSpec
