import PackSpec.Proofs.Specification.Added

set_option autoImplicit false

namespace PackSpec

namespace Links

section

variable (classes : Children)

def strayAt (c : Context) (v : View) : Diagnostic :=
  ⟨.warning, c.diagnostics.locate c.location, undefinedClass v⟩

def straysFrom (ns : String) (c : Context) (i : Nat) (schemas : List Schema) : List Diagnostic :=
  (schemas.zipIdx i).flatMap fun e =>
    (strays ns classes e.1.views).map (strayAt (c.enter (toString e.2)))

variable (ns : String)

theorem run_link (t : Links) (v : View) (c : Context)
    (fresh : (t.keys ++ taken ns classes [v]).Nodup) :
    (link ns classes t v).run c =
      (.ok (add ns classes t v), c.record ((strays ns classes [v]).map (strayAt c))) := by
  unfold link add strays
  unfold taken taken? at fresh
  rw [List.filter_cons, List.filter_nil]
  cases there : place ns classes v with
  | «class» name =>
    rw [List.filterMap_cons, there] at fresh
    have absent : t.has name v.relationName = false := by
      rw [Bool.eq_false_iff, ne_eq, has_iff]
      intro member
      exact (List.nodup_append.1 fresh).2.2 _ member _ (by simp) rfl
    simp [absent, Build.run_pure, Context.record_nil]
  | host => simp [Build.run_pure, Context.record_nil]
  | nowhere =>
    dsimp only
    rw [Build.run_bind, Build.run_warn_record]
    rfl

theorem run_linkViews (t : Links) (views : List View) (c : Context)
    (fresh : (t.keys ++ taken ns classes views).Nodup) :
    (linkViews ns classes t views).run c =
      (.ok (addAll ns classes t views), c.record ((strays ns classes views).map (strayAt c))) := by
  induction views generalizing t c with
  | nil => exact (Build.run_pure t c).trans (by rw [strays, List.filter_nil, List.map_nil, c.record_nil]; rfl)
  | cons v views ih =>
    rw [← List.singleton_append, taken_append, ← List.append_assoc] at fresh
    have first := run_link classes ns t v c (List.nodup_append.1 fresh).1
    have keys_ : (add ns classes t v).keys = t.keys ++ taken ns classes [v] :=
      keys_addAll ns classes t [v]
    have rest := ih (add ns classes t v) (c.record ((strays ns classes [v]).map (strayAt c)))
      (keys_ ▸ fresh)
    unfold linkViews
    rw [Build.run_bind, first]
    refine rest.trans ?_
    -- What has been recorded does not change where the later views are.
    have same : strayAt (c.record ((strays ns classes [v]).map (strayAt c))) = strayAt c := rfl
    rw [same, Context.record_record, ← List.map_append, strays, strays, ← List.filter_append,
      List.singleton_append]
    rfl

theorem run_linkSchemas (t : Links) (i : Nat) (schemas : List Schema) (c : Context)
    (fresh : (t.keys ++ taken ns classes (schemas.flatMap Schema.views)).Nodup) :
    (linkSchemas ns classes t i schemas).run c =
      (.ok (addAll ns classes t (schemas.flatMap Schema.views)),
        c.record (straysFrom classes ns c i schemas)) := by
  induction schemas generalizing t i c with
  | nil => exact (Build.run_pure t c).trans (by rw [straysFrom]; simp [Context.record_nil, addAll])
  | cons s schemas ih =>
    rw [List.flatMap_cons, taken_append, ← List.append_assoc] at fresh
    have first := run_linkViews classes ns t s.views (c.enter (toString i))
      (List.nodup_append.1 fresh).1
    let warned := (strays ns classes s.views).map (strayAt (c.enter (toString i)))
    have rest := ih (addAll ns classes t s.views) (i + 1) (c.record warned)
      (keys_addAll ns classes t s.views ▸ fresh)
    unfold linkSchemas
    rw [Build.run_bind, Build.run_within, first]
    dsimp only
    rw [Context.leave_record_enter, rest, Context.record_record, List.flatMap_cons, addAll_append]
    rfl

theorem linkSchemas_stops (t : Links) (i : Nat) (schemas : List Schema) (c : Context)
    (distinct : t.keys.Nodup)
    (clash : ¬ (t.keys ++ taken ns classes (schemas.flatMap Schema.views)).Nodup) :
    ∃ j < schemas.length, ∃ d, ((linkSchemas ns classes t i schemas).run c).1 = .error d ∧
      (t.keys ++ taken ns classes ((schemas.take j).flatMap Schema.views)).Nodup ∧
      Ending (· = c.location.path ++ [toString (i + j)])
        (t.keys ++ taken ns classes ((schemas.take (j + 1)).flatMap Schema.views)) (.error d) := by
  induction schemas generalizing t i c with
  | nil => exact absurd (by simpa [taken] using distinct) clash
  | cons s schemas ih =>
    -- The sides of this schema are free, and a later one stops the run; or it is this one.
    rw [List.flatMap_cons, taken_append, ← List.append_assoc] at clash
    unfold linkSchemas
    rw [Build.run_bind, Build.run_within]
    by_cases fresh : (t.keys ++ taken ns classes s.views).Nodup
    · let warned := (strays ns classes s.views).map (strayAt (c.enter (toString i)))
      have keys_ := keys_addAll ns classes t s.views
      obtain ⟨j, within_, d, ran, before, ends⟩ := ih (addAll ns classes t s.views) (i + 1)
        (c.record warned) (keys_ ▸ fresh) (keys_ ▸ clash)
      refine ⟨j + 1, by simpa using within_, d, ?_, ?_, ?_⟩
      · rw [run_linkViews classes ns t s.views _ fresh]
        dsimp only
        rw [Context.leave_record_enter]
        exact ran
      · rw [List.take_succ_cons, List.flatMap_cons, taken_append, ← List.append_assoc, ← keys_]
        exact before
      · rw [List.take_succ_cons, List.flatMap_cons, taken_append, ← List.append_assoc, ← keys_,
          show i + (j + 1) = i + 1 + j by omega]
        exact ends
    · have ended := ending_linkViews ns classes t s.views (c.enter (toString i)) distinct
      generalize (linkViews ns classes t s.views).run (c.enter (toString i)) = ran at ended ⊢
      rcases ran with ⟨d | u, after⟩
      · exact ⟨0, by simp, d, rfl, by simpa [taken] using distinct,
          by simpa [Context.enter] using ended⟩
      · exact absurd (ended.1 ▸ ended.2) fresh

end

section

variable (t : Links) (classes : Children)

def warning (c : Context) (e : Problem) : Diagnostic :=
  ⟨.warning, c.diagnostics.locate c.location, e⟩

theorem run_warnAll (es : List Problem) (c : Context) :
    (warnAll es).run c = (.ok (), c.record (es.map (warning c))) := by
  induction es generalizing c with
  | nil => rw [List.map_nil, c.record_nil]; rfl
  | cons e es ih =>
    rw [warnAll, Build.run_bind, Build.run_warn_record]
    dsimp only
    rw [ih, c.record_record]
    rfl

theorem run_warnEach (error : String → Problem) (names : List String) (c : Context) :
    (warnEach error names).run c =
      (.ok (), c.record (names.map fun name => warning (c.enter name) (error name))) := by
  induction names generalizing c with
  | nil => rw [List.map_nil, c.record_nil]; rfl
  | cons name names ih =>
    rw [warnEach, Build.run_bind, Build.run_within, Build.run_warn_record]
    dsimp only
    rw [c.leave_record_enter, ih, c.record_record]
    rfl

def warningsOf (c : Context) (name : String) (ps : Params) : List Diagnostic :=
  ((undefinedBases classes name).map (undefinedBase name)).map (warning (c.enter name)) ++
    (undeclaredNames t classes name ps).map fun r =>
      warning (((c.enter name).enter "relationships").enter r) (undeclared name r)

theorem run_checkClass (name : String) (ps : Params) (c : Context) :
    (checkClass t classes name ps).run c = (.ok (), c.record (warningsOf t classes c name ps)) := by
  rw [checkClass, Build.run_within, Build.run_bind, run_warnAll]
  dsimp only
  rw [Build.run_within, run_warnEach]
  dsimp only
  rw [Context.leave_record_enter, Context.record_record, c.leave_record_enter]
  rfl

theorem run_warnOfClasses (cs : Children) (c : Context) :
    (warnOfClasses t classes cs).run c =
      (.ok (), c.record ((cs.filter fun e => e.1 != defaultsName).flatMap fun e =>
        warningsOf t classes c e.1 e.2)) := by
  induction cs generalizing c with
  | nil => rw [List.filter_nil, List.flatMap_nil, c.record_nil]; rfl
  | cons e cs ih =>
    obtain ⟨name, ps⟩ := e
    unfold warnOfClasses
    by_cases other : (name != defaultsName) = true
    · simp only [other, if_true]
      rw [Build.run_bind, run_checkClass]
      dsimp only
      rw [ih, c.record_record]
      simp only [List.filter_cons, other, if_true]
      rfl
    · simp only [other, Bool.false_eq_true, if_false]
      rw [ih]
      simp only [List.filter_cons, other, Bool.false_eq_true, if_false]

theorem run_build (schemas : List Schema) (c : Context)
    (fresh : (taken c.ns classes (schemas.flatMap Schema.views)).Nodup) :
    let t := addAll c.ns classes empty (schemas.flatMap Schema.views)
    (build classes schemas).run c =
      (.ok t, c.record (straysFrom classes c.ns (c.enter "class_relationships") 0 schemas ++
        (classes.filter fun e => e.1 != defaultsName).flatMap fun e =>
          warningsOf t classes (c.enter "classes") e.1 e.2)) := by
  rw [build_asking, Build.run_asking, Build.run_bind, Build.run_within,
    run_linkSchemas classes c.ns empty 0 schemas (c.enter "class_relationships") fresh]
  dsimp only
  rw [Context.leave_record_enter, Build.run_bind, Build.run_within, run_warnOfClasses]
  dsimp only
  rw [Context.leave_record_enter, Context.record_record]
  rfl

theorem fresh_of_build (schemas : List Schema) (c after : Context)
    (done : (build classes schemas).run c = (.ok t, after)) :
    (taken c.ns classes (schemas.flatMap Schema.views)).Nodup := by
  have ended := ending_build classes schemas c
  rw [done] at ended
  exact ended.2

end

def isStrayWarning (d : Diagnostic) : Bool :=
  d.isWarning && match d.error with
    | .unresolved subject _ _ => subject == "RelationshipSchemaSpec"
    | _ => false

theorem records_warnOfClasses (classes : Children) (t : Links) (cs : Children) :
    Build.Records (fun d => isStrayWarning d = false) (warnOfClasses t classes cs) := by
  refine fun c => ⟨_, run_warnOfClasses t classes cs c, fun d member => ?_⟩
  obtain ⟨e, _, inside⟩ := List.mem_flatMap.1 member
  rcases List.mem_append.1 inside with base | relationship
  · obtain ⟨_, named, rfl⟩ := List.mem_map.1 base
    obtain ⟨base, _, rfl⟩ := List.mem_map.1 named
    have other : (Kind.modelClass.title == "RelationshipSchemaSpec") = false := by decide
    simp [isStrayWarning, warning, undefinedBase, other]
  · obtain ⟨r, _, rfl⟩ := List.mem_map.1 relationship
    have other : (Kind.classRelationship.title == "RelationshipSchemaSpec") = false := by decide
    simp [isStrayWarning, warning, undeclared, other]

theorem isStrayWarning_strayAt (c : Context) (v : View) : isStrayWarning (strayAt c v) = true := rfl

theorem filter_straysFrom (classes : Children) (ns : String) (c : Context) (i : Nat)
    (schemas : List Schema) :
    (straysFrom classes ns c i schemas).filter isStrayWarning =
      straysFrom classes ns c i schemas := by
  rw [List.filter_eq_self]
  intro d member
  obtain ⟨e, _, inside⟩ := List.mem_flatMap.1 member
  obtain ⟨v, _, rfl⟩ := List.mem_map.1 inside
  exact isStrayWarning_strayAt _ v

theorem length_straysFrom (classes : Children) (ns : String) (c : Context) (i : Nat)
    (schemas : List Schema) :
    (straysFrom classes ns c i schemas).length =
      (strays ns classes (schemas.flatMap Schema.views)).length := by
  induction schemas generalizing i with
  | nil => rfl
  | cons s schemas ih =>
    have step := ih (i + 1)
    unfold straysFrom strays at step ⊢
    rw [List.zipIdx_cons, List.flatMap_cons, List.flatMap_cons, List.filter_append,
      List.length_append, List.length_append, List.length_map, step]

end Links

end PackSpec
