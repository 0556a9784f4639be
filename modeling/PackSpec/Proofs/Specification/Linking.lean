import Mathlib.Data.List.Duplicate
import PackSpec.Proofs.Build.Invariant
import PackSpec.Proofs.Build.Recorded
import PackSpec.Proofs.Document.Composed

set_option autoImplicit false

namespace PackSpec

def Decl.schema? (ns : String) (d : Decl) : Option Schema := (d.resolve ns).toOption

theorem Decl.resolve_ok (ns : String) (d : Decl) :
    (∃ s, d.resolve ns = .ok s) ↔ d.isOriented = true := by
  unfold Decl.resolve Schema.resolve Decl.isOriented
  split
  · next permitted => simp [permitted]
  · next refused => simp [refused]

namespace Specification

def schemasOf (ns : String) (ds : List Decl) : List Schema := ds.filterMap (Decl.schema? ns)

theorem run_resolveAll (ns : String) (i : Nat) (ds : List Decl) (c : Context)
    (oriented : ∀ d ∈ ds, d.isOriented = true) :
    (resolveAll ns i ds).run c = (.ok (schemasOf ns ds), c) := by
  induction ds generalizing i with
  | nil => rfl
  | cons d ds ih =>
    obtain ⟨s, resolved⟩ := (Decl.resolve_ok ns d).2 (oriented d (by simp))
    have here : d.schema? ns = some s := by rw [Decl.schema?, resolved]; rfl
    have rest := ih (i + 1) fun e member => oriented e (by simp [member])
    unfold resolveAll
    simp only [resolved, schemasOf, List.filterMap_cons, here]
    rw [Build.run_bind, Build.run_pure]
    dsimp only
    rw [Build.run_bind, rest]
    rfl

theorem resolveAll_ok (ns : String) (i : Nat) (ds : List Decl) (c after : Context)
    (schemas : List Schema) (done : (resolveAll ns i ds).run c = (.ok schemas, after)) :
    ∀ d ∈ ds, d.isOriented = true := by
  -- The first declaration that does not resolve would have ended the run.
  induction ds generalizing i c schemas with
  | nil => simp
  | cons d ds ih =>
    unfold resolveAll at done
    cases resolved : d.resolve ns with
    | error e =>
      simp only [resolved] at done
      rw [Build.run_bind, Build.run_within, Build.run_abort] at done
      simp at done
    | ok s =>
      simp only [resolved] at done
      rw [Build.run_bind, Build.run_pure] at done
      dsimp only at done
      rw [Build.run_bind] at done
      generalize ran : (resolveAll ns (i + 1) ds).run c = result at done
      rcases result with ⟨_ | rest, last⟩
      · simp at done
      · obtain rfl : last = after := (Prod.mk.inj done).2
        intro e member
        rcases List.mem_cons.1 member with rfl | later
        · exact (Decl.resolve_ok ns e).1 ⟨s, resolved⟩
        · exact ih (i + 1) c rest ran e later

end Specification

namespace Links

theorem build_asking (classes : Children) (schemas : List Schema) :
    build classes schemas = Build.asking fun _ ns => do
      let t ← Build.within "class_relationships" (linkSchemas ns classes empty 0 schemas)
      Build.within "classes" (warnOfClasses t classes classes)
      return t := rfl

def taken? (ns : String) (classes : Children) (v : View) : Option (String × String) :=
  match place ns classes v with
  | .class name => some (name, v.relationName)
  | _ => none

def taken (ns : String) (classes : Children) (views : List View) : List (String × String) :=
  views.filterMap (taken? ns classes)

def keys (t : Links) : List (String × String) :=
  t.linked.map fun l => (l.className, l.relationName)

theorem has_iff (t : Links) (className relationName : String) :
    t.has className relationName = true ↔ (className, relationName) ∈ t.keys := by
  simp [has, keys]

def Ending (places : List String → Prop) (sides : List (String × String)) :
    Except Diagnostic Links → Prop
  | .ok t => t.keys = sides ∧ sides.Nodup
  | .error d => ∃ className relationName, sides.Duplicate (className, relationName) ∧
      d.level = .error ∧ d.error = repeated className relationName ∧ places d.location.path

theorem Ending.longer {places : List String → Prop} {sides more : List (String × String)}
    {d : Diagnostic} (h : Ending places sides (.error d)) :
    Ending places (sides ++ more) (.error d) := by
  obtain ⟨className, relationName, twice, rest⟩ := h
  exact ⟨className, relationName, twice.mono_sublist (List.sublist_append_left _ _), rest⟩

variable (ns : String) (classes : Children)

theorem taken_append (vs ws : List View) :
    taken ns classes (vs ++ ws) = taken ns classes vs ++ taken ns classes ws :=
  List.filterMap_append

theorem localClass?_mono {classes more : Children}
    (subset : ∀ name, Entries.has classes name = true → Entries.has more name = true)
    (token name : String) (found : localClass? ns classes token = some name) :
    localClass? ns more token = some name := by
  rw [localClass?, Option.filter_eq_some_iff] at found ⊢
  obtain ⟨own, there⟩ := found
  rw [Bool.and_eq_true] at there ⊢
  exact ⟨own, subset name there.1, there.2⟩

theorem taken_sublist {classes more : Children}
    (subset : ∀ name, Entries.has classes name = true → Entries.has more name = true)
    (views : List View) : (taken ns classes views).Sublist (taken ns more views) := by
  induction views with
  | nil => exact List.Sublist.refl _
  | cons v views ih =>
    unfold taken at ih ⊢
    rw [List.filterMap_cons, List.filterMap_cons]
    -- A class that is found among fewer is found among more.
    have kept (side : String × String) (here : taken? ns classes v = some side) :
        taken? ns more v = some side := by
      unfold taken? place at here ⊢
      cases found : localClass? ns classes v.className with
      | none =>
        rw [found] at here
        by_cases own : (ClassRef.ofToken v.className).isOwn = true <;> simp [own] at here
      | some name =>
        rw [found] at here
        rw [localClass?_mono ns subset _ _ found]
        exact here
    cases here : taken? ns classes v with
    | none =>
      cases taken? ns more v with
      | none => exact ih
      | some side => exact ih.cons side
    | some side =>
      rw [kept side here]
      exact ih.cons_cons side

theorem ending_link (t : Links) (v : View) (c : Context) (distinct : t.keys.Nodup) :
    Ending (· = c.location.path) (t.keys ++ taken ns classes [v])
      ((link ns classes t v).run c).1 := by
  unfold link taken
  rw [List.filterMap_cons, List.filterMap_nil, taken?]
  cases place ns classes v with
  | «class» name =>
    dsimp only
    split
    · next present =>
      have first := (has_iff t name v.relationName).1 present
      refine ⟨name, v.relationName, ?_, rfl, rfl, Diagnostics.path_locate _ _⟩
      rw [List.duplicate_iff_sublist]
      exact (List.singleton_sublist.2 first).append (List.Sublist.refl _)
    · next absent =>
      have fresh : (name, v.relationName) ∉ t.keys := fun member =>
        absent ((has_iff t name v.relationName).2 member)
      refine ⟨by simp [keys], ?_⟩
      rw [List.nodup_append]
      refine ⟨distinct, by simp, ?_⟩
      intro key member other single
      rw [List.mem_singleton.1 single]
      exact fun same => fresh (same ▸ member)
  | nowhere | host => exact ⟨by simp [keys], by simpa using distinct⟩

theorem ending_linkViews (t : Links) (views : List View) (c : Context) (distinct : t.keys.Nodup) :
    Ending (· = c.location.path) (t.keys ++ taken ns classes views)
      ((linkViews ns classes t views).run c).1 := by
  induction views generalizing t c with
  | nil => exact ⟨by simp [taken], by simpa [taken] using distinct⟩
  | cons v views ih =>
    have first := ending_link ns classes t v c distinct
    have place_ := (Build.framed_run (composed_link false ns classes t v) c).location
    rw [← List.singleton_append, taken_append, ← List.append_assoc, List.singleton_append]
    unfold linkViews
    rw [Build.run_bind]
    generalize (link ns classes t v).run c = ran at first place_ ⊢
    rcases ran with ⟨d | u, after⟩
    · exact first.longer
    · obtain ⟨keys_, distinct_⟩ := first
      rw [← keys_, ← place_]
      exact ih u after (keys_ ▸ distinct_)

theorem ending_linkSchemas (t : Links) (i : Nat) (schemas : List Schema) (c : Context)
    (distinct : t.keys.Nodup) :
    Ending (fun path => ∃ j, path = c.location.path ++ [toString (j : Nat)])
      (t.keys ++ taken ns classes (schemas.flatMap Schema.views))
      ((linkSchemas ns classes t i schemas).run c).1 := by
  induction schemas generalizing t i c with
  | nil => exact ⟨by simp [taken], by simpa [taken] using distinct⟩
  | cons s schemas ih =>
    have first := ending_linkViews ns classes t s.views (c.enter (toString i)) distinct
    have place_ := (Build.framed_run (.within (toString i) _
      (composed_linkViews false ns classes t s.views)) c).location
    rw [List.flatMap_cons, taken_append, ← List.append_assoc]
    unfold linkSchemas
    rw [Build.run_bind]
    rw [Build.run_within] at place_ ⊢
    generalize (linkViews ns classes t s.views).run (c.enter (toString i)) = ran at first place_ ⊢
    rcases ran with ⟨d | u, after⟩
    · obtain ⟨className, relationName, twice, level, error, path⟩ := first
      exact Ending.longer ⟨className, relationName, twice, level, error, i, path⟩
    · obtain ⟨keys_, distinct_⟩ := first
      rw [← keys_, ← place_]
      exact ih u (i + 1) after.leave (keys_ ▸ distinct_)

section

variable {I : Invariant} {ends : Diagnostic → Prop}
  (warns : ∀ e, Build.Meets I ends (Build.warn e) fun _ => True)

include warns

theorem meets_warnAll (es : List Problem) : Build.Meets I ends (warnAll es) fun _ => True := by
  induction es with
  | nil => exact Build.meets_pure () trivial
  | cons e es ih => exact Build.meets_bind _ (warns e) fun _ _ => ih

theorem meets_warnEach (error : String → Problem) (names : List String) :
    Build.Meets I ends (warnEach error names) fun _ => True := by
  induction names with
  | nil => exact Build.meets_pure () trivial
  | cons name names ih =>
    exact Build.meets_bind _ (Build.meets_within name (warns _)) fun _ _ => ih

theorem meets_warnOfClasses (t : Links) (cs : Children) :
    Build.Meets I ends (warnOfClasses t classes cs) fun _ => True := by
  induction cs with
  | nil => exact Build.meets_pure () trivial
  | cons e cs ih =>
    obtain ⟨name, ps⟩ := e
    unfold warnOfClasses
    dsimp only
    split
    · refine Build.meets_bind (fun _ => True) ?_ fun _ _ => ih
      exact Build.meets_within name (Build.meets_bind _ (meets_warnAll warns _) fun _ _ =>
        Build.meets_within "relationships" (meets_warnEach warns _ _))
    · exact ih

end

section

variable {I : Invariant} (warns : ∀ e, Build.Meets I (fun _ => True) (Build.warn e) fun _ => True)

include warns

theorem meets_link (t : Links) (v : View) :
    Build.Meets I (fun _ => True) (link ns classes t v) fun _ => True := by
  unfold link
  split
  · split
    · exact Build.meets_ofExcept (.error _) (fun _ _ => trivial) fun _ _ _ => trivial
    · exact Build.meets_pure _ trivial
  · exact Build.meets_bind _ (warns _) fun _ _ => Build.meets_pure _ trivial
  · exact Build.meets_pure _ trivial

theorem meets_linkViews (t : Links) (views : List View) :
    Build.Meets I (fun _ => True) (linkViews ns classes t views) fun _ => True := by
  induction views generalizing t with
  | nil => exact Build.meets_pure t trivial
  | cons v views ih => exact Build.meets_bind _ (meets_link ns classes warns t v) fun u _ => ih u

theorem meets_linkSchemas (t : Links) (i : Nat) (schemas : List Schema) :
    Build.Meets I (fun _ => True) (linkSchemas ns classes t i schemas) fun _ => True := by
  induction schemas generalizing t i with
  | nil => exact Build.meets_pure t trivial
  | cons s schemas ih =>
    exact Build.meets_bind _ (Build.meets_within _ (meets_linkViews ns classes warns t s.views))
      fun u _ => ih u (i + 1)

theorem meets_build (schemas : List Schema) :
    Build.Meets I (fun _ => True) (build classes schemas) fun _ => True := by
  rw [build_asking]
  apply Build.meets_asking
  intro ns
  refine Build.meets_bind _ (Build.meets_within _ (meets_linkSchemas ns classes warns _ 0 schemas))
    fun t _ => ?_
  exact Build.meets_bind _ (Build.meets_within _ (meets_warnOfClasses classes warns t classes))
    fun _ _ => Build.meets_pure t trivial

end

theorem ending_build (schemas : List Schema) (c : Context) :
    Ending (fun path => ∃ j, path = c.location.path ++ ["class_relationships", toString (j : Nat)])
      (taken c.ns classes (schemas.flatMap Schema.views)) ((build classes schemas).run c).1 := by
  have linked := ending_linkSchemas c.ns classes empty 0 schemas (c.enter "class_relationships")
    List.nodup_nil
  rw [build_asking, Build.run_asking, Build.run_bind, Build.run_within]
  generalize (linkSchemas c.ns classes empty 0 schemas).run (c.enter "class_relationships") = ran
    at linked ⊢
  -- The warnings about classes come after linking and never end the run.
  rcases ran with ⟨d | t, after⟩
  · obtain ⟨className, relationName, twice, level, error, j, path⟩ := linked
    exact ⟨className, relationName, twice, level, error, j, by simp [path, Context.enter]⟩
  · have passes : Build.Meets (Build.steady after.leave.keepsDefaults after.leave.ns)
        (fun _ => False) (Build.within "classes" (warnOfClasses t classes classes)) fun _ => True :=
      Build.meets_within "classes"
        (meets_warnOfClasses classes (fun e => Build.meets_steady_warn _ _ e) t classes)
    have passed := (passes after.leave ⟨rfl, rfl⟩).2
    dsimp only
    rw [Build.run_bind]
    generalize (Build.within "classes" (warnOfClasses t classes classes)).run after.leave = result
      at passed ⊢
    rcases result with ⟨_ | _, _⟩
    · exact passed.elim
    · exact linked

end Links

namespace Specification

def schemasOfRoot (root : Params) : List Schema :=
  schemasOf (Params.str root "name") (Params.relationships root "class_relationships")

/-- What the sides of the relationships of a root take: each side that is of one of its classes
takes the class and its relation name. -/
def sides (root : Params) : List (String × String) :=
  Links.taken (Params.str root "name") (Params.children root "classes")
    ((schemasOfRoot root).flatMap Schema.views)

def linking (root : Params) : Build Links :=
  Links.build (Params.children root "classes") (schemasOfRoot root)

theorem value_withSchemas (root : Params) (schemas : List Schema) (name : String) :
    Params.value (withSchemas root schemas) name =
      if name = declarations then .relationships (schemas.map Schema.declaration)
      else Params.value root name := by
  rw [Params.value, withSchemas, Entries.get?_put]
  split <;> rfl

theorem name_withSchemas (root : Params) (schemas : List Schema) :
    Params.str (withSchemas root schemas) "name" = Params.str root "name" := by
  rw [Params.str, Params.str, Params.str?, Params.str?, value_withSchemas, if_neg (by decide)]

theorem run_specification (params root : Params) (c built : Context)
    (done : (Node.buildParams .zenPack "" params).run c = (.ok root, built))
    (oriented : ∀ d ∈ Params.relationships root "class_relationships", d.isOriented = true) :
    (build params).run c =
      (((linking root).run built).1.map fun links =>
          ⟨withSchemas root (schemasOfRoot root), schemasOfRoot root, links⟩,
        ((linking root).run built).2) := by
  have resolved := run_resolveAll (Params.str root "name") 0
    (Params.relationships root "class_relationships") (built.enter "class_relationships") oriented
  rw [build, Build.run_bind, done]
  dsimp only
  rw [Build.run_bind, Build.run_within, declarations, resolved]
  dsimp only
  rw [Context.leave_enter, Build.run_bind]
  unfold linking schemasOfRoot
  rcases (Links.build (Params.children root "classes") _).run built with ⟨_ | _, _⟩ <;> rfl

theorem parts_of_build (params : Params) (c after : Context) (s : Specification)
    (done : (build params).run c = (.ok s, after)) :
    ∃ root built links, (Node.buildParams .zenPack "" params).run c = (.ok root, built) ∧
      (∀ d ∈ Params.relationships root "class_relationships", d.isOriented = true) ∧
      (linking root).run built = (.ok links, after) ∧
      s = ⟨withSchemas root (schemasOfRoot root), schemasOfRoot root, links⟩ := by
  have opened := done
  rw [build, Build.run_bind] at opened
  generalize ran : (Node.buildParams .zenPack "" params).run c = result at opened
  rcases result with ⟨d | root, built⟩
  · simp at opened
  dsimp only at opened
  rw [Build.run_bind, Build.run_within] at opened
  generalize resolving : (resolveAll (Params.str root "name") 0
    (Params.relationships root declarations)).run (built.enter declarations) = result at opened
  rcases result with ⟨d | schemas, last⟩
  · simp at opened
  have oriented := resolveAll_ok _ _ _ _ _ _ resolving
  rw [run_specification params root c built ran oriented] at done
  generalize linked : (linking root).run built = result at done
  rcases result with ⟨d | links, end_⟩
  · simp [Except.map] at done
  obtain ⟨same, rfl⟩ := Prod.mk.inj done
  exact ⟨root, built, links, rfl, oriented, linked, (Except.ok.inj same).symm⟩

theorem ending_linking (root : Params) (built : Context) (named : built.ns = Params.str root "name") :
    Links.Ending
      (fun path => ∃ i, path = built.location.path ++ ["class_relationships", toString (i : Nat)])
      (sides root) ((linking root).run built).1 := by
  have linked := Links.ending_build (Params.children root "classes") (schemasOfRoot root) built
  rw [named] at linked
  exact linked

end Specification

end PackSpec
