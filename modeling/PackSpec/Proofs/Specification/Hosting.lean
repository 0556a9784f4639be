import PackSpec.Proofs.Specification.Spelling

set_option autoImplicit false

namespace PackSpec

namespace Links

variable {ns : String} {classes : Children} {among : String → Prop}

def Defined (ns : String) (classes : Children) (among : String → Prop) (name : String) : Prop :=
  among name ∧ localClass? ns classes name = some name

structure Undefined (ns : String) (classes : Children) (among : String → Prop) (name : String) :
    Prop where
  picked : among name
  bare : Naming.isQualified name = false
  missing : localClass? ns classes name = none

theorem ownName?_bare (name : String) (bare : Naming.isQualified name = false) :
    ownName? ns name = some name := by
  rw [ownName?, splitLast_bare name bare]

theorem localClass?_bare (name other : String) (bare : Naming.isQualified name = false)
    (found : localClass? ns classes name = some other) : other = name := by
  rw [localClass?, ownName?_bare name bare, Option.filter_eq_some_iff] at found
  exact (Option.some.inj found.1).symm

theorem place_missing (v : View) (missing : localClass? ns classes v.className = none) :
    place ns classes v = if Naming.isQualified v.className then .host else .nowhere := by
  rw [place, missing]
  cases bare : Naming.isQualified v.className <;> simp [ClassRef.ofToken, bare, ClassRef.isOwn]

theorem place_undefined (placed : ns ≠ "") (v : View) (name : String)
    (undefined : Undefined ns classes among name) (spelled : v.className = ns ++ "." ++ name) :
    place ns classes v = .host := by
  have alike := localClass?_respelled classes placed
    (.qualified undefined.bare undefined.picked)
  have missing : localClass? ns classes v.className = none := by
    rw [spelled, ← alike, undefined.missing]
  rw [place_missing v missing, spelled, Naming.isQualified_append, if_pos rfl]

theorem place_respelled (classes : Children) (placed : ns ≠ "") (v w : View)
    (respelled : Respelled ns among v.className w.className) :
    Respelled ns (Defined ns classes among) v.className w.className ∧
        place ns classes v = place ns classes w ∨
      place ns classes v = .nowhere ∧ place ns classes w = .host ∧
        ∃ name, Undefined ns classes among name ∧ w.className = ns ++ "." ++ name := by
  have same := localClass?_respelled classes placed respelled
  generalize spelled : v.className = a at respelled same
  generalize spelled_ : w.className = b at respelled same
  cases respelled with
  | same => exact .inl ⟨.same a, by unfold place; rw [spelled, spelled_]⟩
  | qualified bare picked =>
    cases found : localClass? ns classes a with
    | some name =>
      obtain rfl := localClass?_bare a name bare found
      refine .inl ⟨.qualified bare ⟨picked, found⟩, ?_⟩
      have here := (place_class_iff ns classes v name).2 (by rw [spelled, found])
      have there := (place_class_iff ns classes w name).2 (by rw [spelled_, ← same, found])
      rw [here, there]
    | none =>
      have undefined : Undefined ns classes among a := ⟨picked, bare, found⟩
      have nowhere : place ns classes v = .nowhere := by
        rw [place_missing v (spelled ▸ found), spelled, bare]
        rfl
      exact .inr ⟨nowhere, place_undefined placed w a undefined spelled_, a, undefined, rfl⟩

theorem place_of_defined (classes : Children) (placed : ns ≠ "") (v w : View)
    (respelled : Respelled ns (Defined ns classes among) v.className w.className) :
    place ns classes v = place ns classes w ∧
      (v.className = w.className ∨ ∃ name, place ns classes v = .class name) := by
  have same := localClass?_respelled classes placed respelled
  unfold place
  rw [← same]
  generalize v.className = a at respelled same ⊢
  generalize w.className = b at respelled same ⊢
  cases respelled with
  | same => exact ⟨rfl, .inl rfl⟩
  | qualified bare defined =>
    rw [defined.2]
    exact ⟨rfl, .inr ⟨a, rfl⟩⟩

def HostRespelled (ns : String) (among : String → Prop) (g h : Entries (List View)) : Prop :=
  List.Forall₂ (fun e f => e.1 = f.1 ∧ List.Forall₂ (View.Respelled ns among) e.2 f.2) g h

namespace HostRespelled

variable {g h : Entries (List View)}

theorem get? (alike : HostRespelled ns among g h) (name : String) :
    List.Forall₂ (View.Respelled ns among) ((Entries.get? g name).getD [])
      ((Entries.get? h name).getD []) := by
  induction alike with
  | nil => exact .nil
  | cons head _ ih =>
    obtain ⟨same, views⟩ := head
    rw [Entries.get?_cons, Entries.get?_cons, ← same]
    split
    · exact views
    · exact ih

theorem has (alike : HostRespelled ns among g h) (name : String) :
    Entries.has g name = Entries.has h name := by
  induction alike with
  | nil => rfl
  | cons head _ ih => rw [Entries.has_cons, Entries.has_cons, ih, head.1]

theorem putHost (alike : HostRespelled ns among g h) (v w : View)
    (related : v.Respelled ns among w) (same : v.className = w.className) :
    HostRespelled ns among (Links.putHost g v) (Links.putHost h w) := by
  have views := List.rel_append (alike.get? w.className) (.cons related .nil)
  unfold Links.putHost Entries.put
  rw [same, alike.has]
  split
  · refine List.rel_map (fun e f both => ?_) alike
    rw [both.1]
    split
    · exact ⟨rfl, views⟩
    · exact both
  · exact List.rel_append alike (.cons ⟨rfl, views⟩ .nil)

theorem mono {more : String → Prop} (all : ∀ name, among name → more name)
    (alike : HostRespelled ns among g h) : HostRespelled ns more g h :=
  List.Forall₂.imp (fun _ _ both => ⟨both.1, List.Forall₂.imp (fun _ _ views => views.mono all) both.2⟩)
    alike

end HostRespelled

section

variable (placed : ns ≠ "")

include placed

theorem host_respelled (vs ws : List View)
    (respelled : List.Forall₂ (View.Respelled ns (Defined ns classes among)) vs ws) (t u : Links)
    (alike : HostRespelled ns (Defined ns classes among) t.host u.host) :
    HostRespelled ns (Defined ns classes among) (addAll ns classes t vs).host
      (addAll ns classes u ws).host := by
  induction respelled generalizing t u with
  | nil => exact alike
  | @cons v w vs ws head _ ih =>
    refine ih (add ns classes t v) (add ns classes u w) ?_
    obtain ⟨same, where_⟩ := place_of_defined classes placed v w head.className
    unfold add
    rw [← same]
    cases there : place ns classes v with
    | «class» _ | nowhere => exact alike
    | host =>
      refine alike.putHost v w head (where_.resolve_right ?_)
      rintro ⟨name, linked⟩
      exact absurd (there.symm.trans linked) (by simp)

theorem hostSides_respelled (key : String)
    (other : ∀ name, Undefined ns classes among name → key ≠ ns ++ "." ++ name) (vs ws : List View)
    (respelled : List.Forall₂ (View.Respelled ns among) vs ws) :
    List.Forall₂ (View.Respelled ns among)
      ((hostSides ns classes vs).filter fun v => v.className = key)
      ((hostSides ns classes ws).filter fun w => w.className = key) := by
  induction respelled with
  | nil => exact .nil
  | @cons v w vs ws head _ ih =>
    unfold hostSides at ih ⊢
    rw [List.filter_cons, List.filter_cons]
    rcases place_respelled classes placed v w head.className with
      ⟨defined, same⟩ | ⟨bare, qualified, name, undefined, spelled⟩
    · rw [← same]
      split
      · rename_i host
        have kept : v.className = w.className := by
          refine (place_of_defined classes placed v w defined).2.resolve_right ?_
          rintro ⟨name, linked⟩
          simp [linked] at host
        rw [List.filter_cons, List.filter_cons, kept]
        split
        · exact .cons head ih
        · exact ih
      · exact ih
    · have elsewhere : w.className ≠ key := fun here => other name undefined (here ▸ spelled)
      simpa [bare, qualified, List.filter_cons, elsewhere] using ih

theorem hostSides_undefined (name : String) (undefined : Undefined ns classes among name)
    (vs : List View) :
    ((hostSides ns classes vs).filter fun v => v.className = ns ++ "." ++ name) =
      vs.filter fun v => v.className = ns ++ "." ++ name := by
  rw [hostSides, List.filter_filter]
  refine List.filter_congr fun v _ => ?_
  by_cases spelled : v.className = ns ++ "." ++ name
  · simp [spelled, place_undefined placed v name undefined spelled]
  · simp [spelled]

theorem strays_respelled (c : Context) (vs ws : List View)
    (respelled : List.Forall₂ (View.Respelled ns (Defined ns classes among)) vs ws) :
    (strays ns classes vs).map (strayAt c) = (strays ns classes ws).map (strayAt c) := by
  induction respelled with
  | nil => rfl
  | @cons v w vs ws head _ ih =>
    obtain ⟨same, where_⟩ := place_of_defined classes placed v w head.className
    unfold strays at ih ⊢
    rw [List.filter_cons, List.filter_cons, ← same]
    cases there : place ns classes v with
    | «class» _ | host => exact ih
    | nowhere =>
      have kept : v.className = w.className := where_.resolve_right (by simp [there])
      have said : strayAt c v = strayAt c w := by
        rw [strayAt, strayAt, undefinedClass, undefinedClass, kept, head.names.1]
      simpa [said] using ih

theorem straysFrom_respelled (c : Context) (i : Nat) (ss ts : List Schema)
    (respelled : List.Forall₂ (Schema.Respelled ns (Defined ns classes among)) ss ts) :
    straysFrom classes ns c i ss = straysFrom classes ns c i ts := by
  induction respelled generalizing i with
  | nil => rfl
  | @cons s s' ss ts head _ ih =>
    have step := ih (i + 1)
    unfold straysFrom at step ⊢
    rw [List.zipIdx_cons, List.flatMap_cons, List.zipIdx_cons, List.flatMap_cons, step,
      strays_respelled placed _ s.views s'.views head]

theorem length_strays_le (classes : Children) (vs ws : List View)
    (respelled : List.Forall₂ (View.Respelled ns among) vs ws) :
    (strays ns classes ws).length ≤ (strays ns classes vs).length := by
  induction respelled with
  | nil => exact Nat.le_refl _
  | @cons v w vs ws head _ ih =>
    unfold strays at ih ⊢
    rw [List.filter_cons, List.filter_cons]
    rcases place_respelled classes placed v w head.className with
      ⟨-, same⟩ | ⟨bare, qualified, -⟩
    · rw [same]
      split
      · simpa using ih
      · exact ih
    · simp only [bare, qualified, reduceCtorEq, decide_true, decide_false, if_true,
        Bool.false_eq_true, if_false, List.length_cons]
      omega

theorem defined_of_strays (vs ws : List View)
    (respelled : List.Forall₂ (View.Respelled ns among) vs ws)
    (balanced : (strays ns classes vs).length ≤ (strays ns classes ws).length) :
    List.Forall₂ (fun v w => Respelled ns (Defined ns classes among) v.className w.className) vs ws := by
  induction respelled with
  | nil => exact .nil
  | @cons v w vs ws head tail ih =>
    have rest := length_strays_le placed classes vs ws tail
    unfold strays at ih rest balanced
    rw [List.filter_cons, List.filter_cons] at balanced
    rcases place_respelled classes placed v w head.className with
      ⟨respelled_, same⟩ | ⟨bare, qualified, -⟩
    · refine .cons respelled_ (ih ?_)
      rw [same] at balanced
      split at balanced
      · simpa using balanced
      · exact balanced
    · -- One warning more under the bare spelling, and the rest cannot make up for it.
      simp only [bare, qualified, reduceCtorEq, decide_true, decide_false, if_true,
        Bool.false_eq_true, if_false, List.length_cons] at balanced
      omega

end

end Links

namespace Decl

variable {ns : String} {classes : Children} {among : String → Prop}

theorem respelled_of_views (placed : ns ≠ "") (ds es : List Decl) (named : ∀ d ∈ ds, d.Named)
    (oriented : ∀ d ∈ ds, d.isOriented = true)
    (respelled : List.Forall₂ (Decl.Respelled ns among) ds es)
    (views : List.Forall₂
      (fun v w => PackSpec.Respelled ns (Links.Defined ns classes among) v.className w.className)
      ((Specification.schemasOf ns ds).flatMap Schema.views)
      ((Specification.schemasOf ns es).flatMap Schema.views)) :
    List.Forall₂ (Decl.Respelled ns (Links.Defined ns classes among)) ds es := by
  induction respelled with
  | nil => exact .nil
  | @cons d e ds es head _ ih =>
    obtain ⟨s, t, left, right, -, sides, sides_⟩ :=
      d.schema?_respelled placed e (named d (.head _)) (oriented d (.head _)) head
    rw [Specification.schemasOf_cons d ds s left, Specification.schemasOf_cons e es t right] at views
    cases views with
    | cons first views =>
    cases views with
    | cons second views =>
    simp only [Schema.views, List.map_cons, List.map_nil, List.cons.injEq, and_true] at sides sides_
    rw [sides.1, sides_.1] at first
    rw [sides.2, sides_.2] at second
    exact .cons ⟨first, second, head.names, head.kinds⟩
      (ih (fun d member => named d (.tail _ member)) (fun d member => oriented d (.tail _ member)) views)

end Decl

end PackSpec
