import PackSpec.Proofs.Specification.Hosting
import PackSpec.Proofs.Specification.TakenAlike

set_option autoImplicit false

namespace PackSpec

theorem Context.record_injective (c : Context) {ds es : List Diagnostic}
    (same : c.record ds = c.record es) : ds = es := by
  have items := congrArg (fun c : Context => c.diagnostics.items) same
  exact List.append_cancel_left items

namespace Links

variable {classes : Children} {among : String → Prop}

theorem has_of_keys (t u : Links) (same : t.keys = u.keys) (className relationName : String) :
    t.has className relationName = u.has className relationName := by
  rw [Bool.eq_iff_iff, has_iff, has_iff, same]

theorem warningsOf_of_keys (classes : Children) (t u : Links) (same : t.keys = u.keys) (c : Context)
    (name : String)
    (ps : Params) : warningsOf t classes c name ps = warningsOf u classes c name ps := by
  have undeclared_ : undeclaredNames t classes name ps = undeclaredNames u classes name ps := by
    simp only [undeclaredNames, has_of_keys t u same]
  rw [warningsOf, warningsOf, undeclared_]

def ofDecls (classes : Children) (ds : List Decl) : Build Links := do
  let c ← get
  let schemas ← Build.within Specification.declarations (Specification.resolveAll c.ns 0 ds)
  build classes schemas

theorem run_ofDecls (ds : List Decl) (c : Context) (oriented : ∀ d ∈ ds, d.isOriented = true) :
    (ofDecls classes ds).run c = (build classes (Specification.schemasOf c.ns ds)).run c := by
  have resolved := Specification.run_resolveAll c.ns 0 ds (c.enter Specification.declarations) oriented
  have opened : (ofDecls classes ds).run c = (do
      let schemas ← Build.within Specification.declarations (Specification.resolveAll c.ns 0 ds)
      build classes schemas).run c := rfl
  rw [opened, Build.run_bind, Build.run_within, resolved]
  dsimp only
  rw [Context.leave_enter]

def sidesOf (ns : String) (ds : List Decl) : List View :=
  (Specification.schemasOf ns ds).flatMap Schema.views

/-- What two runs leave that link relationships under one spelling and under the other. -/
structure LinkedAlike (c : Context) (classes : Children) (among : String → Prop) (ds es : List Decl)
    (t u : Links) (after last : Context) : Prop where
  linked : List.Forall₂ (Link.Respelled c.ns among) t.linked u.linked
  host : ∀ key, (∀ name, Undefined c.ns classes among name → key ≠ c.ns ++ "." ++ name) →
    List.Forall₂ (View.Respelled c.ns among) ((Entries.get? t.host key).getD [])
      ((Entries.get? u.host key).getD [])
  kept : ∀ name, Undefined c.ns classes among name →
    ((Entries.get? t.host (c.ns ++ "." ++ name)).getD [] =
        (sidesOf c.ns ds).filter fun v => v.className = c.ns ++ "." ++ name) ∧
      (Entries.get? u.host (c.ns ++ "." ++ name)).getD [] =
        (sidesOf c.ns es).filter fun v => v.className = c.ns ++ "." ++ name
  warned : ∃ others,
    after = c.record (straysFrom classes c.ns (c.enter "class_relationships") 0
      (Specification.schemasOf c.ns ds) ++ others) ∧
    last = c.record (straysFrom classes c.ns (c.enter "class_relationships") 0
      (Specification.schemasOf c.ns es) ++ others)
  same_iff : HostRespelled c.ns among t.host u.host ∧ after = last ↔
    List.Forall₂ (Decl.Respelled c.ns (Defined c.ns classes among)) ds es

/-- Relationships whose classes are bare or qualified end with the same diagnostic, or link the same
classes and relation names to the same views up to spelling. The rest is the same too exactly if each
class that is spelled another way is defined: the views for the host, and what is recorded. -/
theorem respells_alike_iff (classes : Children) (ds es : List Decl) (c : Context)
    (placed : c.ns ≠ "") (named : ∀ d ∈ ds, d.Named) (oriented : ∀ d ∈ ds, d.isOriented = true)
    (respelled : List.Forall₂ (Decl.Respelled c.ns among) ds es) :
    match (ofDecls classes ds).run c, (ofDecls classes es).run c with
    | (.error d, _), (.error e, _) => d = e
    | (.ok t, after), (.ok u, last) => LinkedAlike c classes among ds es t u after last
    | _, _ => False := by
  rw [run_ofDecls ds c oriented, run_ofDecls es c (Decl.oriented_of_respelled ds es oriented respelled)]
  have schemas := Specification.schemasOf_respelled placed ds es named oriented respelled
  have views := views_respelled _ _ schemas
  have same := taken_respelled placed classes _ _ views
  by_cases fresh : (taken c.ns classes (sidesOf c.ns ds)).Nodup
  · rw [run_build classes _ c fresh, run_build classes _ c (same ▸ fresh)]
    dsimp only
    have keys_ : (addAll c.ns classes empty (sidesOf c.ns ds)).keys =
        (addAll c.ns classes empty (sidesOf c.ns es)).keys := by
      rw [keys_addAll, keys_addAll]
      exact congrArg (empty.keys ++ ·) same
    have host (fs : List Decl) (key : String) :=
      get?_addAll_host c.ns classes empty (sidesOf c.ns fs) key
    have others := warningsOf_of_keys classes _ _ keys_
    unfold sidesOf at host others
    simp only [others]
    refine ⟨linked_respelled placed _ _ views, fun key other => ?_, fun name undefined => ?_,
      ⟨_, rfl, rfl⟩, ?_, fun defined => ?_⟩
    · rw [host, host]
      exact hostSides_respelled placed key other _ _ views
    · rw [host, host, hostSides_undefined placed name undefined,
        hostSides_undefined placed name undefined]
      exact ⟨rfl, rfl⟩
    · -- The warnings about classes are the same, so those about sides are too.
      rintro ⟨-, recorded⟩
      have strays_ := List.append_cancel_right (Context.record_injective c recorded)
      have balanced := congrArg List.length strays_
      rw [length_straysFrom, length_straysFrom] at balanced
      exact Decl.respelled_of_views placed ds es named oriented respelled
        (defined_of_strays placed _ _ views (Nat.le_of_eq balanced))
    · have schemas_ := Specification.schemasOf_respelled placed ds es named oriented defined
      refine ⟨HostRespelled.mono (fun _ both => both.1)
        (host_respelled placed _ _ (views_respelled _ _ schemas_) empty empty .nil), ?_⟩
      rw [straysFrom_respelled placed _ 0 _ _ schemas_]
  · obtain ⟨d, after, last, ran, ran_⟩ := errors_alike classes _ _ c placed schemas fresh
    rw [ran, ran_]

def podShop : Context := { Context.start (.empty .strict) "shop.yaml" false with ns := "Shop" }

def podOf (parts : String) : List Decl :=
  [⟨⟨"Pod", some "parts", .multiOwning⟩, ⟨parts, some "pod", .single⟩⟩]

theorem respells_alike_fans : ∃ t u after last,
    (ofDecls [("Pod", []), ("Fan", [])] (podOf "Fan")).run podShop = (.ok t, after) ∧
      (ofDecls [("Pod", []), ("Fan", [])] (podOf "Shop.Fan")).run podShop = (.ok u, last) ∧
      t.keys = [("Pod", "parts"), ("Fan", "pod")] ∧
      LinkedAlike podShop [("Pod", []), ("Fan", [])] (· = "Fan") (podOf "Fan") (podOf "Shop.Fan")
        t u after last ∧
      HostRespelled "Shop" (· = "Fan") t.host u.host ∧ after = last := by
  have respelled (among : String → Prop) (picked : among "Fan") :
      List.Forall₂ (Decl.Respelled "Shop" among) (podOf "Fan") (podOf "Shop.Fan") :=
    .cons ⟨.same "Pod", .qualified (by decide +kernel) picked, ⟨rfl, rfl⟩, rfl, rfl⟩ .nil
  obtain ⟨t, after, ran, keys_⟩ := Build.ok_of_shown keys
    [("Pod", "parts"), ("Fan", "pod")] (b := ofDecls [("Pod", []), ("Fan", [])] (podOf "Fan"))
    (c := podShop) (by decide +kernel)
  obtain ⟨u, last, ran_, -⟩ := Build.ok_of_shown keys
    [("Pod", "parts"), ("Fan", "pod")] (b := ofDecls [("Pod", []), ("Fan", [])] (podOf "Shop.Fan"))
    (c := podShop) (by decide +kernel)
  have alike := respells_alike_iff [("Pod", []), ("Fan", [])] (podOf "Fan") (podOf "Shop.Fan") podShop
    (by decide) (by simp [podOf, Decl.Named, given]) (by decide) (respelled (· = "Fan") rfl)
  rw [ran, ran_] at alike
  exact ⟨t, u, after, last, ran, ran_, keys_, alike,
    alike.same_iff.2 (respelled _ ⟨rfl, by decide +kernel⟩)⟩

/-- A class that there is not is left out with a warning, or kept for the host without one. -/
theorem ghost_not_alike :
    let bare := (ofDecls [("Pod", [])] (podOf "Ghost")).run podShop
    let qualified := (ofDecls [("Pod", [])] (podOf "Shop.Ghost")).run podShop
    (bare.1.toOption.map fun t => Entries.names t.host) = some [] ∧
      (qualified.1.toOption.map fun t => Entries.names t.host) = some ["Shop.Ghost"] ∧
      bare.2.diagnostics.items.map Diagnostic.isWarning = [true] ∧
      qualified.2.diagnostics.items = [] := by
  decide +kernel

end Links

end PackSpec
