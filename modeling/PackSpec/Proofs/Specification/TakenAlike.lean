import PackSpec.Proofs.Specification.Spelling

set_option autoImplicit false

namespace PackSpec

namespace Links

variable {ns : String} {classes : Children} {among : String → Prop}

def outcome (b : Build Links) (c : Context) : Except Diagnostic (List (String × String)) :=
  (b.run c).1.map keys

def TakesAlike (b b' : Build Links) : Prop :=
  ∀ (c : Context) (ds es : List Diagnostic), outcome b (c.record ds) = outcome b' (c.record es)

theorem takesAlike_pure (t u : Links) (same : t.keys = u.keys) :
    TakesAlike (pure t : Build Links) (pure u) :=
  fun _ _ _ => congrArg Except.ok same

theorem takesAlike_bind (b b' : Build Links) (f f' : Links → Build Links)
    (composed : Build.Composed false b) (composed' : Build.Composed false b')
    (first : TakesAlike b b')
    (next : ∀ t u, t.keys = u.keys → TakesAlike (f t) (f' u)) :
    TakesAlike (b >>= f) (b' >>= f') := by
  -- The first part may record what it likes: the second one is compared whatever was recorded.
  intro c ds es
  have ran := first c ds es
  obtain ⟨more, left⟩ := Build.record_of_framed (Build.framed_run composed (c.record ds))
  obtain ⟨more', right⟩ := Build.record_of_framed (Build.framed_run composed' (c.record es))
  rw [Context.record_record] at left right
  unfold outcome at ran ⊢
  rw [Build.run_bind, Build.run_bind]
  generalize b.run (c.record ds) = result at ran left ⊢
  generalize b'.run (c.record es) = result' at ran right ⊢
  rcases result with ⟨d | t, after⟩ <;> rcases result' with ⟨d' | u, after'⟩
  · exact ran
  · simp [Except.map] at ran
  · simp [Except.map] at ran
  · obtain rfl : after = _ := left
    obtain rfl : after' = _ := right
    exact next t u (Except.ok.inj ran) c _ _

theorem takesAlike_within (segment : String) (b b' : Build Links) (inside : TakesAlike b b') :
    TakesAlike (Build.within segment b) (Build.within segment b') :=
  fun c ds es => inside (c.enter segment) ds es

theorem takesAlike_link (t u : Links) (v w : View) (same_ : t.keys = u.keys)
    (same : taken? ns classes v = taken? ns classes w) :
    TakesAlike (link ns classes t v) (link ns classes u w) := by
  have seen (t : Links) (v : View) (c : Context) : outcome (link ns classes t v) c =
      (taken? ns classes v).elim (.ok t.keys) fun key =>
        if key ∈ t.keys then .error ⟨.error, c.diagnostics.locate c.location, repeated key.1 key.2⟩
        else .ok (t.keys ++ [key]) := by
    unfold outcome link taken?
    cases place ns classes v with
    | nowhere | host => rfl
    | «class» name =>
      dsimp only [Option.elim]
      by_cases present : (name, v.relationName) ∈ t.keys
      · rw [if_pos ((has_iff t name v.relationName).2 present), if_pos present]
        rfl
      · rw [if_neg (mt (has_iff t name v.relationName).1 present), if_neg present]
        simp [Build.run_pure, Except.map, keys]
  intro c ds es
  rw [seen, seen, same, same_]
  rfl

section

variable (placed : ns ≠ "")

include placed

theorem takesAlike_linkViews (vs ws : List View)
    (respelled : List.Forall₂ (View.Respelled ns among) vs ws) (t u : Links)
    (same : t.keys = u.keys) :
    TakesAlike (linkViews ns classes t vs) (linkViews ns classes u ws) := by
  induction respelled generalizing t u with
  | nil => exact takesAlike_pure t u same
  | @cons v w vs ws head _ ih =>
    exact takesAlike_bind _ _ _ _ (composed_link false ns classes t v)
      (composed_link false ns classes u w)
      (takesAlike_link t u v w same (taken?_respelled placed v w head)) ih

theorem takesAlike_linkSchemas (classes : Children) (ss ts : List Schema)
    (respelled : List.Forall₂ (Schema.Respelled ns among) ss ts) (i : Nat) (t u : Links)
    (same : t.keys = u.keys) :
    TakesAlike (linkSchemas ns classes t i ss) (linkSchemas ns classes u i ts) := by
  induction respelled generalizing i t u with
  | nil => exact takesAlike_pure t u same
  | @cons s s' ss ts head _ ih =>
    exact takesAlike_bind _ _ _ _ (.within _ _ (composed_linkViews false ns classes t s.views))
      (.within _ _ (composed_linkViews false ns classes u s'.views))
      (takesAlike_within _ _ _ (takesAlike_linkViews placed s.views s'.views head t u same))
      fun t u same => ih (i + 1) t u same

end

theorem run_build_error (classes : Children) (schemas : List Schema) (c : Context)
    (clash : ¬ (taken c.ns classes (schemas.flatMap Schema.views)).Nodup) :
    ∃ d after, (build classes schemas).run c = (.error d, after) ∧
      outcome (linkSchemas c.ns classes empty 0 schemas) (c.enter "class_relationships") = .error d := by
  obtain ⟨_, _, d, ran, _, _⟩ := linkSchemas_stops classes c.ns empty 0 schemas
    (c.enter "class_relationships") List.nodup_nil clash
  rw [build_asking, Build.run_asking, Build.run_bind, Build.run_within, outcome]
  generalize (linkSchemas c.ns classes empty 0 schemas).run (c.enter "class_relationships") =
    result at ran ⊢
  obtain ⟨_, after⟩ := result
  dsimp only at ran
  subst ran
  exact ⟨d, after.leave, rfl, rfl⟩

theorem errors_alike (classes : Children) (ss ts : List Schema) (c : Context) (placed : c.ns ≠ "")
    (respelled : List.Forall₂ (Schema.Respelled c.ns among) ss ts)
    (clash : ¬ (taken c.ns classes (ss.flatMap Schema.views)).Nodup) :
    ∃ d after last, (build classes ss).run c = (.error d, after) ∧
      (build classes ts).run c = (.error d, last) := by
  have same := taken_respelled placed classes _ _ (views_respelled _ _ respelled)
  obtain ⟨d, after, ran, ends⟩ := run_build_error classes ss c clash
  obtain ⟨e, last, ran_, ends_⟩ := run_build_error classes ts c (same ▸ clash)
  have both := takesAlike_linkSchemas placed classes ss ts respelled 0 empty empty rfl
    (c.enter "class_relationships") [] []
  rw [Context.record_nil, ends, ends_] at both
  obtain rfl := Except.error.inj both
  exact ⟨d, after, last, ran, ran_⟩

end Links

end PackSpec
