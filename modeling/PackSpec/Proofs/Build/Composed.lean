import PackSpec.Build

set_option autoImplicit false

namespace PackSpec

namespace Build

def recover {α β : Type} (b : Build α) (found : α → Build β) (dropped : Build β) : Build β := do
  match ← attempt b with
  | .ok a => found a
  | .error d =>
    handle d
    dropped

def rename (ns : String) : Build Unit := modify fun c => { c with ns }

def asking {α : Type} (f : Bool → String → Build α) : Build α := do
  let c ← get
  f c.keepsDefaults c.ns

/-- Only builds that may rename give the namespace another name. -/
inductive Composed (renames : Bool) : {α : Type} → Build α → Prop where
  | pure {α : Type} (a : α) : Composed renames (pure a : Build α)
  | bind {α β : Type} (b : Build α) (f : α → Build β) (first : Composed renames b)
      (next : ∀ a, Composed renames (f a)) : Composed renames (b >>= f)
  | report (e : Problem) : Composed renames (report e)
  | reportRelationship (e : Problem) : Composed renames (reportRelationship e)
  | warn (e : Problem) : Composed renames (warn e)
  | abort {α : Type} (e : Problem) : Composed renames (abort e : Build α)
  | within {α : Type} (segment : String) (b : Build α) (inside : Composed renames b) :
      Composed renames (within segment b)
  | recover {α β : Type} (b : Build α) (found : α → Build β) (dropped : Build β)
      (tried : Composed renames b) (next : ∀ a, Composed renames (found a))
      (without : Composed renames dropped) : Composed renames (recover b found dropped)
  | asking {α : Type} (f : Bool → String → Build α)
      (answered : ∀ keeps ns, Composed renames (f keeps ns)) : Composed renames (asking f)
  | rename (ns : String) (allowed : renames = true) : Composed renames (rename ns)

theorem Composed.ofExcept {α : Type} (renames : Bool) (r : Except Problem α) :
    Composed renames (ofExcept r) := by
  cases r with
  | ok a => exact .pure a
  | error e => exact .abort e

theorem Composed.any {α : Type} {b : Build α} (composed : Composed false b) :
    Composed true b := by
  induction composed with
  | pure a => exact .pure a
  | bind b f _ _ first next => exact .bind b f first next
  | report e => exact .report e
  | reportRelationship e => exact .reportRelationship e
  | warn e => exact .warn e
  | abort e => exact .abort e
  | within segment b _ inside => exact .within segment b inside
  | recover b found dropped _ _ _ tried next without =>
    exact .recover b found dropped tried next without
  | asking f _ answered => exact .asking f answered
  | rename ns _ => exact .rename ns rfl

theorem run_asking {α : Type} (f : Bool → String → Build α) (c : Context) :
    (asking f).run c = (f c.keepsDefaults c.ns).run c := rfl

theorem run_handle (d : Diagnostic) (c : Context) :
    (handle d).run c =
      match c.diagnostics.handle d with
      | (s, none) => (.ok (), { c with diagnostics := s })
      | (s, some d) => (.error d, { c with diagnostics := s }) := by
  change (match c.diagnostics.handle d with
    | (s, none) => (set { c with diagnostics := s } : Build Unit)
    | (s, some d) => do
      set { c with diagnostics := s }
      throw d).run c = _
  rcases c.diagnostics.handle d with ⟨_, _ | _⟩ <;> rfl

theorem run_report_strict (e : Problem) (c : Context) (strict : c.diagnostics.mode = .strict) :
    (report e).run c = (.error ⟨.error, c.diagnostics.locate c.location, e⟩, c) := by
  rw [run_report]
  simp [Diagnostics.report, Diagnostics.handle, Diagnostics.isStrict, Diagnostic.isWarning, strict]

theorem run_reportRelationship (e : Problem) (c : Context) :
    (reportRelationship e).run c =
      match c.diagnostics.reportRelationship c.location e with
      | (s, none) => (.ok (), { c with diagnostics := s })
      | (s, some d) => (.error d, { c with diagnostics := s }) := by
  change (match c.diagnostics.reportRelationship c.location e with
    | (s, none) => (set { c with diagnostics := s } : Build Unit)
    | (s, some d) => do
      set { c with diagnostics := s }
      throw d).run c = _
  rcases c.diagnostics.reportRelationship c.location e with ⟨_, _ | _⟩ <;> rfl

theorem run_recover {α β : Type} (b : Build α) (found : α → Build β) (dropped : Build β)
    (c : Context) :
    (recover b found dropped).run c =
      match b.run c with
      | (.ok a, c) => (found a).run c
      | (.error d, c) =>
        match (handle d).run c with
        | (.ok _, c) => dropped.run c
        | (.error d, c) => (.error d, c) := by
  rw [recover, run_bind, run_attempt]
  rcases b.run c with ⟨d | a, after⟩
  · dsimp only
    rw [run_bind]
    rcases (handle d).run after with ⟨_ | _, last⟩ <;> rfl
  · rfl

theorem handle_cases (s : Diagnostics) (d : Diagnostic) :
    s.handle d = (s.push d, none) ∨ s.handle d = (s, some d) := by
  unfold Diagnostics.handle
  split
  · exact .inl rfl
  · split
    · exact .inr rfl
    · exact .inl rfl

theorem reportRelationship_cases (s : Diagnostics) (l : Location) (e : Problem) :
    s.reportRelationship l e = (s.push ⟨.error, s.locate l, e⟩, none) ∨
      s.reportRelationship l e = (s, some ⟨.error, s.locate l, e⟩) := by
  unfold Diagnostics.reportRelationship
  dsimp only
  split
  · exact .inl rfl
  · exact handle_cases _ _

/-- What a build leaves as it was. -/
structure Framed (renames : Bool) (before after : Context) : Prop where
  mode : after.diagnostics.mode = before.diagnostics.mode
  index : after.diagnostics.index = before.diagnostics.index
  location : after.location = before.location
  keepsDefaults : after.keepsDefaults = before.keepsDefaults
  items : before.diagnostics.items <+: after.diagnostics.items
  ns : renames = false → after.ns = before.ns

theorem Framed.refl (renames : Bool) (c : Context) : Framed renames c c :=
  ⟨rfl, rfl, rfl, rfl, List.prefix_rfl, fun _ => rfl⟩

theorem Framed.trans {renames : Bool} {a b c : Context} (first : Framed renames a b)
    (next : Framed renames b c) : Framed renames a c :=
  ⟨next.mode.trans first.mode, next.index.trans first.index, next.location.trans first.location,
    next.keepsDefaults.trans first.keepsDefaults, first.items.trans next.items,
    fun fixed => (next.ns fixed).trans (first.ns fixed)⟩

theorem Framed.any {renames : Bool} {a b : Context} (h : Framed renames a b) : Framed true a b :=
  ⟨h.mode, h.index, h.location, h.keepsDefaults, h.items, fun fixed => by simp at fixed⟩

theorem framed_push (renames : Bool) (c : Context) (d : Diagnostic) :
    Framed renames c { c with diagnostics := c.diagnostics.push d } :=
  ⟨rfl, rfl, rfl, rfl, List.prefix_append _ _, fun _ => rfl⟩

theorem framed_handle (renames : Bool) (d : Diagnostic) (c : Context) :
    Framed renames c ((handle d).run c).2 := by
  rw [run_handle]
  rcases handle_cases c.diagnostics d with same | same <;> rw [same]
  · exact framed_push renames c d
  · exact Framed.refl renames c

theorem framed_run {α : Type} {renames : Bool} {b : Build α} (composed : Composed renames b)
    (c : Context) : Framed renames c (b.run c).2 := by
  -- By induction on how the build is composed: each part keeps the place and only adds diagnostics.
  induction composed generalizing c with
  | pure a => exact Framed.refl renames c
  | bind b f _ _ first next =>
    have h := first c
    rw [run_bind]
    generalize b.run c = ran at h ⊢
    rcases ran with ⟨_ | a, after⟩
    · exact h
    · exact h.trans (next a after)
  | report e =>
    rw [run_report]
    rcases handle_cases c.diagnostics ⟨.error, c.diagnostics.locate c.location, e⟩ with same | same
      <;> rw [Diagnostics.report, same]
    · exact framed_push renames c _
    · exact Framed.refl renames c
  | reportRelationship e =>
    rw [run_reportRelationship]
    rcases reportRelationship_cases c.diagnostics c.location e with same | same <;> rw [same]
    · exact framed_push renames c _
    · exact Framed.refl renames c
  | warn e => exact framed_push renames c _
  | abort e => exact Framed.refl renames c
  | within segment b _ inside =>
    have h := inside (c.enter segment)
    rw [run_within]
    refine ⟨h.mode, h.index, ?_, h.keepsDefaults, h.items, h.ns⟩
    have left : (b.run (c.enter segment)).2.leave.location = (c.enter segment).leave.location := by
      simp only [Context.leave, h.location]
    exact left.trans (congrArg Context.location (Context.leave_enter c segment))
  | recover b found dropped _ _ _ tried next without =>
    have h := tried c
    rw [run_recover]
    generalize b.run c = ran at h ⊢
    rcases ran with ⟨d | a, after⟩
    · have handled := framed_handle renames d after
      dsimp only
      generalize (handle d).run after = handled_ at handled ⊢
      rcases handled_ with ⟨_ | _, last⟩
      · exact h.trans handled
      · exact (h.trans handled).trans (without last)
    · exact h.trans (next a after)
  | asking f _ answered => exact answered c.keepsDefaults c.ns c
  | rename ns allowed =>
    exact ⟨rfl, rfl, rfl, rfl, List.prefix_rfl, fun fixed => by simp [allowed] at fixed⟩

end Build

end PackSpec
