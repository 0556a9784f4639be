import PackSpec.Proofs.Build.Composed

set_option autoImplicit false

namespace PackSpec

def Context.under (m : Mode) (c : Context) : Context :=
  { c with diagnostics := { c.diagnostics with mode := m } }

namespace Build

variable {α β : Type}

def ended : Except Diagnostic α → List Diagnostic
  | .ok _ => []
  | .error d => [d]

/-- A strict run and a lenient run from the same place. Before an error they record warnings only. -/
inductive Agree (c : Context) :
    Except Diagnostic α × Context → Except Diagnostic α × Context → Prop where
  | same (a : α) (after : Context) (new : List Diagnostic)
      (warnings : ∀ d ∈ new, d.isWarning = true)
      (recorded : after.diagnostics.items = c.diagnostics.items ++ new) :
      Agree c (.ok a, after.under .strict) (.ok a, after.under .lenient)
  | stopped (d : Diagnostic) (strict lenient : Context) (r : Except Diagnostic α)
      (new rest : List Diagnostic) (warnings : ∀ d ∈ new, d.isWarning = true)
      (isError : d.isWarning = false) (mode : strict.diagnostics.mode = .strict)
      (recorded : strict.diagnostics.items = c.diagnostics.items ++ new)
      (passed : lenient.diagnostics.items ++ ended r =
        c.diagnostics.items ++ new ++ d :: rest) :
      Agree c (.error d, strict) (r, lenient)

def Agrees (b : Build α) : Prop :=
  ∀ c : Context, Agree c (b.run (c.under .strict)) (b.run (c.under .lenient))

theorem under_items (m : Mode) (c : Context) :
    (c.under m).diagnostics.items = c.diagnostics.items := rfl

theorem Agree.after {c after : Context} {new : List Diagnostic}
    (warnings : ∀ d ∈ new, d.isWarning = true)
    (recorded : after.diagnostics.items = c.diagnostics.items ++ new)
    {s l : Except Diagnostic α × Context} (h : Agree after s l) : Agree c s l := by
  cases h with
  | same a last more more_ recorded_ =>
    refine .same a last (new ++ more) ?_ (by rw [recorded_, recorded, List.append_assoc])
    intro d member
    exact (List.mem_append.1 member).elim (warnings d) (more_ d)
  | stopped d strict lenient r more rest more_ isError mode recorded_ passed =>
    refine .stopped d strict lenient r (new ++ more) rest ?_ isError mode
      (by rw [recorded_, recorded, List.append_assoc])
      (by rw [passed, recorded, List.append_assoc c.diagnostics.items])
    intro d member
    exact (List.mem_append.1 member).elim (warnings d) (more_ d)

theorem Agree.here (c : Context) (d : Diagnostic) (strict lenient : Context)
    (r : Except Diagnostic α) (isError : d.isWarning = false)
    (mode : strict.diagnostics.mode = .strict)
    (recorded : strict.diagnostics.items = c.diagnostics.items)
    (passed : lenient.diagnostics.items ++ ended r = c.diagnostics.items ++ [d]) :
    Agree c (.error d, strict) (r, lenient) :=
  .stopped d strict lenient r [] [] (by simp) isError mode (by simp [recorded]) (by simp [passed])

theorem passed_on {c lenient last : Context} {new rest : List Diagnostic} {d : Diagnostic}
    {a : α} (r : Except Diagnostic β)
    (passed : lenient.diagnostics.items ++ ended (.ok a : Except Diagnostic α) =
      c.diagnostics.items ++ new ++ d :: rest)
    (later : lenient.diagnostics.items <+: last.diagnostics.items) :
    ∃ rest, last.diagnostics.items ++ ended r = c.diagnostics.items ++ new ++ d :: rest := by
  obtain ⟨more, same⟩ := later
  have lenient_ : lenient.diagnostics.items = c.diagnostics.items ++ new ++ d :: rest := by
    simpa [ended] using passed
  exact ⟨rest ++ more ++ ended r, by rw [← same, lenient_]; simp⟩

theorem agrees_bind (b : Build α) (f : α → Build β) (first : Agrees b)
    (next : ∀ a, Agrees (f a)) (extends_ : ∀ a c, Framed true c ((f a).run c).2) :
    Agrees (b >>= f) := by
  intro c
  rw [run_bind, run_bind]
  have h := first c
  generalize b.run (c.under .strict) = strict at h ⊢
  generalize b.run (c.under .lenient) = lenient at h ⊢
  cases h with
  | same a after new warnings recorded => exact (next a after).after warnings recorded
  | stopped d s l r new rest warnings isError mode recorded passed =>
    cases r with
    | error e => exact .stopped d s l (.error e) new rest warnings isError mode recorded passed
    | ok a =>
      obtain ⟨rest_, passed_⟩ := passed_on ((f a).run l).1 passed (extends_ a l).items
      exact .stopped d s _ _ new rest_ warnings isError mode recorded passed_

theorem run_handle_strict (d : Diagnostic) (c : Context) (strict : c.diagnostics.mode = .strict)
    (isError : d.isWarning = false) : (handle d).run c = (.error d, c) := by
  rw [run_handle]
  simp [Diagnostics.handle, isError, Diagnostics.isStrict, strict]

theorem agrees_recover (b : Build α) (found : α → Build β) (dropped : Build β) (tried : Agrees b)
    (next : ∀ a, Agrees (found a)) (extends_ : ∀ a c, Framed true c ((found a).run c).2)
    (without : ∀ c, Framed true c (dropped.run c).2) : Agrees (recover b found dropped) := by
  intro c
  rw [run_recover, run_recover]
  have h := tried c
  generalize b.run (c.under .strict) = strict at h ⊢
  generalize b.run (c.under .lenient) = lenient at h ⊢
  -- Up to the first error both runs are the same; from there on the strict one has ended.
  cases h with
  | same a after new warnings recorded => exact (next a after).after warnings recorded
  | stopped d s l r new rest warnings isError mode recorded passed =>
    dsimp only
    rw [run_handle_strict d s mode isError]
    dsimp only
    cases r with
    | ok a =>
      obtain ⟨rest_, passed_⟩ := passed_on ((found a).run l).1 passed (extends_ a l).items
      exact .stopped d s _ _ new rest_ warnings isError mode recorded passed_
    | error e =>
      -- The lenient run records its own last diagnostic and goes on, or ends with it here too.
      dsimp only
      rw [run_handle]
      rcases handle_cases l.diagnostics e with taken | given_
      · rw [taken]
        dsimp only
        have recorded_ : ({ l with diagnostics := l.diagnostics.push e }).diagnostics.items ++
            ended (.ok () : Except Diagnostic Unit) = c.diagnostics.items ++ new ++ d :: rest := by
          simpa [Diagnostics.push, ended] using passed
        obtain ⟨rest_, passed_⟩ := passed_on
          (dropped.run { l with diagnostics := l.diagnostics.push e }).1 recorded_
          (without _).items
        exact .stopped d s _ _ new rest_ warnings isError mode recorded passed_
      · rw [given_]
        exact .stopped d s _ (.error e) new rest warnings isError mode recorded passed

theorem agree_report (c : Context) (d : Diagnostic) (isError : d.isWarning = false)
    (lenient : Except Diagnostic Unit × Context)
    (cases_ : lenient = (.ok (), { c.under .lenient with
        diagnostics := (c.under .lenient).diagnostics.push d }) ∨
      lenient = (.error d, c.under .lenient)) :
    Agree c (.error d, c.under .strict) lenient := by
  rcases cases_ with rfl | rfl
  · exact .here c d _ _ _ isError rfl rfl (by simp [ended, Diagnostics.push, under_items])
  · exact .here c d _ _ _ isError rfl rfl (by simp [ended, under_items])

theorem agrees_report (e : Problem) : Agrees (report e) := by
  intro c
  let d : Diagnostic := ⟨.error, c.diagnostics.locate c.location, e⟩
  have strict : (report e).run (c.under .strict) = (.error d, c.under .strict) := rfl
  have sink : (c.under .lenient).diagnostics.report (c.under .lenient).location e =
      (c.under .lenient).diagnostics.handle d := rfl
  rw [strict, run_report, sink]
  refine agree_report c d rfl _ ?_
  rcases handle_cases (c.under .lenient).diagnostics d with same | same <;> rw [same]
  · exact .inl rfl
  · exact .inr rfl

theorem agrees_reportRelationship (e : Problem) : Agrees (reportRelationship e) := by
  intro c
  let d : Diagnostic := ⟨.error, c.diagnostics.locate c.location, e⟩
  have strict : (reportRelationship e).run (c.under .strict) = (.error d, c.under .strict) := by
    rw [run_reportRelationship]
    simp [Diagnostics.reportRelationship, Diagnostics.handle, Context.under, Diagnostics.isStrict,
      Diagnostic.isWarning, Diagnostics.locate, d]
  rw [strict, run_reportRelationship]
  refine agree_report c d rfl _ ?_
  rcases reportRelationship_cases (c.under .lenient).diagnostics (c.under .lenient).location e
    with same | same <;> rw [same]
  · exact .inl rfl
  · exact .inr rfl

theorem agrees_within (segment : String) (b : Build α) (inside : Agrees b) :
    Agrees (within segment b) := by
  intro c
  have h := inside (c.enter segment)
  have enter (m : Mode) : (c.under m).enter segment = (c.enter segment).under m := rfl
  rw [run_within, run_within, enter, enter]
  generalize b.run ((c.enter segment).under .strict) = strict at h ⊢
  generalize b.run ((c.enter segment).under .lenient) = lenient at h ⊢
  cases h with
  | same a after new warnings recorded => exact .same a after.leave new warnings recorded
  | stopped d s l r new rest warnings isError mode recorded passed =>
    exact .stopped d s.leave l.leave r new rest warnings isError mode recorded passed

theorem agrees_run {renames : Bool} {b : Build α} (composed : Composed renames b) : Agrees b := by
  induction composed with
  | pure a => exact fun c => .same a c [] (by simp) (by simp)
  | bind b f _ rest first next =>
    exact agrees_bind b f first next fun a c => (framed_run (rest a) c).any
  | report e => exact agrees_report e
  | reportRelationship e => exact agrees_reportRelationship e
  | warn e =>
    intro c
    let d : Diagnostic := ⟨.warning, c.diagnostics.locate c.location, e⟩
    exact .same () { c with diagnostics := c.diagnostics.push d } [d]
      (by simp [d, Diagnostic.isWarning]) rfl
  | abort e =>
    intro c
    let d : Diagnostic := ⟨.error, c.diagnostics.locate c.location, e⟩
    exact .here c d _ _ (.error d) rfl rfl rfl rfl
  | within segment b _ inside => exact agrees_within segment b inside
  | recover b found dropped _ rest without_ tried next _ =>
    exact agrees_recover b found dropped tried next (fun a c => (framed_run (rest a) c).any)
      fun c => (framed_run without_ c).any
  | asking f _ answered => exact fun c => answered c.keepsDefaults c.ns c
  | rename ns allowed => exact fun c => .same () { c with ns } [] (by simp) (by simp)

end Build

end PackSpec
