import PackSpec.Proofs.Build.Silent

set_option autoImplicit false

namespace PackSpec

namespace Build

variable {α β : Type}

def Outcome (refused : Diagnostic → Prop) (c : Context) (ran : Except Diagnostic α × Context) :
    Option α → Prop
  | some a => ran = (.ok a, c)
  | none => ∃ d, refused d ∧ ran = (.error d, c)

def ComesTo (refused : Diagnostic → Prop) (b : Build α) (r : Option α) : Prop :=
  ∀ c, c.diagnostics.mode = .strict → c.keepsDefaults = false → Outcome refused c (b.run c) r

variable {refused : Diagnostic → Prop}

theorem comesTo_pure (a : α) : ComesTo refused (pure a : Build α) (some a) := fun _ _ _ => rfl

theorem comesTo_of_yields {b : Build α} {a : α} (silent : Yields (· = false) b a) :
    ComesTo refused b (some a) := fun c _ drops => silent c drops

theorem comesTo_bind {b : Build α} {f : α → Build β} {r : Option α} {s : α → Option β}
    (first : ComesTo refused b r) (next : ∀ a, r = some a → ComesTo refused (f a) (s a)) :
    ComesTo refused (b >>= f) (r.bind s) := by
  intro c strict drops
  have ran := first c strict drops
  rw [run_bind]
  cases r with
  | none =>
    obtain ⟨d, bad, run⟩ := ran
    rw [run]
    exact ⟨d, bad, rfl⟩
  | some a =>
    have run : b.run c = (.ok a, c) := ran
    rw [run]
    exact next a rfl c strict drops

theorem comesTo_bind_map {γ : Type} {b : Build α} {f : α → Build β} {r : Option γ} {g : γ → α}
    {s : γ → Option β} (first : ComesTo refused b (r.map g))
    (next : ∀ x, r = some x → ComesTo refused (f (g x)) (s x)) :
    ComesTo refused (b >>= f) (r.bind s) := by
  cases r with
  | none => exact comesTo_bind (s := fun _ => none) first fun _ there => by simp at there
  | some x =>
    refine comesTo_bind (s := fun _ => s x) first fun a there => ?_
    rw [← Option.some.inj there]
    exact next x rfl

theorem comesTo_map {b : Build α} {f : α → β} {r : Option α} (first : ComesTo refused b r) :
    ComesTo refused (do return f (← b)) (r.map f) := by
  rw [Option.map_eq_bind]
  exact comesTo_bind first fun a _ => comesTo_pure (f a)

theorem comesTo_within (segment : String) {b : Build α} {r : Option α}
    (inside : ComesTo refused b r) : ComesTo refused (within segment b) r := by
  intro c strict drops
  have ran := inside (c.enter segment) strict drops
  rw [run_within]
  cases r with
  | none =>
    obtain ⟨d, bad, run⟩ := ran
    refine ⟨d, bad, ?_⟩
    rw [run, Context.leave_enter]
  | some a =>
    have run : b.run (c.enter segment) = (.ok a, c.enter segment) := ran
    rw [run, Context.leave_enter]
    rfl

theorem comesTo_report (e : Problem) (bad : ∀ l, refused ⟨.error, l, e⟩) :
    ComesTo refused (report e) none := by
  intro c strict _
  exact ⟨⟨.error, c.diagnostics.locate c.location, e⟩, bad _, run_report_strict e c strict⟩

theorem comesTo_ofExcept (r : Except Problem α) (bad : ∀ e l, r = .error e → refused ⟨.error, l, e⟩) :
    ComesTo refused (ofExcept r) r.toOption := by
  intro c _ _
  cases r with
  | ok a => rfl
  | error e => exact ⟨_, bad e _ rfl, rfl⟩

theorem comesTo_recover {b : Build α} {found : α → Build β} {dropped : Build β} {r : Option α}
    {s : α → Option β} (errors : ∀ d, refused d → d.isWarning = false)
    (tried : ComesTo refused b r) (next : ∀ a, ComesTo refused (found a) (s a)) :
    ComesTo refused (recover b found dropped) (r.bind s) := by
  -- In strict mode a refused part is not passed over: the whole is refused with it.
  intro c strict drops
  have ran := tried c strict drops
  rw [run_recover]
  cases r with
  | none =>
    obtain ⟨d, bad, run⟩ := ran
    refine ⟨d, bad, ?_⟩
    rw [run]
    dsimp only
    rw [run_handle]
    simp [Diagnostics.handle, errors d bad, Diagnostics.isStrict, strict]
  | some a =>
    have run : b.run c = (.ok a, c) := ran
    rw [run]
    exact next a c strict drops

theorem comesTo_asking {f : Bool → String → Build α} {r : Option α}
    (answered : ∀ ns, ComesTo refused (f false ns) r) : ComesTo refused (asking f) r := by
  intro c strict drops
  rw [run_asking, drops]
  exact answered c.ns c strict drops

end Build

end PackSpec
