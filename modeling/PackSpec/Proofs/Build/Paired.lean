import PackSpec.Proofs.Build.Composed

set_option autoImplicit false

namespace PackSpec

def Diagnostics.takes (s : Diagnostics) (d : Diagnostic) : Bool :=
  d.isWarning || (!s.isStrict && d.error.isRecoverable)

namespace Build

variable {α β γ δ : Type}

theorem run_handle_takes (d : Diagnostic) (c : Context) :
    (handle d).run c =
      if c.diagnostics.takes d then (.ok (), { c with diagnostics := c.diagnostics.push d })
      else (.error d, c) := by
  rw [run_handle, Diagnostics.handle, Diagnostics.takes]
  cases d.isWarning <;> cases c.diagnostics.isStrict <;> cases d.error.isRecoverable <;> rfl

structure Alike (ns : String) (c c' : Context) : Prop where
  here : c.ns = ns
  there : c'.ns = ns
  mode : c'.diagnostics.mode = c.diagnostics.mode
  index : c'.diagnostics.index = c.diagnostics.index
  location : c'.location = c.location
  keeps : c.keepsDefaults = true
  drops : c'.keepsDefaults = false

namespace Alike

variable {ns : String} {c c' : Context}

theorem located (alike : Alike ns c c') (e : Problem) :
    (⟨.error, c'.diagnostics.locate c'.location, e⟩ : Diagnostic) =
      ⟨.error, c.diagnostics.locate c.location, e⟩ := by
  rw [alike.location, Diagnostics.locate, Diagnostics.locate, alike.index]

theorem takes (alike : Alike ns c c') (d : Diagnostic) :
    c'.diagnostics.takes d = c.diagnostics.takes d := by
  rw [Diagnostics.takes, Diagnostics.takes, Diagnostics.isStrict, Diagnostics.isStrict, alike.mode]

theorem pushed (alike : Alike ns c c') (d : Diagnostic) :
    Alike ns { c with diagnostics := c.diagnostics.push d }
      { c' with diagnostics := c'.diagnostics.push d } :=
  ⟨alike.here, alike.there, alike.mode, alike.index, alike.location, alike.keeps, alike.drops⟩

theorem enter (alike : Alike ns c c') (segment : String) :
    Alike ns (c.enter segment) (c'.enter segment) :=
  ⟨alike.here, alike.there, alike.mode, alike.index, by simp [Context.enter, alike.location],
    alike.keeps, alike.drops⟩

theorem leave (alike : Alike ns c c') : Alike ns c.leave c'.leave :=
  ⟨alike.here, alike.there, alike.mode, alike.index, by simp [Context.leave, alike.location],
    alike.keeps, alike.drops⟩

theorem ahead (alike : Alike ns c c') {after : Context} (framed : Framed true c after)
    (here : after.ns = ns) : Alike ns after c' :=
  ⟨here, alike.there, alike.mode.trans framed.mode.symm, alike.index.trans framed.index.symm,
    alike.location.trans framed.location.symm, framed.keepsDefaults.trans alike.keeps, alike.drops⟩

end Alike

/-- What the second run has come to where the first one came to `ran`. -/
def Followed (ns : String) (R : α → β → Prop) (ran' : Except Diagnostic β × Context) :
    Except Diagnostic α × Context → Prop
  | (.ok a, after) => ∃ a' after', ran' = (.ok a', after') ∧ R a a' ∧ Alike ns after after'
  | (.error d, after) => after.diagnostics.takes d = true →
    ∃ after', ran' = (.error d, after') ∧ Alike ns after after'

def Follows (ns : String) (R : α → β → Prop) (b : Build α) (b' : Build β) : Prop :=
  ∀ c c', Alike ns c c' → Followed ns R (b'.run c') (b.run c)

variable {ns : String}

theorem follows_pure {R : α → β → Prop} {a : α} {a' : β} (related : R a a') :
    Follows ns R (pure a : Build α) (pure a') :=
  fun _ c' alike => ⟨a', c', rfl, related, alike⟩

theorem Follows.past {R : α → β → Prop} {b : Build α} {b' : Build β} {f : α → Build γ}
    {c c' last : Context} {x : γ} (first : Follows ns R b b') (alike : Alike ns c c')
    (done : (b >>= f).run c = (.ok x, last)) :
    ∃ a a' after after', R a a' ∧ Alike ns after after' ∧ b.run c = (.ok a, after) ∧
      (f a).run after = (.ok x, last) ∧ b'.run c' = (.ok a', after') := by
  have ran := first c c' alike
  rw [run_bind] at done
  generalize b.run c = result at ran done ⊢
  rcases result with ⟨d | a, after⟩
  · simp at done
  · obtain ⟨a', after', run, related, alike'⟩ := ran
    exact ⟨a, a', after, after', related, alike', rfl, done, run⟩

theorem follows_bind {b : Build α} {b' : Build β} {f : α → Build γ} {f' : β → Build δ}
    {S : γ → δ → Prop} (R : α → β → Prop) (first : Follows ns R b b')
    (next : ∀ a a', R a a' → Follows ns S (f a) (f' a')) :
    Follows ns S (b >>= f) (b' >>= f') := by
  intro c c' alike
  have ran := first c c' alike
  rw [run_bind, run_bind]
  generalize b.run c = result at ran ⊢
  rcases result with ⟨d | a, after⟩
  · intro passed
    obtain ⟨after', run, alike'⟩ := ran passed
    rw [run]
    exact ⟨after', rfl, alike'⟩
  · obtain ⟨a', after', run, related, alike'⟩ := ran
    rw [run]
    exact next a a' related after after' alike'

theorem follows_within {R : α → β → Prop} {b : Build α} {b' : Build β} (segment : String)
    (inside : Follows ns R b b') : Follows ns R (within segment b) (within segment b') := by
  intro c c' alike
  have ran := inside _ _ (alike.enter segment)
  rw [run_within, run_within]
  generalize b.run (c.enter segment) = result at ran ⊢
  rcases result with ⟨d | a, after⟩
  · intro passed
    obtain ⟨after', run, alike'⟩ := ran passed
    rw [run]
    exact ⟨after'.leave, rfl, alike'.leave⟩
  · obtain ⟨a', after', run, related, alike'⟩ := ran
    rw [run]
    exact ⟨a', after'.leave, rfl, related, alike'.leave⟩

theorem follows_handle (d : Diagnostic) :
    Follows ns (fun _ _ => True) (handle d) (handle d) := by
  intro c c' alike
  rw [run_handle_takes, run_handle_takes, alike.takes]
  split
  · exact ⟨(), _, rfl, trivial, alike.pushed d⟩
  · exact fun _ => ⟨c', rfl, alike⟩

theorem follows_report (e : Problem) :
    Follows ns (fun _ _ => True) (report e) (report e) := by
  intro c c' alike
  have handled (c : Context) :
      (report e).run c = (handle ⟨.error, c.diagnostics.locate c.location, e⟩).run c := by
    rw [run_report, run_handle]
    rfl
  rw [handled, handled, alike.located]
  exact follows_handle _ c c' alike

theorem follows_ofExcept {R : α → β → Prop} (r : Except Problem α) (r' : Except Problem β)
    (fine : ∀ a, r = .ok a → ∃ a', r' = .ok a' ∧ R a a')
    (bad : ∀ e, r = .error e → r' = .error e) :
    Follows ns R (ofExcept r) (ofExcept r') := by
  cases r with
  | ok a =>
    obtain ⟨a', same, related⟩ := fine a rfl
    rw [same]
    exact follows_pure related
  | error e =>
    rw [bad e rfl]
    intro c c' alike
    have run (c : Context) {ε : Type} : (ofExcept (.error e) : Build ε).run c =
        (.error ⟨.error, c.diagnostics.locate c.location, e⟩, c) := rfl
    rw [run, run, alike.located]
    exact fun _ => ⟨c', rfl, alike⟩

theorem follows_asking {R : α → β → Prop} {f : Bool → String → Build α}
    {f' : Bool → String → Build β} (answered : Follows ns R (f true ns) (f' false ns)) :
    Follows ns R (asking f) (asking f') := by
  intro c c' alike
  rw [run_asking, run_asking, alike.here, alike.there, alike.keeps, alike.drops]
  exact answered c c' alike

theorem follows_recover {R : α → β → Prop} {S : γ → δ → Prop} {b : Build α} {b' : Build β}
    {found : α → Build γ} {found' : β → Build δ} {dropped : Build γ} {dropped' : Build δ}
    (tried : Follows ns R b b') (next : ∀ a a', R a a' → Follows ns S (found a) (found' a'))
    (without : Follows ns S dropped dropped') :
    Follows ns S (recover b found dropped) (recover b' found' dropped') := by
  intro c c' alike
  have ran := tried c c' alike
  rw [run_recover, run_recover]
  generalize b.run c = result at ran ⊢
  rcases result with ⟨d | a, after⟩
  · dsimp only
    rw [run_handle_takes]
    -- A problem that is passed over here is the other run's problem too.
    by_cases passed : after.diagnostics.takes d = true
    · obtain ⟨after', run, alike'⟩ := ran passed
      rw [run]
      dsimp only
      rw [run_handle_takes, alike'.takes, if_pos passed, if_pos passed]
      exact without _ _ (alike'.pushed d)
    · rw [if_neg passed]
      exact fun passed_ => absurd passed_ passed
  · obtain ⟨a', after', run, related, alike'⟩ := ran
    rw [run]
    exact next a a' related after after' alike'

theorem follows_recover_left {R : α → β → Prop} {S : γ → δ → Prop} {b : Build α} {other : Build β}
    {found : α → Build γ} {dropped : Build γ} {b' : Build δ} (composed : Composed true b)
    (tried : Follows ns R b other) (next : ∀ a, Follows ns S (found a) b')
    (without : Follows ns S dropped b') : Follows ns S (recover b found dropped) b' := by
  intro c c' alike
  have ran := tried c c' alike
  have framed := framed_run composed c
  rw [run_recover]
  generalize b.run c = result at ran framed ⊢
  rcases result with ⟨d | a, after⟩
  · dsimp only
    rw [run_handle_takes]
    by_cases passed : after.diagnostics.takes d = true
    · obtain ⟨_, _, alike'⟩ := ran passed
      rw [if_pos passed]
      exact without _ c' (alike.ahead (framed.trans (framed_push true after d)) alike'.here)
    · rw [if_neg passed]
      exact fun passed_ => absurd passed_ passed
  · obtain ⟨_, _, _, _, alike'⟩ := ran
    exact next a after c' (alike.ahead framed alike'.here)

end Build

end PackSpec
