import PackSpec.Proofs.Build.Modes

set_option autoImplicit false

namespace PackSpec

namespace Build

variable {α β : Type}

/-- Some strict run of the build gives the value. -/
def Gives (b : Build α) (a : α) : Prop :=
  ∃ c after, c.diagnostics.mode = .strict ∧ b.run c = (.ok a, after)

theorem gives_pure {a x : α} (given_ : Gives (pure a : Build α) x) : x = a := by
  obtain ⟨c, after, _, done⟩ := given_
  exact (Except.ok.inj (Prod.mk.inj done).1).symm

theorem gives_bind {b : Build α} {f : α → Build β} {x : β} (composed : Composed true b)
    (given_ : Gives (b >>= f) x) : ∃ a, Gives b a ∧ Gives (f a) x := by
  obtain ⟨c, after, strict, done⟩ := given_
  have framed := framed_run composed c
  rw [run_bind] at done
  cases ran : b.run c with
  | mk result last =>
    rw [ran] at done framed
    cases result with
    | error d => simp at done
    | ok a => exact ⟨a, ⟨c, last, strict, ran⟩, last, after, framed.mode.trans strict, done⟩

theorem gives_map {b : Build α} {f : α → β} {x : β} (composed : Composed true b)
    (given_ : Gives (do return f (← b)) x) : ∃ a, Gives b a ∧ x = f a := by
  obtain ⟨a, first, next⟩ := gives_bind composed given_
  exact ⟨a, first, gives_pure next⟩

theorem gives_within {b : Build α} {segment : String} {a : α} (given_ : Gives (within segment b) a) :
    Gives b a := by
  obtain ⟨c, after, strict, done⟩ := given_
  rw [run_within] at done
  exact ⟨c.enter segment, _, strict, Prod.ext (Prod.mk.inj done).1 rfl⟩

theorem gives_asking {f : Bool → String → Build α} {a : α} (given_ : Gives (asking f) a) :
    ∃ keeps ns, Gives (f keeps ns) a := by
  obtain ⟨c, after, strict, done⟩ := given_
  exact ⟨c.keepsDefaults, c.ns, c, after, strict, done⟩

theorem gives_ofExcept {r : Except Problem α} {a : α} (given_ : Gives (ofExcept r) a) :
    r = .ok a := by
  obtain ⟨c, after, _, done⟩ := given_
  cases r with
  | error e => simp [ofExcept, run_abort] at done
  | ok x => exact congrArg Except.ok (Except.ok.inj (Prod.mk.inj done).1)

theorem not_gives_report {e : Problem} {u : Unit} : ¬ Gives (report e) u := by
  rintro ⟨c, after, strict, done⟩
  rw [run_report_strict e c strict] at done
  cases done

theorem under_of_mode (c : Context) (m : Mode) (mode : c.diagnostics.mode = m) : c.under m = c := by
  rw [Context.under, ← mode]

theorem warnings_of_strict {b : Build α} (composed : Composed true b) (a : α) (c after : Context)
    (strict : c.diagnostics.mode = .strict) (done : b.run c = (.ok a, after)) :
    ∃ ds, after.diagnostics.items = c.diagnostics.items ++ ds ∧ ∀ d ∈ ds, d.isWarning = true := by
  have agree := agrees_run composed c
  rw [under_of_mode c .strict strict, done] at agree
  generalize b.run (c.under .lenient) = lenient at agree
  cases agree with
  | same _ last new warnings recorded => exact ⟨new, recorded, warnings⟩

theorem gives_recover {b : Build α} {found : α → Build β} {dropped : Build β} {x : β}
    (composed : Composed true b) (given_ : Gives (recover b found dropped) x) :
    ∃ a, Gives b a ∧ Gives (found a) x := by
  obtain ⟨c, after, strict, done⟩ := given_
  have framed := framed_run composed c
  have agree := agrees_run composed c
  rw [under_of_mode c .strict strict] at agree
  rw [run_recover] at done
  cases ran : b.run c with
  | mk result last =>
    rw [ran] at done framed agree
    cases result with
    | ok a => exact ⟨a, ⟨c, last, strict, ran⟩, last, after, framed.mode.trans strict, done⟩
    | error d =>
      -- The part ended with an error, and so does the whole.
      generalize b.run (c.under .lenient) = lenient at agree
      cases agree with
      | stopped _ _ _ _ _ _ _ isError mode _ _ =>
        dsimp only at done
        rw [run_handle_strict d last mode isError] at done
        simp at done

end Build

end PackSpec
