import PackSpec.Proofs.Build.Gives
import PackSpec.Proofs.Build.Recorded

set_option autoImplicit false

namespace PackSpec

namespace Diagnostic

def Below (d : Diagnostic) (path : List String) : Prop :=
  ∃ segment rest, d.location.path = path ++ segment :: rest

theorem below_of_eq {d : Diagnostic} {path : List String} {segment : String}
    (stands : d.location.path = path ++ [segment]) : d.Below path :=
  ⟨segment, [], stands⟩

theorem Below.up {d : Diagnostic} {path : List String} {segment : String}
    (below : d.Below (path ++ [segment])) : d.Below path := by
  obtain ⟨next, rest, stands⟩ := below
  exact ⟨segment, next :: rest, by rw [stands, List.append_assoc]; rfl⟩

def errorsAt (path : List String) (ds : List Diagnostic) : List Diagnostic :=
  ds.filter fun d => d.isError && d.location.path == path

theorem errorsAt_append (path : List String) (ds es : List Diagnostic) :
    errorsAt path (ds ++ es) = errorsAt path ds ++ errorsAt path es := List.filter_append ..

theorem errorsAt_below (path : List String) (here there : String) (ds : List Diagnostic)
    (below : ∀ d ∈ ds, d.Below (path ++ [there])) : errorsAt (path ++ [here]) ds = [] := by
  refine List.filter_eq_nil_iff.2 fun d member => ?_
  obtain ⟨segment, rest, stands⟩ := below d member
  simp [stands]

theorem errorsAt_cons (path : List String) (here there : String) (d : Diagnostic)
    (ds : List Diagnostic) (level : d.level = .error) (stands : d.location.path = path ++ [there]) :
    errorsAt (path ++ [here]) (d :: ds) =
      if here = there then d :: errorsAt (path ++ [here]) ds else errorsAt (path ++ [here]) ds := by
  by_cases same : here = there
  · simp [errorsAt, isError, level, stands, same]
  · simp [errorsAt, stands, same, Ne.symm same]

end Diagnostic

namespace Build

variable {α β : Type}

/-- A lenient run records errors below its place only. It may end with an error that can be passed
over only if it has errors of its own, which stand at its place. -/
def Confined (own : Bool) (b : Build α) : Prop :=
  ∀ c, c.diagnostics.mode = .lenient →
    (∃ ds, (b.run c).2.diagnostics.items = c.diagnostics.items ++ ds ∧
      ∀ d ∈ ds, d.level = .error ∧ d.Below c.location.path) ∧
    ∀ d, (b.run c).1 = .error d → d.level = .error ∧
      (d.error.isRecoverable = true → own = true ∧ d.location.path = c.location.path)

variable {own : Bool}

theorem Confined.any {b : Build α} (confined : Confined false b) : Confined own b := by
  intro c lenient
  obtain ⟨recorded, ends⟩ := confined c lenient
  refine ⟨recorded, fun d ended => ⟨(ends d ended).1, fun recoverable => ?_⟩⟩
  exact absurd ((ends d ended).2 recoverable).1 (by simp)

theorem confined_pure (a : α) : Confined own (pure a : Build α) :=
  fun c _ => ⟨⟨[], by rw [run_pure, List.append_nil], by simp⟩, fun d ended => by simp [run_pure] at ended⟩

theorem confined_bind {b : Build α} {f : α → Build β} (composed : Composed true b)
    (first : Confined own b) (next : ∀ a, Confined own (f a)) : Confined own (b >>= f) := by
  intro c lenient
  have framed := framed_run composed c
  obtain ⟨⟨ds, items, below⟩, ends⟩ := first c lenient
  rw [run_bind]
  generalize b.run c = ran at framed items ends ⊢
  obtain ⟨_ | a, after⟩ := ran
  · exact ⟨⟨ds, items, below⟩, fun d ended => ends d (by rw [← Except.error.inj ended])⟩
  · obtain ⟨⟨es, items_, below_⟩, ends_⟩ := next a after (framed.mode.trans lenient)
    rw [framed.location] at below_ ends_
    refine ⟨⟨ds ++ es, ?_, fun d member => ?_⟩, ends_⟩
    · rw [items_, items, List.append_assoc]
    · exact (List.mem_append.1 member).elim (below d) (below_ d)

theorem confined_map {b : Build α} {f : α → β} (composed : Composed true b)
    (first : Confined own b) : Confined own (do return f (← b)) :=
  confined_bind composed first fun _ => confined_pure _

theorem confined_ofExcept (r : Except Problem α) : Confined true (ofExcept r) := by
  intro c lenient
  cases r with
  | ok a => exact confined_pure a c lenient
  | error e =>
    have ran : (ofExcept (.error e : Except Problem α)).run c =
        (.error ⟨.error, c.diagnostics.locate c.location, e⟩, c) := run_abort e c
    rw [ran]
    refine ⟨⟨[], by simp, by simp⟩, fun d ended => ?_⟩
    rw [← Except.error.inj ended]
    exact ⟨rfl, fun _ => ⟨rfl, Diagnostics.path_locate _ _⟩⟩

theorem confined_within {b : Build α} (segment : String) (inside : Confined false b) :
    Confined own (within segment b) := by
  intro c lenient
  obtain ⟨⟨ds, items, below⟩, ends⟩ := inside (c.enter segment) lenient
  rw [run_within]
  refine ⟨⟨ds, items, fun d member => ⟨(below d member).1, (below d member).2.up⟩⟩, ?_⟩
  refine fun d ended => ⟨(ends d ended).1, fun recoverable => ?_⟩
  exact absurd ((ends d ended).2 recoverable).1 (by simp)

theorem confined_report (segment : String) (e : Problem) (recoverable : e.isRecoverable = true) :
    Confined own (within segment (report e)) := by
  intro c lenient
  rw [run_within, run_report_record e (c.enter segment) lenient recoverable]
  refine ⟨⟨_, rfl, fun d member => ?_⟩, fun d ended => by simp at ended⟩
  rw [List.mem_singleton.1 member]
  exact ⟨rfl, Diagnostic.below_of_eq (Diagnostics.path_locate _ _)⟩

theorem confined_asking {f : Bool → String → Build α}
    (answered : ∀ keeps ns, Confined own (f keeps ns)) : Confined own (asking f) :=
  fun c lenient => answered c.keepsDefaults c.ns c lenient

theorem confined_rename (ns : String) : Confined own (rename ns) :=
  fun c _ => ⟨⟨[], (List.append_nil _).symm, by simp⟩, fun d ended => by cases ended⟩

theorem run_handle_lenient (d : Diagnostic) (c : Context) (lenient : c.diagnostics.mode = .lenient)
    (level : d.level = .error) :
    (handle d).run c =
      if d.error.isRecoverable then (.ok (), c.record [d]) else (.error d, c) := by
  rw [run_handle]
  cases recoverable : d.error.isRecoverable <;>
    simp [Diagnostics.handle, Diagnostic.isWarning, Diagnostics.isStrict, level, lenient,
      recoverable, Diagnostics.push, Context.record]

theorem confined_recover {b : Build α} {found : α → Build β} {dropped : Build β} (segment : String)
    (composed : Composed true b) (tried : Confined true b) (next : ∀ a, Confined own (found a))
    (without : Confined own dropped) : Confined own (recover (within segment b) found dropped) := by
  intro c lenient
  have framed := framed_run (Composed.within segment b composed) c
  obtain ⟨⟨ds, items, below⟩, ends⟩ := tried (c.enter segment) lenient
  have below_ : ∀ d ∈ ds, d.level = .error ∧ d.Below c.location.path :=
    fun d member => ⟨(below d member).1, (below d member).2.up⟩
  rw [run_recover]
  rw [run_within] at framed ⊢
  have items_ : (b.run (c.enter segment)).2.leave.diagnostics.items = c.diagnostics.items ++ ds := items
  generalize (b.run (c.enter segment)).1 = result at ends ⊢
  generalize (b.run (c.enter segment)).2.leave = after at framed items_ ⊢
  have lenient_ := framed.mode.trans lenient
  cases result with
  | ok a =>
    obtain ⟨⟨es, more, below'⟩, ends'⟩ := next a after lenient_
    rw [framed.location] at below' ends'
    refine ⟨⟨ds ++ es, by rw [more, items_, List.append_assoc], fun d member => ?_⟩, ends'⟩
    exact (List.mem_append.1 member).elim (below_ d) (below' d)
  | error d =>
    obtain ⟨level, stands⟩ := ends d rfl
    dsimp only
    rw [run_handle_lenient d after lenient_ level]
    by_cases recoverable : d.error.isRecoverable = true
    · rw [if_pos recoverable]
      obtain ⟨⟨es, more, below'⟩, ends'⟩ := without (after.record [d]) lenient_
      have place : (after.record [d]).location = c.location := framed.location
      rw [place] at below' ends'
      refine ⟨⟨ds ++ d :: es, ?_, fun e member => ?_⟩, ends'⟩
      · rw [more, Context.record, items_]
        simp
      · rcases List.mem_append.1 member with inside | here
        · exact below_ e inside
        · rcases List.mem_cons.1 here with rfl | later
          · exact ⟨level, Diagnostic.below_of_eq (stands recoverable).2⟩
          · exact below' e later
    · rw [if_neg recoverable]
      refine ⟨⟨ds, items_, below_⟩, fun e ended => ?_⟩
      obtain rfl := Except.error.inj ended
      exact ⟨level, fun recoverable_ => absurd recoverable_ recoverable⟩

theorem errors_of_confined {b : Build α} (composed : Composed true b) (confined : Confined own b)
    (a : α) (c after : Context) (done : b.run c = (.ok a, after)) :
    ∃ ds, after.diagnostics.items = c.diagnostics.items ++ ds ∧ ∀ d ∈ ds, d.level = .error := by
  cases mode : c.diagnostics.mode with
  | lenient =>
    obtain ⟨⟨ds, items, below⟩, -⟩ := confined c mode
    rw [done] at items
    exact ⟨ds, items, fun d member => (below d member).1⟩
  | strict =>
    -- The lenient run from here records the same.
    have agree := agrees_run composed c
    obtain ⟨⟨ds, items, below⟩, -⟩ := confined (c.under .lenient) rfl
    rw [under_of_mode c .strict mode, done] at agree
    generalize b.run (c.under .lenient) = lenient at agree items
    cases agree with
    | same _ last new _ recorded =>
      obtain rfl : ds = new := List.append_cancel_left (items.symm.trans recorded)
      exact ⟨ds, recorded, fun d member => (below d member).1⟩

end Build

end PackSpec
