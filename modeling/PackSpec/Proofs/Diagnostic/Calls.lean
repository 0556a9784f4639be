import Mathlib.Data.List.Induction
import PackSpec.Proofs.Build.Recorded

set_option autoImplicit false

namespace PackSpec.Diagnostics

/-- What can be asked of a sink that changes it. -/
inductive Call where
  | report (l : Location) (e : Problem)
  | reportRelationship (l : Location) (e : Problem)
  | handle (d : Diagnostic)
  | warn (l : Location) (e : Problem)
  | setIndex (index : LineIndex)
deriving DecidableEq, Repr

namespace Call

def perform (s : Diagnostics) : Call → Diagnostics × Option Diagnostic
  | .report l e => s.report l e
  | .reportRelationship l e => s.reportRelationship l e
  | .handle d => s.handle d
  | .warn l e => (s.warn l e, none)
  | .setIndex index => (s.withIndex index, none)

def given? (s : Diagnostics) : Call → Option Diagnostic
  | .report l e | .reportRelationship l e => some ⟨.error, s.locate l, e⟩
  | .handle d => some d
  | .warn l e => some ⟨.warning, s.locate l, e⟩
  | .setIndex _ => none

def location? : Call → Option Location
  | .report l _ | .reportRelationship l _ | .warn l _ => some l
  | .handle d => some d.location
  | .setIndex _ => none

def isOfRelationship : Call → Bool
  | .reportRelationship .. => true
  | _ => false

/-- What a sink records: every warning, and in lenient mode the errors that a run can go on from. -/
def Passes (mode : Mode) (call : Call) (d : Diagnostic) : Prop :=
  d.level = .warning ∨ mode = .lenient ∧
    (d.error.isRecoverable = true ∨ d.error.isOrientation = true ∧ call.isOfRelationship = true)

/-- What comes of a call: its diagnostic is recorded, or given back with the list as it was, or there
is none. -/
inductive Outcome (s : Diagnostics) (call : Call) : Diagnostics × Option Diagnostic → Prop
  | recorded (d : Diagnostic) (given_ : call.given? s = some d) (passes : call.Passes s.mode d) :
      Outcome s call ({ s with items := s.items ++ [d] }, none)
  | returned (d : Diagnostic) (given_ : call.given? s = some d) (stops : ¬ call.Passes s.mode d) :
      Outcome s call (s, some d)
  | indexed (index : LineIndex) (same : call = .setIndex index) :
      Outcome s call ({ s with index := some index }, none)

end Call

section

variable (s : Diagnostics)

theorem location_given (call : Call) (d : Diagnostic) (given_ : call.given? s = some d) :
    ∃ l, call.location? = some l ∧ d.location.source = l.source ∧ d.location.path = l.path ∧
      (l.line.isSome = true → d.location = l) := by
  have located (l : Location) : (s.locate l).source = l.source ∧ (s.locate l).path = l.path ∧
      (l.line.isSome = true → s.locate l = l) := by
    refine ⟨?_, s.path_locate l, fun known => ?_⟩
    · unfold locate
      split <;> rfl
    · obtain ⟨line, known⟩ := Option.isSome_iff_exists.1 known
      simp [locate, known]
  cases call with
  | report l e | reportRelationship l e | warn l e =>
    obtain rfl := Option.some.inj given_
    exact ⟨l, rfl, located l⟩
  | handle d =>
    obtain rfl := Option.some.inj given_
    exact ⟨d.location, rfl, rfl, rfl, fun _ => rfl⟩
  | setIndex index => cases given_

theorem outcome_handle (call : Call) (d : Diagnostic) (given_ : call.given? s = some d)
    (plain : ¬ (s.mode = .lenient ∧ d.error.isOrientation = true ∧ call.isOfRelationship = true)) :
    call.Outcome s (s.handle d) := by
  by_cases passes : d.level = .warning ∨ s.mode = .lenient ∧ d.error.isRecoverable = true
  · have taken : s.handle d = (s.push d, none) := by
      rcases passes with warning | ⟨lenient, recoverable⟩
      · simp [handle, Diagnostic.isWarning, warning]
      · simp [handle, isStrict, lenient, recoverable]
    rw [taken]
    exact .recorded d given_ (passes.imp_right fun both => ⟨both.1, .inl both.2⟩)
  · have stopped : s.handle d = (s, some d) := by
      obtain ⟨error, fatal⟩ := not_or.1 passes
      cases mode : s.mode <;> simp_all [handle, Diagnostic.isWarning, isStrict]
    rw [stopped]
    refine .returned d given_ fun told => passes (told.imp_right fun both => ⟨both.1, ?_⟩)
    exact both.2.resolve_right fun turned => plain ⟨both.1, turned⟩

theorem outcome_perform (call : Call) : call.Outcome s (call.perform s) := by
  cases call with
  | report l e => exact s.outcome_handle (.report l e) _ rfl (by simp [Call.isOfRelationship])
  | handle d => exact s.outcome_handle (.handle d) d rfl (by simp [Call.isOfRelationship])
  | warn l e => exact .recorded _ rfl (.inl rfl)
  | setIndex index => exact .indexed index rfl
  | reportRelationship l e =>
    -- An orientation error of a lenient run is recorded before it comes to be handled.
    by_cases turned : s.mode = .lenient ∧ e.isOrientation = true
    · have taken : s.reportRelationship l e = (s.push ⟨.error, s.locate l, e⟩, none) := by
        simp [reportRelationship, isStrict, turned]
      rw [Call.perform, taken]
      exact .recorded _ rfl (.inr ⟨turned.1, .inr ⟨turned.2, rfl⟩⟩)
    · have handled : s.reportRelationship l e = s.handle ⟨.error, s.locate l, e⟩ := by
        cases mode : s.mode <;> simp_all [reportRelationship, isStrict]
      rw [Call.perform, handled]
      exact s.outcome_handle _ _ rfl fun all => turned ⟨all.1, all.2.1⟩

end

def afterCalls (mode : Mode) (calls : List Call) : Diagnostics :=
  calls.foldl (fun s call => (call.perform s).1) (empty mode)

theorem afterCalls_append (mode : Mode) (calls : List Call) (call : Call) :
    afterCalls mode (calls ++ [call]) = (call.perform (afterCalls mode calls)).1 :=
  List.foldl_append

theorem mode_afterCalls (mode : Mode) (calls : List Call) : (afterCalls mode calls).mode = mode := by
  induction calls using List.reverseRecOn with
  | nil => rfl
  | append_singleton calls call ih =>
    have came := (afterCalls mode calls).outcome_perform call
    rw [afterCalls_append]
    generalize call.perform (afterCalls mode calls) = result at came ⊢
    cases came <;> exact ih

theorem recorded_of_mem (mode : Mode) (calls : List Call) (d : Diagnostic)
    (member : d ∈ (afterCalls mode calls).items) :
    ∃ before call rest, calls = before ++ call :: rest ∧
      call.given? (afterCalls mode before) = some d ∧ call.Passes mode d := by
  induction calls using List.reverseRecOn with
  | nil => simp [afterCalls, empty] at member
  | append_singleton calls call ih =>
    have earlier (there : d ∈ (afterCalls mode calls).items) : ∃ before before_ rest,
        calls ++ [call] = before ++ before_ :: rest ∧
          before_.given? (afterCalls mode before) = some d ∧ before_.Passes mode d := by
      obtain ⟨before, other, rest, rfl, made⟩ := ih there
      exact ⟨before, other, rest ++ [call], by simp, made⟩
    have came := (afterCalls mode calls).outcome_perform call
    rw [afterCalls_append] at member
    generalize call.perform (afterCalls mode calls) = result at came member
    cases came with
    | recorded new given_ passes =>
      rcases List.mem_append.1 member with old | last
      · exact earlier old
      · obtain rfl := List.mem_singleton.1 last
        rw [mode_afterCalls] at passes
        exact ⟨calls, call, [], rfl, given_, passes⟩
    | returned => exact earlier member
    | indexed => exact earlier member

/-- What holds of a new sink through some calls. -/
structure Kept (mode : Mode) (calls : List Call) : Prop where
  each : ∀ before call rest, calls = before ++ call :: rest →
    call.Outcome (afterCalls mode before) (call.perform (afterCalls mode before))
  warns : ∀ before l e rest, calls = before ++ .warn l e :: rest →
    let s := afterCalls mode before
    (Call.warn l e).perform s = ({ s with items := s.items ++ [⟨.warning, s.locate l, e⟩] }, none)
  placed : ∀ before call rest, calls = before ++ call :: rest →
    ∀ d, call.given? (afterCalls mode before) = some d →
      ∃ l, call.location? = some l ∧ d.location.source = l.source ∧ d.location.path = l.path ∧
        (l.line.isSome = true → d.location = l)
  steady : (afterCalls mode calls).mode = mode
  strict : mode = .strict → ∀ d ∈ (afterCalls mode calls).items, d.level = .warning
  lenient : mode = .lenient → ∀ d ∈ (afterCalls mode calls).items, d.level = .error →
    d.error.isRecoverable = true ∨ d.error.isOrientation = true ∧
      ∃ before l rest, calls = before ++ .reportRelationship l d.error :: rest ∧
        d.location = (afterCalls mode before).locate l

/-- Whatever is asked of a new sink, in whatever order, each call records its diagnostic or gives it back.
No error is recorded in strict mode, and in lenient mode only those that a run can go on from. -/
theorem records_or_returns (mode : Mode) (calls : List Call) : Kept mode calls := by
  refine ⟨fun before call _ _ => outcome_perform _ call, fun _ _ _ _ _ => rfl,
    fun before call _ _ d given_ => location_given _ call d given_, mode_afterCalls mode calls, ?_, ?_⟩
  · rintro rfl d member
    obtain ⟨before, call, rest, -, -, passes⟩ := recorded_of_mem .strict calls d member
    exact passes.resolve_right fun both => absurd both.1 (by decide)
  · rintro rfl d member error
    obtain ⟨before, call, rest, rfl, given_, passes⟩ := recorded_of_mem .lenient calls d member
    have warned : d.level ≠ .warning := by simp [error]
    refine (passes.resolve_left warned).2.imp_right fun ⟨turned, reported⟩ => ⟨turned, ?_⟩
    cases call with
    | reportRelationship l e =>
      obtain rfl := Option.some.inj given_
      exact ⟨before, l, rest, rfl, rfl⟩
    | _ => cases reported

-- An orientation error passes as one of a relationship and stops as any other.
example :
    let e : Problem := .orientation "Pod" "Fan"
    let s := afterCalls .lenient [.reportRelationship (.root "pods.yaml") e, .warn (.root "pods.yaml") e]
    s.items.map Diagnostic.level = [.error, .warning] ∧
      ((Call.report (.root "pods.yaml") e).perform s).2 = some ⟨.error, .root "pods.yaml", e⟩ := by
  decide

end PackSpec.Diagnostics
