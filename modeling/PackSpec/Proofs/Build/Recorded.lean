import PackSpec.Proofs.Build.Composed

set_option autoImplicit false

namespace PackSpec

namespace Diagnostics

def record (s : Diagnostics) (ds : List Diagnostic) : Diagnostics :=
  { s with items := s.items ++ ds }

variable (s : Diagnostics) (l : Location) (e : Problem)

theorem path_locate : (s.locate l).path = l.path := by
  unfold locate
  split <;> rfl

theorem record_nil : s.record [] = s := by simp [record]

theorem record_record (ds es : List Diagnostic) :
    (s.record ds).record es = s.record (ds ++ es) := by simp [record]

theorem reportRelationship_strict (strict : s.mode = .strict) :
    s.reportRelationship l e = (s, some ⟨.error, s.locate l, e⟩) := by
  simp [reportRelationship, handle, isStrict, strict, Diagnostic.isWarning]

theorem reportRelationship_lenient (lenient : s.mode = .lenient)
    (passed : e.isOrientation = true ∨ e.isRecoverable = true) :
    s.reportRelationship l e = (s.record [⟨.error, s.locate l, e⟩], none) := by
  by_cases turned : e.isOrientation = true
  · simp [reportRelationship, isStrict, lenient, turned, push, record]
  · have recoverable := passed.resolve_left turned
    simp [reportRelationship, handle, isStrict, lenient, turned, recoverable,
      Diagnostic.isWarning, push, record]

end Diagnostics

namespace Context

def record (c : Context) (ds : List Diagnostic) : Context :=
  { c with diagnostics := { c.diagnostics with items := c.diagnostics.items ++ ds } }

theorem record_nil (c : Context) : c.record [] = c := by simp [record]

theorem record_record (c : Context) (ds es : List Diagnostic) :
    (c.record ds).record es = c.record (ds ++ es) := by simp [record]

theorem leave_record_enter (c : Context) (segment : String) (ds : List Diagnostic) :
    ((c.enter segment).record ds).leave = c.record ds := by
  simp [record, enter, leave]

end Context

namespace Build

theorem record_of_framed {c after : Context} (framed : Framed false c after) :
    ∃ ds, after = c.record ds := by
  obtain ⟨ds, items⟩ := framed.items
  obtain ⟨⟨mode, items_, index⟩, ns, location, keepsDefaults⟩ := after
  obtain rfl : mode = c.diagnostics.mode := framed.mode
  obtain rfl : index = c.diagnostics.index := framed.index
  obtain rfl : ns = c.ns := framed.ns rfl
  obtain rfl : location = c.location := framed.location
  obtain rfl : keepsDefaults = c.keepsDefaults := framed.keepsDefaults
  exact ⟨ds, by rw [Context.record, items]⟩

theorem run_report_record (e : Problem) (c : Context) (lenient : c.diagnostics.mode = .lenient)
    (recoverable : e.isRecoverable = true) :
    (report e).run c = (.ok (), c.record [⟨.error, c.diagnostics.locate c.location, e⟩]) := by
  rw [run_report]
  simp [Diagnostics.report, Diagnostics.handle, Diagnostics.isStrict, Diagnostic.isWarning, lenient,
    recoverable, Diagnostics.push, Context.record]

theorem run_warn_record (e : Problem) (c : Context) :
    (warn e).run c = (.ok (), c.record [⟨.warning, c.diagnostics.locate c.location, e⟩]) := rfl

def Records (said : Diagnostic → Prop) (b : Build Unit) : Prop :=
  ∀ c, ∃ ds, b.run c = (.ok (), c.record ds) ∧ ∀ d ∈ ds, said d

variable {said : Diagnostic → Prop}

theorem records_warn (e : Problem) (all : ∀ l, said ⟨.warning, l, e⟩) : Records said (warn e) :=
  fun c => ⟨_, run_warn_record e c, by simp [all]⟩

theorem records_within {b : Build Unit} (segment : String) (inside : Records said b) :
    Records said (within segment b) := by
  intro c
  obtain ⟨ds, ran, all⟩ := inside (c.enter segment)
  refine ⟨ds, ?_, all⟩
  rw [run_within, ran, c.leave_record_enter]

end Build

end PackSpec
