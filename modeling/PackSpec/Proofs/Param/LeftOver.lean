import Mathlib.Data.List.Induction
import PackSpec.Proofs.Build.Recorded
import PackSpec.Proofs.Param.Declared
import PackSpec.Proofs.Param.Getter

set_option autoImplicit false

namespace PackSpec

def Kind.externalOf (k : Kind) (name : String) : String :=
  ((k.params.find? fun p => p.name == name).map Param.external).getD name

namespace Reader

structure Call where
  getter : Getter
  name : String
deriving DecidableEq, Repr

def Call.perform (call : Call) (r : Reader) : Except Problem call.getter.Result × Reader :=
  outcome (call.getter.read call.name) r

def afterCalls (k : Kind) (ps : Params) (calls : List Call) : Reader :=
  calls.foldl (fun r call => (call.perform r).2) (ofKind k ps)

theorem afterCalls_append (k : Kind) (ps : Params) (calls : List Call) (call : Call) :
    afterCalls k ps (calls ++ [call]) = (call.perform (afterCalls k ps calls)).2 :=
  List.foldl_append

def IsNamed (calls : List Call) (name : String) : Prop := ∃ call ∈ calls, call.name = name
def IsDeclared (k : Kind) (name : String) : Prop := ∃ p ∈ k.params, p.name = name

instance (calls : List Call) (name : String) : Decidable (IsNamed calls name) :=
  inferInstanceAs (Decidable (∃ call ∈ calls, call.name = name))

instance (k : Kind) (name : String) : Decidable (IsDeclared k name) :=
  inferInstanceAs (Decidable (∃ p ∈ k.params, p.name = name))

def remaining (k : Kind) (ps : Params) (calls : List Call) : Params :=
  ps.filter fun e => ¬ (IsNamed calls e.1 ∧ IsDeclared k e.1)

section

variable (k : Kind) (ps : Params) (calls : List Call) (call : Call)

theorem isNamed_append (name : String) :
    IsNamed (calls ++ [call]) name ↔ IsNamed calls name ∨ call.name = name := by
  simp only [IsNamed, List.mem_append, List.mem_singleton, or_and_right, exists_or, exists_eq_left]

theorem mem_remaining (e : String × Param.Value) :
    e ∈ remaining k ps calls ↔ e ∈ ps ∧ ¬ (IsNamed calls e.1 ∧ IsDeclared k e.1) := by
  rw [remaining, List.mem_filter, decide_eq_true_iff]

theorem remaining_nil : remaining k ps [] = ps := by
  simp [remaining, IsNamed]

theorem remaining_append_same (spent : IsDeclared k call.name → IsNamed calls call.name) :
    remaining k ps (calls ++ [call]) = remaining k ps calls := by
  refine List.filter_congr fun e _ => ?_
  have same : IsNamed (calls ++ [call]) e.1 ∧ IsDeclared k e.1 ↔
      IsNamed calls e.1 ∧ IsDeclared k e.1 := by
    rw [isNamed_append]
    refine and_congr_left fun declared => or_iff_left_of_imp fun here => ?_
    rw [← here] at declared ⊢
    exact spent declared
  simp only [same]

theorem remaining_append_declared (declared : IsDeclared k call.name) :
    remaining k ps (calls ++ [call]) = Entries.erase (remaining k ps calls) call.name := by
  rw [Entries.erase, remaining, remaining, List.filter_filter]
  refine List.filter_congr fun e _ => ?_
  by_cases same : call.name = e.1
  · simp [isNamed_append, ← same, declared]
  · simp [isNamed_append, same, Ne.symm same]

theorem get?_remaining (p : Param) (member : p ∈ k.params) :
    Entries.get? (remaining k ps calls) p.name =
      if IsNamed calls p.name then none else Entries.get? ps p.name := by
  have declared : IsDeclared k p.name := ⟨p, member, rfl⟩
  rw [remaining, Entries.get?_filter fun name => ¬ (IsNamed calls name ∧ IsDeclared k name)]
  by_cases named : IsNamed calls p.name <;> simp [named, declared]

theorem perform_undeclared (unknown : ¬ IsDeclared k call.name) :
    call.perform (ofKind k ps) =
      (.error (.configuration k.title ("no parameter '" ++ call.name ++ "' is declared")),
        ofKind k ps) :=
  outcome_read_undeclared call.getter (ofKind k ps) call.name
    (k.get?_table_none call.name fun p member same => unknown ⟨p, member, same⟩)

theorem perform_declared (p : Param) (member : p ∈ k.params) (same : p.name = call.name) :
    call.perform (ofKind k ps) =
      (call.getter.answer k p (p.settled (Entries.get? ps p.name)),
        ofKind k (Entries.erase ps p.name)) := by
  rw [Call.perform, ← same]
  exact outcome_read_declared call.getter (ofKind k ps) p (k.get?_table p member)

theorem afterCalls_eq : afterCalls k ps calls = ofKind k (remaining k ps calls) := by
  induction calls using List.reverseRecOn with
  | nil =>
    rw [remaining_nil]
    rfl
  | append_singleton calls call ih =>
    rw [afterCalls_append, ih]
    by_cases declared : IsDeclared k call.name
    · rw [remaining_append_declared k ps calls call declared]
      obtain ⟨p, member, same⟩ := declared
      rw [perform_declared k _ call p member same, same]
    · rw [remaining_append_same k ps calls call fun known => absurd known declared,
        perform_undeclared k _ call declared]

theorem leftOver_afterCalls :
    (afterCalls k ps calls).leftOver = (remaining k ps calls).map fun e => k.externalOf e.1 := by
  rw [afterCalls_eq]
  refine List.map_congr_left fun e _ => ?_
  change ((k.table.get? e.1).map Param.external).getD e.1 = _
  rw [Table.get?_eq_find?]
  rfl

end

/-- What comes of a call on a reader of `ps` that some calls have been made on. -/
inductive Call.Outcome (k : Kind) (ps : Params) (earlier : List Call) (call : Call) :
    Except Problem call.getter.Result × Reader → Prop
  | undeclared (unknown : ¬ IsDeclared k call.name) :
      Outcome k ps earlier call
        (.error (.configuration k.title ("no parameter '" ++ call.name ++ "' is declared")),
          afterCalls k ps earlier)
  | first (p : Param) (member : p ∈ k.params) (same : p.name = call.name)
      (fresh : ¬ IsNamed earlier call.name) :
      Outcome k ps earlier call
        (call.getter.answer k p (p.settled (Entries.get? ps p.name)),
          (afterCalls k ps earlier).without p.name)
  | again (p : Param) (member : p ∈ k.params) (same : p.name = call.name)
      (named : IsNamed earlier call.name) :
      Outcome k ps earlier call (call.getter.answer k p p.defaultValue, afterCalls k ps earlier)

theorem outcome_perform (k : Kind) (ps : Params) (earlier : List Call) (call : Call) :
    call.Outcome k ps earlier (call.perform (afterCalls k ps earlier)) := by
  by_cases declared : IsDeclared k call.name
  · have rest := remaining_append_declared k ps earlier call declared
    obtain ⟨p, member, same⟩ := declared
    rw [← same] at rest
    have performed := perform_declared k (remaining k ps earlier) call p member same
    rw [get?_remaining k ps earlier p member, ← afterCalls_eq] at performed
    by_cases named : IsNamed earlier call.name
    · -- There is nothing more to take at a name that has been read.
      rw [remaining_append_same k ps earlier call fun _ => named] at rest
      rw [if_pos (same ▸ named), ← rest, ← afterCalls_eq] at performed
      rw [performed]
      exact .again p member same named
    · have removed : ofKind k (Entries.erase (remaining k ps earlier) p.name) =
          (afterCalls k ps earlier).without p.name := by
        rw [afterCalls_eq]
        rfl
      rw [if_neg (same ▸ named), removed] at performed
      rw [performed]
      exact .first p member same named
  · have performed := perform_undeclared k (remaining k ps earlier) call declared
    rw [← afterCalls_eq] at performed
    rw [performed]
    exact .undeclared declared

end Reader

namespace Node

def leftOverAt (k : Kind) (c : Context) (name : String) : Diagnostic :=
  ⟨.error, c.diagnostics.locate (c.enter name).location, .unknownParameter k.title name⟩

theorem run_reportLeftOver_lenient (k : Kind) (names : List String) (c : Context)
    (lenient : c.diagnostics.mode = .lenient) :
    (reportLeftOver k names).run c = (.ok (), c.record (names.map (leftOverAt k c))) := by
  induction names generalizing c with
  | nil =>
    rw [List.map_nil, c.record_nil]
    rfl
  | cons name names ih =>
    have first : (Build.within name (Build.report (.unknownParameter k.title name))).run c =
        (.ok (), c.record [leftOverAt k c name]) := by
      rw [Build.run_within, Build.run_report_record _ (c.enter name) lenient rfl,
        c.leave_record_enter]
      rfl
    rw [reportLeftOver, Build.run_bind, first]
    dsimp only
    rw [ih (c.record [leftOverAt k c name]) lenient, c.record_record]
    rfl

theorem run_reportLeftOver_strict (k : Kind) (names : List String) (c : Context)
    (strict : c.diagnostics.mode = .strict) :
    (reportLeftOver k names).run c =
      (match names.head? with
        | some name => .error (leftOverAt k c name)
        | none => .ok (), c) := by
  cases names with
  | nil => rfl
  | cons name names =>
    have first : (Build.within name (Build.report (.unknownParameter k.title name))).run c =
        (.error (leftOverAt k c name), c) := by
      rw [Build.run_within, Build.run_report_strict _ (c.enter name) strict, c.leave_enter]
      rfl
    rw [reportLeftOver, Build.run_bind, first]
    rfl

end Node

namespace Reader

/-- What holds of a new reader of `ps` through some calls. -/
structure Accounted (k : Kind) (ps : Params) (calls : List Call) : Prop where
  each : ∀ before call rest, calls = before ++ call :: rest →
    call.Outcome k ps before (call.perform (afterCalls k ps before))
  taken : ∀ before call rest, calls = before ++ call :: rest → ∀ e ∈ ps,
    (e ∈ (afterCalls k ps before).params ∧ e ∉ (afterCalls k ps (before ++ [call])).params ↔
      call.name = e.1 ∧ IsDeclared k e.1 ∧ ¬ IsNamed before e.1)
  kept : (afterCalls k ps calls).params = remaining k ps calls
  lenient : ∀ c, c.diagnostics.mode = .lenient →
    (Node.reportLeftOver k (afterCalls k ps calls).leftOver).run c =
      (.ok (), c.record ((remaining k ps calls).map fun e => Node.leftOverAt k c (k.externalOf e.1)))
  strict : ∀ c, c.diagnostics.mode = .strict →
    (Node.reportLeftOver k (afterCalls k ps calls).leftOver).run c =
      (match (remaining k ps calls).head? with
        | some e => .error (Node.leftOverAt k c (k.externalOf e.1))
        | none => .ok (), c)

/-- Whatever is asked of a new reader, in whatever order, a parameter is taken by the first call that
names it, if it is declared, and by no other. A lenient report records each one that was not taken, in
the order of the map, and a strict one returns the first. -/
theorem accounts_for_parameters (k : Kind) (ps : Params) (calls : List Call) :
    Accounted k ps calls := by
  refine ⟨fun before call _ _ => outcome_perform k ps before call, ?_, ?_, ?_, ?_⟩
  · intro before call _ _ e member
    have there (made : List Call) : e ∈ (afterCalls k ps made).params ↔
        ¬ (IsNamed made e.1 ∧ IsDeclared k e.1) := by
      rw [afterCalls_eq]
      exact (mem_remaining k ps made e).trans (and_iff_right member)
    rw [there, there, isNamed_append]
    tauto
  · rw [afterCalls_eq]
    rfl
  · intro c lenient
    rw [leftOver_afterCalls, Node.run_reportLeftOver_lenient k _ c lenient, List.map_map]
    rfl
  · intro c strict
    rw [leftOver_afterCalls, Node.run_reportLeftOver_strict k _ c strict, List.head?_map]
    cases (remaining k ps calls).head? <;> rfl

-- A parameter is taken even where the getter cannot use it; an undeclared one stays where it is.
example :
    let ps : Params := [("colour", .str "red"), ("display", .str "no"), ("type_", .str "int")]
    (afterCalls .classProperty ps [⟨.bool, "display"⟩, ⟨.value, "colour"⟩]).leftOver =
      ["colour", "type"] := by
  decide

end Reader

end PackSpec
