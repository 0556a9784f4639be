import PackSpec.Command.Run
import PackSpec.Proofs.Build.Modes
import PackSpec.Proofs.Document.Composed

set_option autoImplicit false

namespace PackSpec

namespace Document

/-- How a strict compilation relates to a lenient one. -/
structure Agreeing (strict lenient : Compilation) : Prop where
  succeeds : ∀ s, strict.1 = .ok s ↔ lenient.1 = .ok s ∧ lenient.2.errors = []
  warnings : ∀ s, strict.1 = .ok s →
    strict.2.items = lenient.2.items ∧ ∀ d ∈ strict.2.items, d.isWarning = true
  aborts : ∀ d, strict.1 = .error d → d.isError = true ∧
    (∀ w ∈ strict.2.items, w.isWarning = true) ∧
    ∃ rest, lenient.2.items ++ Build.ended lenient.1 = strict.2.items ++ d :: rest

theorem not_isError (d : Diagnostic) : d.isWarning = true ↔ d.isError = false := by
  rcases d with ⟨_ | _, _, _⟩ <;> simp [Diagnostic.isWarning, Diagnostic.isError]

theorem errors_eq_nil (s : Diagnostics) (warnings : ∀ d ∈ s.items, d.isWarning = true) :
    s.errors = [] :=
  List.filter_eq_nil_iff.2 fun d member => by simp [(not_isError d).1 (warnings d member)]

theorem agreeing_of_agree (c : Context) (fresh : c.diagnostics.items = [])
    (strict lenient : Except Diagnostic Specification × Context)
    (h : Build.Agree c strict lenient) :
    Agreeing (strict.1, strict.2.diagnostics) (lenient.1, lenient.2.diagnostics) := by
  cases h with
  | same a after new warnings recorded =>
    rw [fresh, List.nil_append] at recorded
    have quiet : ∀ d ∈ after.diagnostics.items, d.isWarning = true := recorded ▸ warnings
    refine ⟨fun s => ?_, fun s _ => ⟨rfl, quiet⟩, fun d aborted => by simp at aborted⟩
    -- All that was recorded are warnings, so the lenient run has no errors either.
    have none_ : (after.under .lenient).diagnostics.errors = [] := errors_eq_nil _ quiet
    simp [none_]
  | stopped d s l r new rest warnings isError mode recorded passed =>
    rw [fresh, List.nil_append] at recorded passed
    have error : d.isError = true := by
      rcases d with ⟨_ | _, _, _⟩
      · rfl
      · simp [Diagnostic.isWarning] at isError
    refine ⟨fun a => ?_, fun a aborted => by simp at aborted, fun e aborted => ?_⟩
    · constructor
      · intro aborted
        simp at aborted
      · rintro ⟨ok, none_⟩
        simp only at ok none_
        rw [ok] at passed
        -- A lenient run that succeeds has recorded the error that ended the strict one.
        have recordedToo : d ∈ l.diagnostics.errors := by
          have member : d ∈ l.diagnostics.items := by
            have all : l.diagnostics.items = new ++ d :: rest := by simpa [Build.ended] using passed
            simp [all]
          exact List.mem_filter.2 ⟨member, error⟩
        simp [none_] at recordedToo
    · obtain rfl := Except.error.inj aborted
      exact ⟨error, recorded ▸ warnings, rest, by rw [recorded]; exact passed⟩

def bodyOf : Yaml → Build Yaml
  | .tagged name inside => if name == tag then return inside else reported (.tagged name inside)
  | v => reported v
where
  reported (v : Yaml) : Build Yaml := do
    Build.report (untaggedError v)
    return inner v

theorem composed_bodyOf (v : Yaml) : Build.Composed true (bodyOf v) := by
  have reported_ (v : Yaml) : Build.Composed true (bodyOf.reported v) :=
    .bind _ _ (.report _) fun _ => .pure _
  unfold bodyOf
  split
  · split
    · exact .pure _
    · exact reported_ _
  · exact reported_ _

theorem run_bodyOf (source text : String) (s : Diagnostics) (keeps : Bool) (v : Yaml)
    (read : Yaml.read text = .ok v) :
    (bodyOf v).run (.start s source keeps) =
      ((body source text s).1, .start (body source text s).2 source keeps) := by
  have reported_ (v : Yaml) : (bodyOf.reported v).run (.start s source keeps) =
      ((body.reported source s v).1, .start (body.reported source s v).2 source keeps) := by
    rw [bodyOf.reported, Build.run_bind, Build.run_report, body.reported]
    have sink : (Context.start s source keeps).diagnostics.report
        (Context.start s source keeps).location (untaggedError v) =
        s.report (.root source) (untaggedError v) := rfl
    rw [sink]
    rcases s.report (.root source) (untaggedError v) with ⟨_, _ | _⟩ <;> rfl
  unfold bodyOf body
  rw [read]
  cases v with
  | tagged name inside =>
    dsimp only
    split
    · rfl
    · exact reported_ _
  | _ => exact reported_ _

theorem compile_eq_run (source text : String) (s : Diagnostics) (options : Options) (v : Yaml)
    (read : Yaml.read text = .ok v) :
    compile source text s options =
      let (result, c) := (bodyOf v >>= fun v => compileBody v options.ns).run
        (.start (s.withIndex (LineIndex.scan text)) source options.keepsDefaults)
      (result, c.diagnostics) := by
  rw [compile, Build.run_bind, run_bodyOf source text _ _ v read]
  rcases body source text (s.withIndex (LineIndex.scan text)) with ⟨_ | _, _⟩ <;> rfl

theorem compile_unreadable (source text : String) (s : Diagnostics) (options : Options)
    (f : Yaml.Fault) (read : Yaml.read text = .error f) :
    compile source text s options =
      (.error (unreadable source f), s.withIndex (LineIndex.scan text)) := by
  rw [compile, body, read]

theorem agreeing_compile (source text : String) (options : Options) :
    Agreeing (compile source text (.empty .strict) options)
      (compile source text (.empty .lenient) options) := by
  let c : Context := .start ((Diagnostics.empty .strict).withIndex (LineIndex.scan text)) source
    options.keepsDefaults
  cases read : Yaml.read text with
  | error f =>
    rw [compile_unreadable _ _ _ _ f read, compile_unreadable _ _ _ _ f read]
    exact agreeing_of_agree c rfl (.error (unreadable source f), c.under .strict)
      (.error (unreadable source f), c.under .lenient) (.here c _ _ _ _ rfl rfl rfl rfl)
  | ok v =>
    have composed : Build.Composed true (bodyOf v >>= fun v => compileBody v options.ns) :=
      .bind _ _ (composed_bodyOf v) fun v => composed_compileBody v options.ns
    rw [compile_eq_run _ _ _ _ v read, compile_eq_run _ _ _ _ v read]
    exact agreeing_of_agree c rfl _ _ (Build.agrees_run composed _)

end Document

namespace Lint

theorem exitCode_zero (c : Compilation) :
    (ofCompilation c).exitCode false = 0 ↔ ∃ s, c.1 = .ok s ∧ c.2.errors = [] := by
  rcases c with ⟨_ | s, recorded⟩ <;> simp [ofCompilation, exitCode, fails]

end Lint

namespace Document

/-- A strict compilation is the lenient one up to its first error, and a lenient check that does not
deny warnings passes exactly if the strict compilation succeeds. -/
theorem strict_iff_lenient (source text : String) (options : Options) :
    let strict := compile source text (.empty .strict) options
    let lenient := compile source text (.empty .lenient) options
    Agreeing strict lenient ∧
      ((Command.lint lenient false).exitCode = 0 ↔ ∃ s, strict.1 = .ok s) := by
  intro strict lenient
  have agreeing : Agreeing strict lenient := agreeing_compile source text options
  refine ⟨agreeing, ?_⟩
  calc (Command.lint lenient false).exitCode = 0
      ↔ ∃ s, lenient.1 = .ok s ∧ lenient.2.errors = [] := Lint.exitCode_zero lenient
    _ ↔ ∃ s, strict.1 = .ok s := exists_congr fun s => (agreeing.succeeds s).symm

end Document

end PackSpec
