import PackSpec.Proofs.Decimal.Texts
import PackSpec.Proofs.Document.Fates
import PackSpec.Proofs.Document.Typed
import PackSpec.Yaml.Document

set_option autoImplicit false

namespace PackSpec

namespace Decode

variable {α : Type}

def skippedDefaults (skip : Bool) (spare : Diagnostic) (es : List (Yaml × Yaml)) :
    Multiset Diagnostic :=
  .replicate (es.countP fun e => skip && scalarText? e.1 == some defaultsName) spare

theorem skippedDefaults_cons (skip : Bool) (spare : Diagnostic) (e : Yaml × Yaml)
    (es : List (Yaml × Yaml)) :
    skippedDefaults skip spare (e :: es) =
      (if skip && scalarText? e.1 == some defaultsName then {spare} else 0) +
        skippedDefaults skip spare es := by
  rw [skippedDefaults, List.countP_cons, Multiset.replicate_add, add_comm, skippedDefaults]
  split <;> rfl

theorem reads_entries {read : Yaml → Build (Option Params)} (settles : Settles read) (skip : Bool)
    (acc : Children) (es : List (Yaml × Yaml)) (c : Context)
    (lenient : c.diagnostics.mode = .lenient) (spare : Diagnostic) (level : spare.level = .error)
    (path : spare.location.path = c.location.path ++ [defaultsName]) :
    Reads read es (skippedDefaults skip spare es) acc c (entries read skip acc es) := by
  -- By induction on the entries; what was read before is in `acc`, what was recorded in `c`.
  induction es generalizing acc c with
  | nil => exact reads_nil
  | cons e es ih =>
    obtain ⟨key, v⟩ := e
    rw [skippedDefaults_cons]
    unfold entries
    cases text : scalarText? key with
    | none =>
      rw [if_neg (by simp), zero_add]
      exact reads_nameless lenient "an entry name" text fun d => ih acc (c.record [d]) lenient path
    | some name =>
      dsimp only
      by_cases skipped : (skip && name == defaultsName) = true
      · -- Defaults that are no mapping were reported as `spare` when they were looked for.
        obtain ⟨rfl, rfl⟩ : skip = true ∧ name = defaultsName := by simpa using skipped
        rw [if_pos skipped, if_pos (by simp)]
        exact reads_skipped spare ⟨level, by rw [path, text]; rfl⟩ (ih acc c lenient path)
      · rw [if_neg skipped, if_neg (by simpa using skipped), zero_add]
        exact reads_named settles lenient name text
          (fun ps ds => ih (Entries.put acc name ps) (c.record ds) lenient path)
          fun ds => ih acc (c.record ds) lenient path

theorem reads_groups {read : Yaml → Build (Option Children)} (settles : Settles read) (acc : Groups)
    (es : List (Yaml × Yaml)) (c : Context) (lenient : c.diagnostics.mode = .lenient) :
    Reads read es 0 acc c (groups read acc es) := by
  induction es generalizing acc c with
  | nil => exact reads_nil
  | cons e es ih =>
    obtain ⟨key, v⟩ := e
    unfold groups
    cases text : scalarText? key with
    | none =>
      exact reads_nameless lenient "a group name" text fun d => ih acc (c.record [d]) lenient
    | some name =>
      exact reads_named settles lenient name text
        (fun cs ds => ih (Entries.put acc name cs) (c.record ds) lenient)
        fun ds => ih acc (c.record ds) lenient

theorem run_badDefaults (es : List (Yaml × Yaml)) (c : Context)
    (lenient : c.diagnostics.mode = .lenient) :
    ∃ skip spare ds, (badDefaults es).run c = (.ok skip, c.record ds) ∧
      (skip = true → ds = [spare]) ∧ spare.level = .error ∧
      spare.location.path = c.location.path ++ [defaultsName] := by
  let inside := c.enter defaultsName
  let report (v : Yaml) : Diagnostic :=
    ⟨.error, inside.diagnostics.locate inside.location, mismatch "a mapping" v⟩
  have path (v : Yaml) : (report v).location.path = c.location.path ++ [defaultsName] :=
    Diagnostics.path_locate _ _
  unfold badDefaults
  split
  -- Without bad defaults nothing is skipped, so any diagnostic there will do.
  · exact ⟨false, report .null, [], by rw [c.record_nil]; rfl, by simp, rfl, path .null⟩
  · next v _ =>
    refine ⟨true, report v, [report v], ?_, fun _ => rfl, rfl, path v⟩
    rw [Build.run_bind, Build.run_within, Build.run_report_record _ inside lenient rfl]
    dsimp only
    rw [Context.leave_record_enter]
    rfl

theorem run_collection {read : Yaml → Build (Option Params)} (settles : Settles read)
    (es : List (Yaml × Yaml)) (c : Context) (lenient : c.diagnostics.mode = .lenient) :
    ∃ skip spare fates told ds, (collection read (.map es)).run c =
        (.ok (some (Entries.ofList (kept fates))), c.record (told ++ ds)) ∧
      (skip = true → told = [spare]) ∧
      Accounting read c.location.path es fates (skippedDefaults skip spare es) ds := by
  obtain ⟨skip, spare, told, ran, skips, level, path⟩ := run_badDefaults es c lenient
  obtain ⟨fates, ds, rest, accounting⟩ :=
    reads_entries settles skip [] es (c.record told) lenient spare level path
  refine ⟨skip, spare, fates, told, ds, ?_, skips, accounting⟩
  have opened : collection read (.map es) = (do
      let skip ← badDefaults es
      return some (← entries read skip [] es)) := rfl
  rw [opened, Build.run_bind, ran]
  dsimp only
  rw [Build.run_bind, rest, Context.record_record]
  rfl

theorem run_mapping_other (v : Yaml) (c : Context) (lenient : c.diagnostics.mode = .lenient)
    (other : ∀ es, v ≠ .map es) :
    (mapping v).run c =
      (.ok none, c.record [⟨.error, c.diagnostics.locate c.location, mismatch "a mapping" v⟩]) := by
  have opened : mapping v = (do Build.report (mismatch "a mapping" v); return none) := by
    cases v with
    | map es => exact absurd rfl (other es)
    | _ => rfl
  rw [opened, Build.run_bind, Build.run_report_record _ c lenient rfl]
  rfl

theorem settles_collection {read : Yaml → Build (Option Params)} (settles : Settles read) :
    Settles (collection read) := by
  intro v c lenient
  by_cases mapping_ : ∃ es, v = .map es
  · obtain ⟨es, rfl⟩ := mapping_
    obtain ⟨_, _, fates, told, ds, ran, _, _⟩ := run_collection settles es c lenient
    exact ⟨_, _, ran, by simp⟩
  · have ran := run_mapping_other v c lenient fun es same => mapping_ ⟨es, same⟩
    refine ⟨none, _, by rw [collection, Build.run_bind, ran]; rfl, fun _ => ?_⟩
    exact ⟨_, List.mem_singleton_self _, rfl, Diagnostics.path_locate _ _⟩

theorem scalarEntry_cases (k : Kind) (v : Yaml) :
    (∃ ps, scalarEntry k v = return some ps) ∨
      ∃ e, e.isRecoverable = true ∧ scalarEntry k v = (do Build.report e; return none) := by
  unfold scalarEntry
  split
  · split
    · exact .inr ⟨_, rfl, rfl⟩
    · split
      · next ps _ => exact .inl ⟨ps, rfl⟩
      · next e refused => exact .inr ⟨e, recoverable_shorthand _ e refused, rfl⟩
  · exact .inr ⟨_, rfl, rfl⟩

theorem entryAt_cases (depth : Nat) (k : Kind) (v : Yaml) :
    entryAt depth k v = scalarEntry k v ∨
      ∃ b : Build Params, entryAt depth k v = (do return some (← b)) := by
  cases depth <;> cases v <;> first | exact .inl rfl | exact .inr ⟨_, rfl⟩

theorem settles_entryAt (depth : Nat) (k : Kind) : Settles (entryAt depth k) := by
  intro v c lenient
  rcases entryAt_cases depth k v with scalar | ⟨b, entry⟩
  · rcases scalarEntry_cases k v with ⟨ps, given_⟩ | ⟨e, recoverable, refused⟩
    · exact ⟨some ps, [], by rw [scalar, given_, Build.run_pure, c.record_nil], by simp⟩
    · have ran := Build.run_report_record e c lenient recoverable
      refine ⟨none, _, by rw [scalar, refused, Build.run_bind, ran]; rfl, fun _ => ?_⟩
      exact ⟨_, List.mem_singleton_self _, rfl, Diagnostics.path_locate _ _⟩
  · -- Parameters that have been read are an entry, and in lenient mode reading them ends well.
    have meets : Build.Meets (Decoding c) (fun _ => False) (entryAt depth k v) _ :=
      meets_entryAt depth k v
    have met := (meets c (Build.holds_start lenient)).2
    obtain ⟨ds, recorded⟩ := Build.record_of_framed (Build.framed_run (composed_entryAt depth k v) c)
    rw [entry, Build.run_bind] at met recorded ⊢
    generalize b.run c = result at met recorded ⊢
    rcases result with ⟨d | ps, after⟩
    · exact met.elim
    · exact ⟨some ps, ds, by rw [← recorded]; rfl, by simp⟩

theorem scalarText?_defaults (key : Yaml) (named : scalarText? key = some defaultsName) :
    key = .str defaultsName := by
  cases key with
  | str text => exact congrArg Yaml.str (Option.some.inj named)
  | bool b => cases b <;> simp [scalarText?, Coerce.boolText, defaultsName] at named
  | int n =>
    have text : Yaml.intText n = defaultsName := Option.some.inj named
    have letter : 'D' ∈ (toString n.val).toList := by
      have shown : (Yaml.intText n).toList = (toString n.val).toList := rfl
      rw [← shown, text]
      decide
    rcases Decimal.isDigit_or_dash n.val 'D' letter with digit | dash
    · exact absurd digit (by decide)
    · exact absurd dash (by decide)
  | float x =>
    have text : Yaml.floatText x = defaultsName := Option.some.inj named
    have marked := Decimal.isMarked_floatText x
    rw [text] at marked
    exact absurd marked (by unfold Decimal.IsMarked; decide)
  | _ => simp [scalarText?] at named

open Yaml.Document (hasRepeatedKey)

theorem countP_defaults (es : List (Yaml × Yaml)) (distinct : hasRepeatedKey es = false) :
    (es.countP fun e => scalarText? e.1 == some defaultsName) ≤ 1 := by
  -- Only one key of a mapping is the text that names the defaults.
  induction es with
  | nil => simp
  | cons e es ih =>
    obtain ⟨key, v⟩ := e
    rw [hasRepeatedKey, Bool.or_eq_false_iff] at distinct
    rw [List.countP_cons]
    split
    · next named =>
      have here : key = .str defaultsName := scalarText?_defaults key (by simpa using named)
      have none_ : (es.countP fun e => scalarText? e.1 == some defaultsName) = 0 := by
        refine List.countP_eq_zero.2 fun e member named_ => ?_
        have there := scalarText?_defaults e.1 (by simpa using named_)
        have repeated : Yaml.hasKey es key = true :=
          List.any_eq_true.2 ⟨e, member, by rw [there, here]; simp [Yaml.same]⟩
        simp [distinct.1] at repeated
      omega
    · exact ih distinct.2

/-- How the entries of a mapping are accounted for by what it is read into and what is recorded. -/
structure Accounted (read : Yaml → Build (Option α)) (place : List String) (es : List (Yaml × Yaml))
    (fates : List (Fate α)) (out : Entries α) (ds : List Diagnostic) : Prop where
  each : List.Forall₂ (Fate.Of read place) es fates
  reported : (dropped fates).Subperm ds
  result : out = Entries.ofList (kept fates)
  own : (Entries.names (kept fates)).Nodup → out = kept fates
  total : out.length + (dropped fates).length = es.length ↔ (Entries.names (kept fates)).Nodup

theorem Accounting.accounted {read : Yaml → Build (Option α)} {place : List String}
    {es : List (Yaml × Yaml)} {fates : List (Fate α)} {before : Multiset Diagnostic}
    {told ds : List Diagnostic} (accounting : Accounting read place es fates before ds)
    (fewer : before ≤ (told : Multiset Diagnostic)) :
    Accounted read place es fates (Entries.ofList (kept fates)) (told ++ ds) := by
  refine ⟨accounting.each, ?_, rfl, Entries.ofList_of_distinct _, ?_⟩
  · rw [← Multiset.coe_le, ← Multiset.coe_add]
    exact accounting.told.trans (add_le_add_left fewer _)
  · rw [← Entries.length_ofList_iff, accounting.each.length_eq, ← length_kept fates]
    omega

theorem names_kept {read : Yaml → Build (Option α)} {place : List String} {es : List (Yaml × Yaml)}
    {fates : List (Fate α)} (each : List.Forall₂ (Fate.Of read place) es fates) :
    (Entries.names (kept fates)).Sublist (es.filterMap fun e => scalarText? e.1) := by
  induction each with
  | nil => exact List.Sublist.refl _
  | @cons e fate es fates of _ ih =>
    rw [List.filterMap_cons]
    cases fate with
    | kept name value =>
      rw [of.1]
      exact ih.cons_cons name
    | dropped d =>
      cases scalarText? e.1 with
      | none => exact ih
      | some name => exact ih.cons name

theorem Accounted.total_of_texts {read : Yaml → Build (Option α)} {place : List String}
    {es : List (Yaml × Yaml)} {fates : List (Fate α)} {out : Entries α} {ds : List Diagnostic}
    (accounted : Accounted read place es fates out ds)
    (texts : (es.filterMap fun e => scalarText? e.1).Nodup) :
    out.length + (dropped fates).length = es.length :=
  accounted.total.2 ((names_kept accounted.each).nodup texts)

/-- In lenient mode every entry of a mapping, and every group, is kept under the text of its key or
dropped with an error of its own. The entries add up exactly if those that are kept have different
texts. -/
theorem accounts_for_entries (c : Context) (lenient : c.diagnostics.mode = .lenient)
    (es : List (Yaml × Yaml)) (distinct : hasRepeatedKey es = false) :
    (∀ depth k, ∃ cs fates ds,
      (collection (entryAt depth k) (.map es)).run c = (.ok (some cs), c.record ds) ∧
      Accounted (entryAt depth k) c.location.path es fates cs ds) ∧
    ∀ depth k p child, ∃ gs fates ds,
      (value (entryAt depth) k p (.groups child) (.map es)).run c =
        (.ok (some (.groups child gs)), c.record ds) ∧
      Accounted (collection (entryAt depth child)) c.location.path es fates gs ds := by
  constructor
  · intro depth k
    obtain ⟨skip, spare, fates, told, ds, ran, skips, accounting⟩ :=
      run_collection (settles_entryAt depth k) es c lenient
    refine ⟨_, fates, told ++ ds, ran, accounting.accounted ?_⟩
    cases skip with
    | false => exact le_of_eq_of_le (by simp [skippedDefaults]) (Multiset.zero_le _)
    | true =>
      -- The defaults are reported once, and no second key has their text.
      rw [skips rfl, Multiset.coe_singleton, ← Multiset.replicate_one, skippedDefaults]
      exact Multiset.replicate_le_replicate spare |>.2 (by simpa using countP_defaults es distinct)
  · intro depth k p child
    obtain ⟨fates, ds, ran, accounting⟩ :=
      reads_groups (settles_collection (settles_entryAt depth child)) [] es c lenient
    refine ⟨_, fates, ds, ?_, accounting.accounted
      (Multiset.zero_le (([] : List Diagnostic) : Multiset Diagnostic))⟩
    have opened : value (entryAt depth) k p (.groups child) (.map es) = (do
        return some (.groups child (← groups (collection (entryAt depth child)) [] es))) := rfl
    rw [opened, Build.run_bind, ran]
    rfl

def mixed : List (Yaml × Yaml) :=
  [(.str "width", .map [(.str "label", .str "Width")]), (.bool true, .seq []), (.null, .null),
    (.str "DEFAULTS", .str "none")]

theorem accounts_for_mixed :
    let c : Context := .start (.empty .lenient) "pack.yaml" false
    c.diagnostics.mode = .lenient ∧ hasRepeatedKey mixed = false ∧
      ∃ cs fates ds, (children .classProperty (.map mixed)).run c = (.ok (some cs), c.record ds) ∧
        Accounted (entryAt Kind.classProperty.height .classProperty) [] mixed fates cs ds ∧
        cs.length = 1 ∧ (dropped fates).length = 3 := by
  intro c
  obtain ⟨cs, fates, ds, ran, accounted⟩ := (accounts_for_entries c rfl mixed rfl).1
    Kind.classProperty.height .classProperty
  have built : cs.length = 1 := by
    have evaluated : ((children .classProperty (.map mixed)).run c).1 =
        .ok (some [("width", [("label", .str "Width")])]) := rfl
    rw [children, ran] at evaluated
    rw [Option.some.inj (Except.ok.inj evaluated)]
    rfl
  have total := accounted.total_of_texts (by decide)
  have entries : mixed.length = 4 := rfl
  exact ⟨rfl, rfl, cs, fates, ds, ran, accounted, built, by omega⟩

/-- A number and its text as keys: one entry is left of two, and nothing is recorded. -/
theorem one_entry_of_two :
    let c : Context := .start (.empty .lenient) "pack.yaml" false
    let es : List (Yaml × Yaml) :=
      [(.int ⟨1, by decide⟩, .map [(.str "label", .str "first")]),
        (.str "1", .map [(.str "label", .str "second")])]
    hasRepeatedKey es = false ∧
      (children .classProperty (.map es)).run c =
        (.ok (some [("1", [("label", .str "second")])]), c) :=
  ⟨rfl, rfl⟩

end Decode

end PackSpec
