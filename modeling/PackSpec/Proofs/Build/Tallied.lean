import PackSpec.Proofs.Build.Modes
import PackSpec.Proofs.Build.Paired
import PackSpec.Proofs.Build.Recorded

set_option autoImplicit false

namespace PackSpec

/-- What a diagnostic says that does not depend on the lines and the texts of a document. -/
def Diagnostic.mark (d : Diagnostic) : Level × List String × String :=
  (d.level, d.location.path, d.error.code)

theorem Problem.isRecoverable_of_code (e e' : Problem) (code : e.code = e'.code) :
    e.isRecoverable = e'.isRecoverable := by
  cases e <;> cases e' <;> first
    | rfl
    | simp [Problem.code] at code

structure Context.Beside (c c' : Context) : Prop where
  here : c.diagnostics.mode = .lenient
  there : c'.diagnostics.mode = .lenient
  ns : c'.ns = c.ns
  path : c'.location.path = c.location.path
  keeps : c'.keepsDefaults = c.keepsDefaults

namespace Context.Beside

variable {c c' : Context}

theorem self (lenient : c.diagnostics.mode = .lenient) : c.Beside c := ⟨lenient, lenient, rfl, rfl, rfl⟩

theorem enter (beside : c.Beside c') (segment : String) : (c.enter segment).Beside (c'.enter segment) :=
  ⟨beside.here, beside.there, beside.ns, by simp [Context.enter, beside.path], beside.keeps⟩

theorem leave (beside : c.Beside c') : c.leave.Beside c'.leave :=
  ⟨beside.here, beside.there, beside.ns, by simp [Context.leave, beside.path], beside.keeps⟩

theorem record (beside : c.Beside c') (ds es : List Diagnostic) : (c.record ds).Beside (c'.record es) :=
  ⟨beside.here, beside.there, beside.ns, beside.path, beside.keeps⟩

theorem mark_located (beside : c.Beside c') (level : Level) (e e' : Problem) (code : e.code = e'.code) :
    (⟨level, c.diagnostics.locate c.location, e⟩ : Diagnostic).mark =
      (⟨level, c'.diagnostics.locate c'.location, e'⟩ : Diagnostic).mark := by
  simp only [Diagnostic.mark, Diagnostics.path_locate, beside.path, code]

end Context.Beside

namespace Build

variable {α β γ δ : Type}

def Ends (R : α → β → Prop) : Except Diagnostic α → Except Diagnostic β → Prop
  | .ok a, .ok a' => R a a'
  | .error d, .error d' => d.mark = d'.mark
  | _, _ => False

/-- What two runs from `c` and `c'` have come to. -/
structure Tally (R : α → β → Prop) (c c' : Context) (ran : Except Diagnostic α × Context)
    (ran' : Except Diagnostic β × Context) : Prop where
  ends : Ends R ran.1 ran'.1
  beside : ran.2.Beside ran'.2
  recorded : ∃ new new', ran.2.diagnostics.items = c.diagnostics.items ++ new ∧
    ran'.2.diagnostics.items = c'.diagnostics.items ++ new' ∧
    (new.map Diagnostic.mark).Perm (new'.map Diagnostic.mark)

def Tallies (R : α → β → Prop) (b : Build α) (b' : Build β) : Prop :=
  ∀ c c', c.Beside c' → Tally R c c' (b.run c) (b'.run c')

section

variable {R : α → β → Prop} {c c' : Context}

theorem Tally.stay {r : Except Diagnostic α} {r' : Except Diagnostic β} (beside : c.Beside c')
    (ends : Ends R r r') : Tally R c c' (r, c) (r', c') :=
  ⟨ends, beside, [], [], by simp, by simp, .nil⟩

theorem Tally.pushed (beside : c.Beside c') (d d' : Diagnostic) (mark : d.mark = d'.mark) :
    Tally Eq c c' (.ok (), { c with diagnostics := c.diagnostics.push d })
      (.ok (), { c' with diagnostics := c'.diagnostics.push d' }) :=
  ⟨rfl, ⟨beside.here, beside.there, beside.ns, beside.path, beside.keeps⟩, [d], [d'], rfl, rfl, by
    rw [List.map_singleton, List.map_singleton, mark]⟩

theorem Tally.after {last last' : Context} {first : Except Diagnostic α × Context}
    {first' : Except Diagnostic β × Context} (before : Tally R c c' first first')
    (same : first.2 = last) (same' : first'.2 = last') {S : γ → δ → Prop}
    {ran : Except Diagnostic γ × Context} {ran' : Except Diagnostic δ × Context}
    (next : Tally S last last' ran ran') : Tally S c c' ran ran' := by
  obtain ⟨_, _, new, new', items, items', marks⟩ := before
  obtain ⟨ends, beside, more, more', moreItems, moreItems', moreMarks⟩ := next
  subst same same'
  refine ⟨ends, beside, new ++ more, new' ++ more', ?_, ?_, ?_⟩
  · rw [moreItems, items, List.append_assoc]
  · rw [moreItems', items', List.append_assoc]
  · rw [List.map_append, List.map_append]
    exact marks.append moreMarks

theorem tallies_pure {a : α} {a' : β} (related : R a a') :
    Tallies R (pure a : Build α) (pure a') := fun _ _ beside => .stay beside related

theorem tallies_bind {b : Build α} {b' : Build β} {f : α → Build γ} {f' : β → Build δ}
    {S : γ → δ → Prop} (R : α → β → Prop) (first : Tallies R b b')
    (next : ∀ a a', R a a' → Tallies S (f a) (f' a')) : Tallies S (b >>= f) (b' >>= f') := by
  intro c c' beside
  have ran := first c c' beside
  rw [run_bind, run_bind]
  generalize b.run c = result, b'.run c' = result' at ran ⊢
  obtain ⟨r, after⟩ := result
  obtain ⟨r', after'⟩ := result'
  have ends := ran.ends
  cases r <;> cases r'
  case ok.ok a a' => exact ran.after rfl rfl (next a a' ends after after' ran.beside)
  case error.error d d' => exact ⟨ends, ran.beside, ran.recorded⟩
  all_goals exact ends.elim

theorem tallies_map {b : Build α} {b' : Build β} {f : α → γ} {f' : β → δ} {S : γ → δ → Prop}
    (first : Tallies (fun a a' => S (f a) (f' a')) b b') :
    Tallies S (do return f (← b)) (do return f' (← b')) :=
  tallies_bind _ first fun _ _ related => tallies_pure related

theorem Tallies.mono {b : Build α} {b' : Build β} {S : α → β → Prop} (h : Tallies R b b')
    (weaker : ∀ a a', R a a' → S a a') : Tallies S b b' := by
  intro c c' beside
  have ran := h c c' beside
  refine ⟨?_, ran.beside, ran.recorded⟩
  have ends := ran.ends
  generalize (b.run c).1 = r, (b'.run c').1 = r' at ends ⊢
  cases r <;> cases r'
  case ok.ok a a' => exact weaker a a' ends
  case error.error => exact ends
  all_goals exact ends.elim

theorem tallies_within {b : Build α} {b' : Build β} (segment : String) (inside : Tallies R b b') :
    Tallies R (within segment b) (within segment b') := by
  intro c c' beside
  have ran := inside _ _ (beside.enter segment)
  rw [run_within, run_within]
  exact ⟨ran.ends, ran.beside.leave, ran.recorded⟩

theorem tallies_asking {f : Bool → String → Build α} {f' : Bool → String → Build β}
    (answered : ∀ keeps ns, Tallies R (f keeps ns) (f' keeps ns)) :
    Tallies R (asking f) (asking f') := by
  intro c c' beside
  rw [run_asking, run_asking, beside.keeps, beside.ns]
  exact answered _ _ c c' beside

theorem tallies_rename (ns : String) : Tallies Eq (rename ns) (rename ns) := by
  intro c c' beside
  have ran (c : Context) : (rename ns).run c = (.ok (), { c with ns }) := rfl
  rw [ran, ran]
  exact ⟨rfl, ⟨beside.here, beside.there, rfl, beside.path, beside.keeps⟩, [], [], by simp, by simp,
    .nil⟩

end

theorem tallies_handle (d d' : Diagnostic) (mark : d.mark = d'.mark) :
    Tallies Eq (handle d) (handle d') := by
  intro c c' beside
  -- Whether a lenient sink takes a diagnostic can be told by its mark.
  have level : d.level = d'.level := congrArg Prod.fst mark
  have recoverable := d.error.isRecoverable_of_code d'.error (congrArg (fun m => m.2.2) mark)
  have takes : c'.diagnostics.takes d' = c.diagnostics.takes d := by
    simp only [Diagnostics.takes, Diagnostic.isWarning, Diagnostics.isStrict, beside.here,
      beside.there, level, recoverable]
  rw [run_handle_takes, run_handle_takes, takes]
  split
  · exact .pushed beside d d' mark
  · exact .stay beside mark

theorem tallies_report (e e' : Problem) (code : e.code = e'.code) :
    Tallies Eq (report e) (report e') := by
  intro c c' beside
  have handled (e : Problem) (c : Context) :
      (report e).run c = (handle ⟨.error, c.diagnostics.locate c.location, e⟩).run c := by
    rw [run_report, run_handle]
    rfl
  rw [handled, handled]
  exact tallies_handle _ _ (beside.mark_located .error e e' code) c c' beside

theorem tallies_report_none {R : α → β → Prop} (e e' : Problem) (code : e.code = e'.code) :
    Tallies (Option.Rel R) (do report e; return none) (do report e'; return none) :=
  tallies_bind Eq (tallies_report e e' code) fun _ _ _ => tallies_pure .none

theorem tallies_option {R : α → β → Prop} {S : γ → δ → Prop} {b : Build (Option α)}
    {b' : Build (Option β)} {f : α → γ} {f' : β → δ} (h : Tallies (Option.Rel R) b b')
    (related : ∀ a a', R a a' → S (f a) (f' a')) :
    Tallies (Option.Rel S) (do return (← b).map f) (do return (← b').map f') := by
  refine tallies_map (h.mono ?_)
  rintro _ _ (here | _)
  · exact .some (related _ _ here)
  · exact .none

theorem tallies_reportRelationship (e : Problem) :
    Tallies Eq (reportRelationship e) (reportRelationship e) := by
  intro c c' beside
  have mark := beside.mark_located .error e e rfl
  -- A wrong orientation is recorded; anything else is handled as ever.
  have handled (c : Context) (lenient : c.diagnostics.mode = .lenient) :
      (reportRelationship e).run c =
        let d : Diagnostic := ⟨.error, c.diagnostics.locate c.location, e⟩
        if e.isOrientation then (.ok (), { c with diagnostics := c.diagnostics.push d })
        else (handle d).run c := by
    dsimp only
    rw [run_reportRelationship, run_handle, Diagnostics.reportRelationship]
    simp only [Diagnostics.isStrict, lenient]
    cases e.isOrientation <;> rfl
  rw [handled c beside.here, handled c' beside.there]
  dsimp only
  split
  · exact .pushed beside _ _ mark
  · exact tallies_handle _ _ mark c c' beside

theorem tallies_warn (e e' : Problem) (code : e.code = e'.code) :
    Tallies Eq (warn e) (warn e') := by
  intro c c' beside
  rw [run_warn, run_warn]
  exact .pushed beside _ _ (beside.mark_located .warning e e' code)

theorem tallies_abort {R : α → β → Prop} (e e' : Problem) (code : e.code = e'.code) :
    Tallies R (abort e : Build α) (abort e') := by
  intro c c' beside
  rw [run_abort, run_abort]
  exact .stay beside (beside.mark_located .error e e' code)

def Agreed (R : α → β → Prop) : Except Problem α → Except Problem β → Prop
  | .ok a, .ok a' => R a a'
  | .error e, .error e' => e.code = e'.code
  | _, _ => False

theorem tallies_ofExcept {R : α → β → Prop} {r : Except Problem α} {r' : Except Problem β}
    (agreed : Agreed R r r') : Tallies R (ofExcept r) (ofExcept r') := by
  cases r <;> cases r'
  case ok.ok => exact tallies_pure agreed
  case error.error e e' => exact tallies_abort e e' agreed
  all_goals exact agreed.elim

theorem tallies_recover {R : α → β → Prop} {S : γ → δ → Prop} {b : Build α} {b' : Build β}
    {found : α → Build γ} {found' : β → Build δ} {dropped : Build γ} {dropped' : Build δ}
    (tried : Tallies R b b') (next : ∀ a a', R a a' → Tallies S (found a) (found' a'))
    (without : Tallies S dropped dropped') :
    Tallies S (recover b found dropped) (recover b' found' dropped') := by
  intro c c' beside
  have ran := tried c c' beside
  rw [run_recover, run_recover]
  generalize b.run c = result, b'.run c' = result' at ran ⊢
  obtain ⟨r, after⟩ := result
  obtain ⟨r', after'⟩ := result'
  have ends := ran.ends
  cases r <;> cases r'
  case ok.ok a a' => exact ran.after rfl rfl (next a a' ends after after' ran.beside)
  case error.error d d' =>
    have rest := tallies_bind Eq (tallies_handle d d' ends) (fun _ _ _ => without) after after'
      ran.beside
    rw [run_bind, run_bind] at rest
    dsimp only
    generalize (handle d).run after = last, (handle d').run after' = last' at rest ⊢
    obtain ⟨_ | _, _⟩ := last <;> obtain ⟨_ | _, _⟩ := last' <;> exact ran.after rfl rfl rest
  all_goals exact ends.elim

theorem tallies_self {renames : Bool} {b : Build α} (composed : Composed renames b) :
    Tallies Eq b b := by
  -- Each operation does the same in both contexts, whatever was recorded before.
  induction composed with
  | pure a => exact tallies_pure rfl
  | bind b f _ _ first next => exact tallies_bind Eq first fun a _ same => same ▸ next a
  | report e => exact tallies_report e e rfl
  | reportRelationship e => exact tallies_reportRelationship e
  | warn e => exact tallies_warn e e rfl
  | abort e => exact tallies_abort e e rfl
  | within segment b _ inside => exact tallies_within segment inside
  | recover b found dropped _ _ _ tried next without =>
    exact tallies_recover tried (fun a _ same => same ▸ next a) without
  | asking f _ answered => exact tallies_asking answered
  | rename ns _ => exact tallies_rename ns

theorem tallies_trans {b : Build α} {b' : Build β} {b'' : Build γ} {R : α → β → Prop}
    {S : β → γ → Prop} (first : Tallies R b b') (next : Tallies S b' b'') :
    Tallies (fun a a'' => ∃ a', R a a' ∧ S a' a'') b b'' := by
  intro c c'' beside
  have ran := first c c (.self beside.here)
  have ran' := next c c'' beside
  obtain ⟨ends, besides, new, part, items, partItems, marks⟩ := ran
  obtain ⟨ends', besides', part', new', partItems', items', marks'⟩ := ran'
  -- The run in the middle starts from the first context, so it is one run for both relations.
  obtain rfl : part = part' := List.append_cancel_left (partItems.symm.trans partItems')
  refine ⟨?_, ⟨besides.here, besides'.there, besides'.ns.trans besides.ns,
    besides'.path.trans besides.path, besides'.keeps.trans besides.keeps⟩, new, new', items, items',
    marks.trans marks'⟩
  generalize (b.run c).1 = r, (b'.run c).1 = r', (b''.run c'').1 = r'' at ends ends'
  cases r <;> cases r' <;> cases r''
  case ok.ok.ok a a' a'' => exact ⟨a', ends, ends'⟩
  case error.error.error => exact ends.trans ends'
  all_goals first
    | exact ends.elim
    | exact ends'.elim

theorem Tallies.knowing {R : α → β → Prop} {b : Build α} {b' : Build β} {P : α → Prop} {Q : β → Prop}
    (h : Tallies R b b')
    (first : ∀ c a after, c.diagnostics.mode = .lenient → b.run c = (.ok a, after) → P a)
    (second : ∀ c a after, c.diagnostics.mode = .lenient → b'.run c = (.ok a, after) → Q a) :
    Tallies (fun a a' => R a a' ∧ P a ∧ Q a') b b' := by
  intro c c' beside
  have ran := h c c' beside
  have gives := first c
  have gives' := second c'
  refine ⟨?_, ran.beside, ran.recorded⟩
  have ends := ran.ends
  generalize b.run c = result, b'.run c' = result' at ends gives gives' ⊢
  obtain ⟨r, after⟩ := result
  obtain ⟨r', after'⟩ := result'
  cases r <;> cases r'
  case ok.ok a a' =>
    exact ⟨ends, gives a after beside.here rfl, gives' a' after' beside.there rfl⟩
  case error.error => exact ends
  all_goals exact ends.elim

end Build

structure Context.Abreast (c c' : Context) : Prop where
  mode : c'.diagnostics.mode = c.diagnostics.mode
  ns : c'.ns = c.ns
  path : c'.location.path = c.location.path
  keeps : c'.keepsDefaults = c.keepsDefaults
  marks : (c.diagnostics.items.map Diagnostic.mark).Perm (c'.diagnostics.items.map Diagnostic.mark)

namespace Build

variable {α β : Type}

/-- What runs of two builds from `c` and a context abreast of it have come to. -/
structure Matched (R : α → β → Prop) (c : Context) (ran : Except Diagnostic α × Context)
    (ran' : Except Diagnostic β × Context) : Prop where
  aborts : (∃ d, ran.1 = .error d) ↔ ∃ d, ran'.1 = .error d
  given : ∀ a a', ran.1 = .ok a → ran'.1 = .ok a' → R a a'
  recorded : c.diagnostics.mode = .lenient →
    (ran.2.diagnostics.items.map Diagnostic.mark).Perm (ran'.2.diagnostics.items.map Diagnostic.mark)

theorem Agree.ok_iff {c : Context} {strict lenient : Except Diagnostic α × Context}
    (h : Agree c strict lenient) (a : α) :
    strict.1 = .ok a ↔ lenient.1 = .ok a ∧
      ∃ new, lenient.2.diagnostics.items = c.diagnostics.items ++ new ∧
        ∀ d ∈ new, d.isWarning = true := by
  cases h with
  | same b after new warnings recorded =>
    exact ⟨fun done => ⟨done, new, recorded, warnings⟩, fun ⟨done, _⟩ => done⟩
  | stopped d s l r new rest _ isError _ _ passed =>
    refine ⟨fun done => by simp at done, fun ⟨done, later, items, warnings⟩ => ?_⟩
    -- The error that ended the strict run is among what the lenient run has recorded.
    obtain rfl : r = .ok a := done
    dsimp only at items
    rw [items] at passed
    have all : later = new ++ d :: rest := by simpa [ended] using passed
    have warning := warnings d (by simp [all])
    simp [isError] at warning

theorem warnings_of_marks (new new' : List Diagnostic)
    (marks : (new.map Diagnostic.mark).Perm (new'.map Diagnostic.mark))
    (warnings : ∀ d ∈ new, d.isWarning = true) : ∀ d ∈ new', d.isWarning = true := by
  intro d member
  obtain ⟨e, inside, same⟩ := List.mem_map.1 (marks.mem_iff.2 (List.mem_map_of_mem member))
  have level : e.level = d.level := congrArg Prod.fst same
  rw [Diagnostic.isWarning, ← level]
  exact warnings e inside

theorem aborted_iff (r : Except Diagnostic α) : (∃ d, r = .error d) ↔ ¬ ∃ a, r = .ok a := by
  cases r <;> simp

theorem Ends.ok_iff {R : α → β → Prop} {r : Except Diagnostic α} {r' : Except Diagnostic β}
    (ends : Ends R r r') : (∃ a, r = .ok a) ↔ ∃ a', r' = .ok a' := by
  cases r <;> cases r' <;> first
    | exact ends.elim
    | simp

theorem Ends.given {R : α → β → Prop} {r : Except Diagnostic α} {r' : Except Diagnostic β}
    (ends : Ends R r r') (a : α) (a' : β) (done : r = .ok a) (done' : r' = .ok a') : R a a' := by
  subst done done'
  exact ends

theorem Tallies.matched {renames renames' : Bool} {R : α → β → Prop} {b : Build α} {b' : Build β}
    (h : Tallies R b b') (composed : Composed renames b) (composed' : Composed renames' b')
    (c c' : Context) (abreast : c.Abreast c') : Matched R c (b.run c) (b'.run c') := by
  have lenient := h (c.under .lenient) (c'.under .lenient)
    ⟨rfl, rfl, abreast.ns, abreast.path, abreast.keeps⟩
  obtain ⟨ends, _, new, new', items, items', marks⟩ := lenient
  rw [under_items] at items items'
  -- A strict run is judged by the lenient one from the same context.
  cases mode : c.diagnostics.mode with
  | lenient =>
    have same : c.under .lenient = c := by rw [← mode]; rfl
    have same' : c'.under .lenient = c' := by rw [← mode, ← abreast.mode]; rfl
    rw [same] at ends items
    rw [same'] at ends items'
    refine ⟨?_, ends.given, fun _ => ?_⟩
    · rw [aborted_iff, aborted_iff, ends.ok_iff]
    · rw [items, items', List.map_append, List.map_append]
      exact abreast.marks.append marks
  | strict =>
    have same : c.under .strict = c := by rw [← mode]; rfl
    have same' : c'.under .strict = c' := by rw [← mode, ← abreast.mode]; rfl
    have strict := (agrees_run composed c).ok_iff
    have strict' := (agrees_run composed' c').ok_iff
    rw [same] at strict
    rw [same'] at strict'
    refine ⟨?_, ?_, fun other => by simp [mode] at other⟩
    · rw [aborted_iff, aborted_iff]
      refine not_congr ⟨?_, ?_⟩
      · rintro ⟨a, done⟩
        obtain ⟨here, later, recorded, warnings⟩ := (strict a).1 done
        obtain rfl : new = later := List.append_cancel_left (items.symm.trans recorded)
        obtain ⟨a', there⟩ := ends.ok_iff.1 ⟨a, here⟩
        exact ⟨a', (strict' a').2 ⟨there, new', items', warnings_of_marks new new' marks warnings⟩⟩
      · rintro ⟨a', done⟩
        obtain ⟨there, later, recorded, warnings⟩ := (strict' a').1 done
        obtain rfl : new' = later := List.append_cancel_left (items'.symm.trans recorded)
        obtain ⟨a, here⟩ := ends.ok_iff.2 ⟨a', there⟩
        exact ⟨a, (strict a).2 ⟨here, new, items, warnings_of_marks new' new marks.symm warnings⟩⟩
    · exact fun a a' done done' => ends.given a a' ((strict a).1 done).1 ((strict' a').1 done').1

end Build

end PackSpec
