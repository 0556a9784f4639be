import PackSpec.Proofs.Build.Composed

set_option autoImplicit false

namespace PackSpec

structure Invariant where
  holds : Context → Prop
  keeps : Bool
  known : ∀ c, holds c → c.keepsDefaults = keeps
  entered : ∀ c segment, holds c → holds (c.enter segment)
  left : ∀ c, holds c → holds c.leave

namespace Build

variable {α β : Type}

/-- Runs of the build keep the invariant. They give what is to be given, or end with a diagnostic
they may end with. -/
def Meets (I : Invariant) (ends : Diagnostic → Prop) (b : Build α) (gives : α → Prop) : Prop :=
  ∀ c, I.holds c → I.holds (b.run c).2 ∧
    match (b.run c).1 with
    | .ok a => gives a
    | .error d => ends d

-- A run on fixed input is evaluated by what is shown of its value, which may be large.
theorem ok_of_shown {b : Build α} {c : Context} (f : α → β) (x : β)
    (shown : (b.run c).1.toOption.map f = some x) :
    ∃ a after, b.run c = (.ok a, after) ∧ f a = x := by
  generalize b.run c = result at shown ⊢
  rcases result with ⟨d | a, after⟩
  · simp [Except.toOption] at shown
  · exact ⟨a, after, rfl, Option.some.inj shown⟩

variable {I : Invariant} {ends : Diagnostic → Prop}

theorem meets_pure {gives : α → Prop} (a : α) (given_ : gives a) :
    Meets I ends (pure a : Build α) gives :=
  fun _ held => ⟨held, given_⟩

theorem meets_bind {b : Build α} {f : α → Build β} (middle : α → Prop) {gives : β → Prop}
    (first : Meets I ends b middle) (next : ∀ a, middle a → Meets I ends (f a) gives) :
    Meets I ends (b >>= f) gives := by
  intro c held
  have ran := first c held
  rw [run_bind]
  generalize b.run c = result at ran ⊢
  rcases result with ⟨_ | a, after⟩
  · exact ran
  · exact next a ran.2 after ran.1

theorem Meets.mono {b : Build α} {ends_ : Diagnostic → Prop} {gives gives_ : α → Prop}
    (h : Meets I ends b gives) (fewer : ∀ d, ends d → ends_ d) (weaker : ∀ a, gives a → gives_ a) :
    Meets I ends_ b gives_ := by
  intro c held
  have ran := h c held
  generalize b.run c = result at ran ⊢
  rcases result with ⟨d | a, after⟩
  · exact ⟨ran.1, fewer d ran.2⟩
  · exact ⟨ran.1, weaker a ran.2⟩

theorem Meets.forget {b : Build α} {gives : α → Prop} (h : Meets I ends b gives) :
    Meets I ends b fun _ => True :=
  h.mono (fun _ ended => ended) fun _ _ => trivial

theorem meets_map {b : Build α} {f : α → β} {gives : β → Prop}
    (first : Meets I ends b fun a => gives (f a)) : Meets I ends (do return f (← b)) gives :=
  meets_bind (fun a => gives (f a)) first fun a given_ => meets_pure (f a) given_

theorem meets_within {b : Build α} {gives : α → Prop} (segment : String)
    (inside : Meets I ends b gives) : Meets I ends (within segment b) gives := by
  intro c held
  have ran := inside (c.enter segment) (I.entered c segment held)
  rw [run_within]
  exact ⟨I.left _ ran.1, ran.2⟩

theorem meets_ofExcept {gives : α → Prop} (r : Except Problem α)
    (fine : ∀ a, r = .ok a → gives a)
    (bad : ∀ e l, r = .error e → ends ⟨.error, l, e⟩) : Meets I ends (ofExcept r) gives := by
  intro c held
  cases r with
  | ok a => exact ⟨held, fine a rfl⟩
  | error e => exact ⟨held, bad e _ rfl⟩

theorem meets_asking {f : Bool → String → Build α} {gives : α → Prop}
    (answered : ∀ ns, Meets I ends (f I.keeps ns) gives) : Meets I ends (asking f) gives := by
  intro c held
  rw [run_asking, I.known c held]
  exact answered c.ns c held

theorem meets_recover {inner : Diagnostic → Prop} {b : Build α} {found : α → Build β}
    {dropped : Build β} (middle : α → Prop) {gives : β → Prop} (tried : Meets I inner b middle)
    (handled : ∀ d, inner d → Meets I ends (handle d) fun _ => True)
    (next : ∀ a, middle a → Meets I ends (found a) gives) (without : Meets I ends dropped gives) :
    Meets I ends (recover b found dropped) gives := by
  intro c held
  have ran := tried c held
  rw [run_recover]
  generalize b.run c = result at ran ⊢
  rcases result with ⟨d | a, after⟩
  · have passed := handled d ran.2 after ran.1
    dsimp only
    generalize (handle d).run after = last at passed ⊢
    rcases last with ⟨_ | _, final⟩
    · exact passed
    · exact without final passed.1
  · exact next a ran.2 after ran.1

def steady (keeps : Bool) (ns : String) : Invariant where
  holds c := c.keepsDefaults = keeps ∧ c.ns = ns
  keeps := keeps
  known _ held := held.1
  entered _ _ held := held
  left _ held := held

theorem meets_steady_warn (keeps : Bool) (ns : String) (e : Problem) :
    Meets (steady keeps ns) ends (warn e) fun _ => True :=
  fun _ held => ⟨held, trivial⟩

theorem meets_framed {b : Build α} {renames : Bool} (composed : Composed renames b)
    (framed : ∀ c after, Framed renames c after → I.holds c → I.holds after) (gives : α → Prop)
    (given_ : ∀ c a after, b.run c = (.ok a, after) → gives a) :
    Meets I (fun _ => True) b gives := by
  intro c held
  refine ⟨framed c _ (framed_run composed c) held, ?_⟩
  have all := given_ c
  generalize b.run c = result at all ⊢
  rcases result with ⟨d | a, after⟩
  · trivial
  · exact all a after rfl

theorem meets_framed_handle {renames : Bool} (d : Diagnostic)
    (framed : ∀ c after, Framed renames c after → I.holds c → I.holds after) :
    Meets I (fun _ => True) (handle d) fun _ => True := by
  intro c held
  refine ⟨framed c _ (framed_handle renames d c) held, ?_⟩
  cases ((handle d).run c).1 <;> trivial

theorem framed_steady (keeps : Bool) (ns : String) (c after : Context) (framed : Framed false c after)
    (held : (steady keeps ns).holds c) : (steady keeps ns).holds after :=
  ⟨framed.keepsDefaults.trans held.1, (framed.ns rfl).trans held.2⟩

theorem meets_steady_handle (keeps : Bool) (ns : String) (d : Diagnostic) :
    Meets (steady keeps ns) (fun _ => True) (handle d) fun _ => True :=
  meets_framed_handle d (framed_steady keeps ns)

theorem meets_steady {b : Build α} (keeps : Bool) (ns : String) (composed : Composed false b)
    (gives : α → Prop) (given_ : ∀ c a after, b.run c = (.ok a, after) → gives a) :
    Meets (steady keeps ns) (fun _ => True) b gives :=
  meets_framed composed (framed_steady keeps ns) gives given_

def naming (keeps : Bool) (ns : String) (names : String → Prop) : Invariant where
  holds c := c.keepsDefaults = keeps ∧ (c.ns = ns ∨ names c.ns)
  keeps := keeps
  known _ held := held.1
  entered _ _ held := held
  left _ held := held

theorem framed_naming (keeps : Bool) (ns : String) (names : String → Prop) (c after : Context)
    (framed : Framed false c after) (held : (naming keeps ns names).holds c) :
    (naming keeps ns names).holds after := by
  refine ⟨framed.keepsDefaults.trans held.1, ?_⟩
  rw [framed.ns rfl]
  exact held.2

def recording (start : Context) (records : Diagnostic → Prop) : Invariant where
  holds c := c.diagnostics.mode = .lenient ∧ c.ns = start.ns ∧
    c.keepsDefaults = start.keepsDefaults ∧
    ∃ new, c.diagnostics.items = start.diagnostics.items ++ new ∧ ∀ d ∈ new, records d
  keeps := start.keepsDefaults
  known _ held := held.2.2.1
  entered _ _ held := held
  left _ held := held

variable {start : Context} {records : Diagnostic → Prop}

theorem holds_start (lenient : start.diagnostics.mode = .lenient) :
    (recording start records).holds start :=
  ⟨lenient, rfl, rfl, [], by simp, by simp⟩

theorem holds_push (c : Context) (d : Diagnostic) (held : (recording start records).holds c)
    (recorded : records d) :
    (recording start records).holds { c with diagnostics := c.diagnostics.push d } := by
  obtain ⟨lenient, ns, keeps, new, items, all⟩ := held
  refine ⟨lenient, ns, keeps, new ++ [d], ?_, ?_⟩
  · simp [Diagnostics.push, items]
  · intro e member
    rcases List.mem_append.1 member with old | last
    · exact all e old
    · rw [List.mem_singleton.1 last]
      exact recorded

theorem meets_handle (d : Diagnostic) (recoverable : d.error.isRecoverable = true)
    (recorded : records d) :
    Meets (recording start records) ends (handle d) fun _ => True := by
  intro c held
  have taken : c.diagnostics.handle d = (c.diagnostics.push d, none) := by
    simp [Diagnostics.handle, Diagnostics.isStrict, held.1, recoverable]
  rw [run_handle, taken]
  exact ⟨holds_push c d held recorded, trivial⟩

theorem meets_report (e : Problem) (recoverable : e.isRecoverable = true)
    (recorded : ∀ l, records ⟨.error, l, e⟩) :
    Meets (recording start records) ends (report e) fun _ => True := by
  intro c held
  let d : Diagnostic := ⟨.error, c.diagnostics.locate c.location, e⟩
  have meets : Meets (recording start records) ends (handle d) fun _ => True :=
    meets_handle d recoverable (recorded _)
  have handled := meets c held
  rw [run_handle] at handled
  rw [run_report]
  exact handled

theorem meets_warn (e : Problem) (recorded : ∀ l, records ⟨.warning, l, e⟩) :
    Meets (recording start records) ends (warn e) fun _ => True :=
  fun c held => ⟨holds_push c _ held (recorded _), trivial⟩

theorem meets_reportRelationship (e : Problem)
    (recoverable : e.isOrientation = true ∨ e.isRecoverable = true)
    (recorded : ∀ l, records ⟨.error, l, e⟩) :
    Meets (recording start records) ends (reportRelationship e) fun _ => True := by
  -- A wrong orientation of one relationship of many is recorded, though it is an error.
  intro c held
  have taken : c.diagnostics.reportRelationship c.location e =
      (c.diagnostics.push ⟨.error, c.diagnostics.locate c.location, e⟩, none) := by
    rcases recoverable with oriented | recoverable
    · simp [Diagnostics.reportRelationship, Diagnostics.isStrict, held.1, oriented]
    · simp [Diagnostics.reportRelationship, Diagnostics.handle, Diagnostics.isStrict, held.1,
        recoverable]
  rw [run_reportRelationship, taken]
  exact ⟨holds_push c _ held (recorded _), trivial⟩

end Build

end PackSpec
