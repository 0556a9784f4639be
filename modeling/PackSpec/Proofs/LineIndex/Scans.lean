import PackSpec.Proofs.LineIndex.Lines

set_option autoImplicit false

namespace PackSpec

namespace LineIndex

open Text (isBlank Stops trim)

/-- From one state to the other, rows give the marks that they know, the first on the given line. -/
inductive Scans : State → Nat → List Row → State → Prop
  | done (s : State) (line : Nat) : Scans s line [] s
  | row {s t u : State} {line : Nat} {r : Row} {rows : List Row}
      (here : step s line r.text = (t, r.mark? line)) (later : Scans t (line + 1) rows u) :
      Scans s line (r :: rows) u

namespace Scans

variable {s t u : State} {line : Nat} {rows more : List Row}

theorem append (first : Scans s line rows t) (second : Scans t (line + rows.length) more u) :
    Scans s line (rows ++ more) u := by
  induction first with
  | done => exact second
  | @row s t _ line r rows here _ ih =>
    refine .row here (ih ?_)
    rwa [Nat.add_assoc, Nat.add_comm 1]

theorem one {r : Row} (here : step s line r.text = (t, r.mark? line)) : Scans s line [r] t :=
  .row here (.done t (line + 1))

theorem marks (scans : Scans s line rows t) :
    marksFrom s line (rows.map Row.text) = marksOf line rows := by
  induction scans with
  | done => rfl
  | row here _ ih =>
    rw [List.map_cons, marksFrom, here, marksOf, ← ih]

end Scans

/-- The keys at an indentation stand below `path`, and a line there is not part of a block of text. -/
structure Ready (path : List String) (indent : Nat) (s : State) : Prop where
  trail : trail (s.frames.dropWhile fun f => indent ≤ f.indent) = path
  ends : ∀ owner, s.blockText = some owner → indent ≤ owner

def Keeps (indent : Nat) (s t : State) : Prop :=
  ∀ path outer, outer ≤ indent → Ready path outer s → Ready path outer t

namespace Keeps

variable {indent : Nat} {s t u : State}

theorem refl (s : State) : Keeps indent s s := fun _ _ _ ready => ready

theorem trans (first : Keeps indent s t) (second : Keeps indent t u) : Keeps indent s u :=
  fun path outer above ready => second path outer above (first path outer above ready)

theorem mono {deeper : Nat} (below : indent ≤ deeper) (keeps : Keeps deeper s t) : Keeps indent s t :=
  fun path outer above => keeps path outer (above.trans below)

theorem of_rests (rests : Rests s t) : Keeps indent s t := by
  intro path outer _ ready
  refine ⟨by rw [rests.frames, ready.trail], fun owner open_ => ?_⟩
  rcases rests.blockText with same | none_
  · exact ready.ends owner (same ▸ open_)
  · simp [none_] at open_

end Keeps

theorem scans_gap (gap : List Filler) (s : State) (line : Nat) :
    ∃ t, Scans s line (gap.map Filler.row) t ∧ Rests s t := by
  induction gap generalizing s line with
  | nil => exact ⟨s, .done s line, .refl s⟩
  | cons f gap ih =>
    obtain ⟨t, here, first⟩ := step_filler s line f
    obtain ⟨u, later, second⟩ := ih t (line + 1)
    have unmarked : f.row.mark? line = none := by cases f <;> rfl
    exact ⟨u, .row (unmarked ▸ here) later, first.trans second⟩

theorem scans_lines (lines : List BlockLine) (frames : List Frame) (owner line : Nat) :
    Scans ⟨frames, some owner⟩ line (lines.map (BlockLine.row owner)) ⟨frames, some owner⟩ := by
  induction lines generalizing line with
  | nil => exact .done _ line
  | cons b lines ih =>
    have unmarked : (b.row owner).mark? line = none := by cases b <;> rfl
    exact .row (unmarked ▸ step_blockLine frames owner line b) (ih (line + 1))

theorem trail_enclosing (frames : List Frame) (indent : Nat) :
    trail (enclosing frames indent) = trail (frames.dropWhile fun f => indent ≤ f.indent) := by
  unfold enclosing
  cases frames.dropWhile fun f => indent ≤ f.indent <;> rfl

theorem trail_above (frames : List Frame) (indent outer : Nat) (above : outer ≤ indent) :
    trail ((enclosing frames indent).dropWhile fun f => outer ≤ f.indent) =
      trail (frames.dropWhile fun f => outer ≤ f.indent) := by
  induction frames with
  | nil => rfl
  | cons f frames ih =>
    unfold enclosing at ih ⊢
    rw [List.dropWhile_cons]
    -- A key that the first test drops is dropped by the second one as well.
    by_cases inside : indent ≤ f.indent
    · have outside : outer ≤ f.indent := above.trans inside
      simpa [inside, outside] using ih
    · by_cases outside : outer ≤ f.indent <;> simp [inside, outside, withChild, trail]

structure Owner (path : List String) (indent child index : Nat) (f : Frame) (outer : List Frame) :
    Prop where
  trail : trail (f :: outer) = path
  indent : f.indent = indent
  opens : f.opensBlock = true
  child : f.childIndent.all (· == child) = true
  index : f.items = index

def behind (f : Frame) (outer : List Frame) (value : List Char) : State :=
  ⟨f :: outer, if isBlockText (trim value) then some f.indent else none⟩

theorem scans_head {path : List String} {indent : Nat} {s : State} (ready : Ready path indent s)
    (line : Nat) (head : Head) (value : List Char) :
    ∃ f outer, Scans s line (head.rows path indent value) (behind f outer value) ∧
      Keeps indent s (behind f outer value) ∧ f.indent = indent ∧
      (value = [] → ∀ child, Owner (path ++ [head.key.name]) indent child 0 f outer) := by
  obtain ⟨t, gap, rests⟩ := scans_gap head.gap s line
  have rested : Keeps indent s t := .of_rests rests
  have here := rested path indent (Nat.le_refl indent) ready
  have names : trail (enclosing t.frames indent) = path := by
    rw [trail_enclosing, here.trail]
  have step_ := step_key t (line + (head.gap.map Filler.row).length) indent head.key value here.ends
  -- The key ends all keys that are not above it, which for outer indentations changes nothing.
  refine ⟨⟨indent, head.key.name, (trim value).isEmpty || begins ['#'] (trim value), none, 0⟩,
    enclosing t.frames indent, gap.append (.one (step_.trans ?_)), ?_, rfl, ?_⟩
  · simp [keyed, behind, Row.mark?, trail, ← names]
  · intro path outer above before
    have kept := rested path outer above before
    refine ⟨?_, fun owner open_ => ?_⟩
    · simp [behind, above, trail_above t.frames indent outer above, kept.trail]
    · obtain ⟨-, rfl⟩ : isBlockText (trim value) = true ∧ indent = owner := by
        simpa [behind] using open_
      exact above
  · rintro rfl child
    exact ⟨by simp [trail, ← names], rfl, rfl, rfl, rfl⟩

section

variable {path : List String} {indent child index : Nat} {f : Frame} {outer : List Frame}

theorem Owner.ready (owner : Owner path indent child index f outer) (deeper : Nat)
    (below : indent < deeper) : Ready path deeper (behind f outer []) := by
  have inside : ¬ deeper ≤ f.indent := by
    rw [owner.indent]
    omega
  have none_ : isBlockText (trim []) = false := rfl
  exact ⟨by simp [behind, inside, owner.trail], by simp [behind, none_]⟩

theorem item_owner (owner : Owner path indent child index f outer) (below : indent ≤ child)
    (line : Nat) :
    ∃ g, item (f :: outer) line child =
        (g :: outer, some ⟨path ++ [toString index], ⟨line, child + 1⟩⟩) ∧
      Owner path indent child (index + 1) g outer := by
  have here : endsBeforeItem child f = false := by
    have above : ¬ child < f.indent := by
      rw [owner.indent]
      omega
    simp [endsBeforeItem, above, owner.opens, owner.child]
  refine ⟨{ withChild child f with items := f.items + 1 }, ?_, ?_⟩
  · simp [item, here, owner.trail, owner.index]
  · refine ⟨owner.trail, owner.indent, owner.opens, ?_, by simp [owner.index]⟩
    have known := owner.child
    cases given : f.childIndent <;> simp_all [withChild]

theorem scans_items (list : List Item) (owner : Owner path indent child index f outer)
    (below : indent ≤ child) (line : Nat) :
    ∃ t, Scans ⟨f :: outer, none⟩ line (itemRows path child index list) t ∧
      Keeps indent ⟨f :: outer, none⟩ t := by
  induction list generalizing index f line with
  | nil => exact ⟨_, .done _ line, .refl _⟩
  | cons i list ih =>
    obtain ⟨t, gap, rests⟩ := scans_gap i.gap ⟨f :: outer, none⟩ line
    obtain rfl := rests.eq_of_none
    obtain ⟨g, met, next⟩ := item_owner owner below (line + (i.gap.map Filler.row).length)
    have step_ := step_item ⟨f :: outer, none⟩ (line + (i.gap.map Filler.row).length) child i.text.1
      (by simp)
    rw [met] at step_
    obtain ⟨u, later, keeps⟩ := ih next (line + (i.gap.map Filler.row).length + 1)
    refine ⟨u, gap.append (.row step_ later), .trans (fun names outer_ above before => ?_) keeps⟩
    have outside : outer_ ≤ f.indent := owner.indent ▸ above
    have outside_ : outer_ ≤ g.indent := next.indent ▸ above
    refine ⟨?_, by simp⟩
    have trail_ := before.trail
    simpa [outside, outside_] using trail_

end

theorem isBlockText_header (h : Header) : isBlockText (trim h.text) = true := by
  obtain ⟨mark, marked, more⟩ := h
  have dark : isBlank mark = false := by rcases marked with rfl | rfl <;> decide
  rw [Header.text, trim, Text.trimStart, Text.dropWhile_of_stops (by simpa using dark),
    Text.trimEnd_cons, dark, if_neg (by simp)]
  rcases marked with rfl | rfl <;> rfl

theorem scans_outline (o : Outline) {path : List String} {indent : Nat} {s : State}
    (ready : Ready path indent s) (line : Nat) :
    ∃ t, Scans s line (o.rows path indent) t ∧ Keeps indent s t := by
  induction o generalizing path indent s line with
  | done gap =>
    obtain ⟨t, scans, rests⟩ := scans_gap gap s line
    exact ⟨t, scans, .of_rests rests⟩
  | text head value rest ih =>
    obtain ⟨f, outer, first, keeps, -, -⟩ := scans_head ready line head value.1
    obtain ⟨u, later, keeps_⟩ := ih (keeps path indent (Nat.le_refl indent) ready) _
    exact ⟨u, first.append later, keeps.trans keeps_⟩
  | block head header lines rest ih =>
    obtain ⟨f, outer, first, keeps, same, -⟩ := scans_head ready line head header.text
    have skipping : behind f outer header.text = ⟨f :: outer, some indent⟩ := by
      rw [behind, isBlockText_header, same]
      rfl
    rw [skipping] at first keeps
    have middle := scans_lines lines (f :: outer) indent
    obtain ⟨u, later, keeps_⟩ := ih (keeps path indent (Nat.le_refl indent) ready) _
    exact ⟨u, first.append ((middle _).append later), keeps.trans keeps_⟩
  | items head deeper list rest ih =>
    obtain ⟨f, outer, first, keeps, -, owner⟩ := scans_head ready line head []
    obtain ⟨t, middle, keeps_⟩ := scans_items list (owner rfl (indent + deeper)) (by omega) _
    have back := keeps.trans keeps_
    obtain ⟨u, later, keeps'⟩ := ih (back path indent (Nat.le_refl indent) ready) _
    exact ⟨u, first.append (middle.append later), back.trans keeps'⟩
  | mapping head deeper inner rest ihInner ih =>
    obtain ⟨f, outer, first, keeps, -, owner⟩ := scans_head ready line head []
    obtain ⟨t, middle, keeps_⟩ :=
      ihInner ((owner rfl 0).ready (indent + deeper + 1) (by omega)) _
    -- All lines inside are deeper than the key, so the entries after it are as ready as before.
    have back := keeps.trans (keeps_.mono (show indent ≤ indent + deeper + 1 by omega))
    obtain ⟨u, later, keeps'⟩ := ih (back path indent (Nat.le_refl indent) ready) _
    exact ⟨u, first.append (middle.append later), back.trans keeps'⟩

end LineIndex

end PackSpec
