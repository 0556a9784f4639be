import PackSpec.Proofs.LineIndex.Outline

set_option autoImplicit false

namespace PackSpec

namespace LineIndex

open Text (isBlank Stops trim trimEnd)

theorem foldl_width (cs : List Char) (n : Nat) :
    cs.foldl (fun n c => n + c.utf8Size) n = n + width cs := by
  induction cs generalizing n with
  | nil => rfl
  | cons c cs ih =>
    have head : width (c :: cs) = 0 + c.utf8Size + width cs := ih (0 + c.utf8Size)
    rw [List.foldl_cons, ih, head]
    omega

theorem width_append (xs ys : List Char) : width (xs ++ ys) = width xs + width ys := by
  rw [width, List.foldl_append, foldl_width ys]
  rfl

theorem width_spaces (n : Nat) : width (spaces n) = n := by
  induction n with
  | zero => rfl
  | succ n ih =>
    have one : width [' '] = 1 := rfl
    rw [spaces, List.replicate_succ', width_append, one]
    exact congrArg (· + 1) ih

theorem blank_spaces (n : Nat) : ∀ c ∈ spaces n, isBlank c = true := by
  intro c member
  rw [List.eq_of_mem_replicate member]
  decide

theorem trim_body (body : List Char) (starts : Stops isBlank body) (n : Nat) :
    trim (spaces n ++ body) = trimEnd body := by
  rw [trim, Text.trimStart, Text.dropWhile_append_stops (blank_spaces n) starts]

theorem step_body (body : List Char) (starts : Stops isBlank body) (filled : body ≠ []) (s : State)
    (line n : Nat) (ends : ∀ owner, s.blockText = some owner → n ≤ owner) :
    step s line (spaces n ++ body) = node s.frames line n (trimEnd body) := by
  have dark : (trimEnd body).isEmpty = false := by
    obtain ⟨c, cs, rfl⟩ := List.exists_cons_of_ne_nil filled
    simp [Text.trimEnd_cons, starts c rfl]
  unfold step
  rw [trim_body body starts, Text.takeWhile_append_stops (blank_spaces n) starts, width_spaces]
  cases open_ : s.blockText with
  | none => rfl
  | some owner => simp [dark, Nat.not_lt.2 (ends owner open_)]

theorem step_empty (s : State) (line : Nat) (raw : List Char) (empty_ : trim raw = []) :
    step s line raw = (s, none) := by
  obtain ⟨frames, blockText⟩ := s
  cases blockText <;> simp [step, empty_, node, isPassedOver]

structure Rests (s t : State) : Prop where
  frames : t.frames = s.frames
  blockText : t.blockText = s.blockText ∨ t.blockText = none

theorem Rests.refl (s : State) : Rests s s := ⟨rfl, .inl rfl⟩

theorem Rests.trans {s t u : State} (first : Rests s t) (second : Rests t u) : Rests s u := by
  refine ⟨second.frames.trans first.frames, ?_⟩
  rcases second.blockText with same | none_
  · rw [same]
    exact first.blockText
  · exact .inr none_

theorem Rests.eq_of_none {frames : List Frame} {t : State} (rests : Rests ⟨frames, none⟩ t) :
    t = ⟨frames, none⟩ := by
  obtain ⟨frames_, blockText⟩ := t
  obtain ⟨same, ended⟩ := rests
  obtain rfl : frames_ = frames := same
  obtain rfl : blockText = none := or_self_iff.1 ended
  rfl

theorem step_passed (s : State) (line : Nat) (raw : List Char)
    (passed : isPassedOver (trim raw) = true) :
    ∃ t, step s line raw = (t, none) ∧ Rests s t := by
  have node_ (indent : Nat) : node s.frames line indent (trim raw) = (⟨s.frames, none⟩, none) := by
    rw [node, if_pos passed]
  unfold step
  cases s.blockText with
  | none => exact ⟨_, node_ _, rfl, .inr rfl⟩
  | some owner =>
    dsimp only
    split
    · exact ⟨s, rfl, .refl s⟩
    · exact ⟨_, node_ _, rfl, .inr rfl⟩

theorem step_filler (s : State) (line : Nat) (f : Filler) :
    ∃ t, step s line f.row.text = (t, none) ∧ Rests s t := by
  cases f with
  | blank cs => exact ⟨s, step_empty s line cs.text (Text.trim_blank cs.text cs.blank), .refl s⟩
  | comment indent text =>
    have dark : isBlank '#' = false := by decide
    refine step_passed s line _ ?_
    rw [Filler.row, trim_body _ (by simpa using dark), Text.trimEnd_cons, dark]
    simp [isPassedOver, begins]

theorem step_blockLine (frames : List Frame) (owner line : Nat) (b : BlockLine) :
    step ⟨frames, some owner⟩ line (b.row owner).text = (⟨frames, some owner⟩, none) := by
  cases b with
  | blank cs => exact step_empty _ line cs.text (Text.trim_blank cs.text cs.blank)
  | deeper more text =>
    have indent : owner < width ((spaces (owner + 1 + more) ++ text.1).takeWhile isBlank) := by
      rw [List.takeWhile_append_of_pos (blank_spaces _), width_append, width_spaces]
      omega
    simp [step, BlockLine.row, indent]

def Apart (rest : List Char) : Prop := rest = [] ∨ ∃ cs, rest = ' ' :: cs

theorem apart_spaced (text : List Char) : Apart (trimEnd (spaced text)) := by
  unfold spaced
  split
  · exact .inl rfl
  · rw [Text.trimEnd_cons]
    split
    · exact .inl rfl
    · exact .inr ⟨_, rfl⟩

theorem trim_spaced (text : List Char) : trim (spaced text) = trim text := by
  unfold spaced
  split
  · rename_i none_
    rw [none_]
  · rw [trim, Text.trimStart, List.dropWhile_cons]
    rfl

theorem begins_key (marker text rest : List Char) (none_ : ¬ marker <+: text)
    (bare : ':' ∉ marker) : begins marker (text ++ ':' :: rest) = false := by
  rw [begins, ← Bool.not_eq_true, List.isPrefixOf_iff_prefix]
  rintro ⟨more, same⟩
  -- A marker that is longer than the text has the colon in it.
  rcases List.append_eq_append_iff.1 same with ⟨left, rfl, _⟩ | ⟨left, rfl, tail⟩
  · exact none_ (List.prefix_append marker left)
  · cases left with
    | nil => exact none_ (by simp)
    | cons c left =>
      obtain rfl := (List.cons.inj tail).1
      simp at bare

theorem splitAtColon_cons (c : Char) (text rest : List Char) (colon : ¬ [':', ' '] <:+: c :: text) :
    splitAtColon (c :: (text ++ ':' :: rest)) =
      (splitAtColon (text ++ ':' :: rest)).map fun (key, value) => (c :: key, value) := by
  rw [splitAtColon]
  rintro cs rfl same
  cases text with
  | nil => simp at same
  | cons d text =>
    obtain rfl := (List.cons.inj same).1
    exact colon ⟨[], text, rfl⟩

theorem splitAtColon_key (text rest : List Char) (colon : ¬ [':', ' '] <:+: text) (apart : Apart rest) :
    splitAtColon (text ++ ':' :: rest) = if rest = [] then none else some (text, rest.tail) := by
  induction text with
  | nil => rcases apart with rfl | ⟨cs, rfl⟩ <;> rfl
  | cons c text ih =>
    have inside : ¬ [':', ' '] <:+: text := fun there =>
      colon (there.trans (List.suffix_cons c text).isInfix)
    rw [List.cons_append, splitAtColon_cons c text rest colon, ih inside]
    split <;> rfl

theorem plainKey_key (text rest : List Char) (trimmed : trim text = text)
    (colon : ¬ [':', ' '] <:+: text) (apart : Apart rest) :
    plainKey (text ++ ':' :: rest) = some (text, trim rest) := by
  have kept : trimEnd text = text := by
    rw [← trimmed, trim, Text.trimEnd_trimEnd]
  rw [plainKey, splitAtColon_key text rest colon apart]
  rcases apart with rfl | ⟨cs, rfl⟩
  · have last : (text ++ [':']).getLast? == some ':' := by simp
    rw [if_pos rfl, if_pos last, List.dropLast_concat, kept]
    rfl
  · rw [if_neg (List.cons_ne_nil _ _)]
    simp only [List.tail_cons, kept]
    rfl

theorem quotedKey_key (quote : Char) (text rest : List Char) (clear : quote ∉ text) :
    quotedKey quote (text ++ quote :: ':' :: rest) = some (text, trim rest) := by
  have other : ∀ c ∈ text, (c != quote) = true := fun c member =>
    bne_iff_ne.2 (ne_of_mem_of_not_mem member clear)
  have stops : Stops (· != quote) (quote :: ':' :: rest) := by simp
  rw [quotedKey, Text.dropWhile_append_stops other stops, Text.takeWhile_append_stops other stops]
  rfl

theorem Key.written_ne_nil (k : Key) : k.written ≠ [] := by
  obtain ⟨text, quote, spelled, -, -⟩ := k
  cases quote with
  | none => exact spelled.filled
  | some quote => exact List.cons_ne_nil _ _

theorem Key.stops_written (k : Key) : Stops isBlank k.written := by
  obtain ⟨text, quote, spelled, -, -⟩ := k
  cases quote with
  | none =>
    have stops := Text.stops_trim text
    rwa [spelled.trimmed] at stops
  | some quote => rcases spelled.1 with rfl | rfl <;> simp [Key.written] <;> decide

theorem keyOf_bare (content : List Char) (none_ : ∀ marker ∈ markers, begins marker content = false) :
    keyOf content = plainKey content := by
  have away (c : Char) (cs : List Char) (marker : [c] ∈ markers) (same : content = c :: cs) : False := by
    have starts := none_ [c] marker
    simp [same, begins] at starts
  unfold keyOf
  split
  · exact (away _ _ (by decide) rfl).elim
  · exact (away _ _ (by decide) rfl).elim
  · exact (away _ _ (by decide) rfl).elim
  · exact (away _ _ (by decide) rfl).elim
  · rfl

theorem begins_bare (text rest : List Char) (bare : Bare text) :
    ∀ marker ∈ markers, begins marker (text ++ ':' :: rest) = false := by
  intro marker member
  have colonless : ∀ marker ∈ markers, ':' ∉ marker := by decide
  exact begins_key marker text rest (bare.marker marker member) (colonless marker member)

theorem keyOf_written (k : Key) (rest : List Char) (apart : Apart rest) :
    keyOf (k.written ++ ':' :: rest) = some (k.text, trim rest) := by
  obtain ⟨text, quote, spelled, -, -⟩ := k
  cases quote with
  | none =>
    have bare : Bare text := spelled
    exact (keyOf_bare _ (begins_bare text rest bare)).trans
      (plainKey_key text rest bare.trimmed bare.colon apart)
  | some quote =>
    have same := quotedKey_key quote text rest spelled.2.1
    rcases spelled.1 with rfl | rfl <;> simpa [Key.written, keyOf] using same

theorem begins_written (k : Key) (rest : List Char) :
    ∀ marker ∈ lineMarkers, begins marker (k.written ++ ':' :: rest) = false := by
  obtain ⟨text, quote, spelled, -, -⟩ := k
  cases quote with
  | none =>
    exact fun marker member => begins_bare text rest spelled marker (List.mem_append_left _ member)
  | some quote =>
    rcases spelled.1 with rfl | rfl <;>
      simp [lineMarkers, Key.written, begins, List.isPrefixOf]

theorem node_key (frames : List Frame) (line indent : Nat) (k : Key) (rest : List Char)
    (apart : Apart rest) :
    node frames line indent (k.written ++ ':' :: rest) =
      keyed frames line indent k.name (trim rest) := by
  have filled : k.written ++ ':' :: rest ≠ ['-'] := by
    intro same
    have member : ':' ∈ k.written ++ ':' :: rest := by simp
    rw [same] at member
    exact absurd member (by decide)
  have begins_ := begins_written k rest
  simp only [lineMarkers, List.forall_mem_cons] at begins_
  obtain ⟨dash, hash, tag, start, stop, -⟩ := begins_
  have passed : isPassedOver (k.written ++ ':' :: rest) = false := by
    simp [isPassedOver, hash, tag, start, stop]
  have item_ : isItem (k.written ++ ':' :: rest) = false := by
    simp [isItem, dash, filled]
  rw [node, passed, item_, keyOf_written k rest apart]
  rfl

theorem step_key (s : State) (line indent : Nat) (k : Key) (value : List Char)
    (ends : ∀ owner, s.blockText = some owner → indent ≤ owner) :
    step s line (spaces indent ++ (k.written ++ ':' :: spaced value)) =
      keyed s.frames line indent k.name (trim value) := by
  have dark : isBlank ':' = false := by decide
  have starts : Stops isBlank (k.written ++ ':' :: spaced value) :=
    .of_filled k.written_ne_nil k.stops_written
  rw [step_body _ starts (by simp) s line indent ends, Text.trimEnd_append_cons _ _ _ dark,
    node_key _ _ _ _ _ (apart_spaced value), Text.trim_trimEnd, trim_spaced]

theorem step_item (s : State) (line indent : Nat) (text : List Char)
    (ends : ∀ owner, s.blockText = some owner → indent ≤ owner) :
    step s line (spaces indent ++ '-' :: spaced text) =
      (⟨(item s.frames line indent).1, none⟩, (item s.frames line indent).2) := by
  have dark : isBlank '-' = false := by decide
  rw [step_body _ (by simpa using dark) (by simp) s line indent ends, Text.trimEnd_cons, dark]
  rcases apart_spaced text with none_ | ⟨cs, some_⟩
  · rw [none_]
    simp [node, isPassedOver, isItem, begins]
  · rw [some_]
    simp [node, isPassedOver, isItem, begins]

end LineIndex

end PackSpec
