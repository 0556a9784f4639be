import Mathlib.Data.List.Infix
import PackSpec.Proofs.Relationship.Accepted

set_option autoImplicit false

namespace PackSpec

namespace Text

theorem digit_bounds (c : Char) (digit : isDigit c = true) :
    (48 ≤ c.toNat ∧ c.toNat ≤ 57) ∨ (1632 ≤ c.toNat ∧ c.toNat ≤ 4249) ∨
      (6112 ≤ c.toNat ∧ c.toNat ≤ 7257) ∨ 42528 ≤ c.toNat := by
  have bounds : ∀ r ∈ digitRanges, (48 ≤ r.1 ∧ r.2 ≤ 57) ∨ (1632 ≤ r.1 ∧ r.2 ≤ 4249) ∨
      (6112 ≤ r.1 ∧ r.2 ≤ 7257) ∨ 42528 ≤ r.1 := by decide
  obtain ⟨r, member, within⟩ := List.any_eq_true.1 digit
  have := bounds r member
  simp only [Bool.and_eq_true, decide_eq_true_eq] at within
  omega

end Text

namespace Drawn

theorem mark_not_letter (c : Char) (mark : isMark c = true) : isLetter c = false := by
  by_contra letter
  have bounds := letter_bounds c (by simpa using letter)
  simp only [isMark, Bool.or_eq_true, beq_iff_eq] at mark
  rcases mark with ((rfl | rfl) | rfl) | digit
  · simp at bounds
  · simp at bounds
  · simp at bounds
  · have := Text.digit_bounds c digit
    omega

theorem mark_visible (c : Char) (mark : isMark c = true) : Text.isBlank c = false := by
  simp only [isMark, Bool.or_eq_true, beq_iff_eq] at mark
  rcases mark with ((rfl | rfl) | rfl) | digit
  · decide
  · decide
  · decide
  · have := Text.digit_bounds c digit
    simp only [Text.isBlank, Bool.or_eq_false_iff, Bool.and_eq_false_iff, decide_eq_false_iff_not,
      beq_eq_false_iff_ne]
    omega

theorem letter_not_mark (c : Char) (letter : isLetter c = true) : isMark c = false := by
  by_contra mark
  simp [mark_not_letter c (by simpa using mark)] at letter

theorem blank_not_mark (c : Char) (blank : Text.isBlank c = true) : isMark c = false := by
  by_contra mark
  simp [mark_visible c (by simpa using mark)] at blank

theorem blank_not_letter (c : Char) (blank : Text.isBlank c = true) : isLetter c = false := by
  by_contra letter
  simp [letter_visible c (by simpa using letter)] at blank

theorem rule_cases (c : Char) (rule : isRule c = true) : c = '-' ∨ c = '.' := by
  simpa [isRule] using rule

theorem rule_not_letter (c : Char) (rule : isRule c = true) : isLetter c = false := by
  rcases rule_cases c rule with rfl | rfl <;> decide

theorem rule_visible (c : Char) (rule : isRule c = true) : Text.isBlank c = false := by
  rcases rule_cases c rule with rfl | rfl <;> decide

theorem letter_not_rule (c : Char) (letter : isLetter c = true) : isRule c = false := by
  by_contra rule
  simp [rule_not_letter c (by simpa using rule)] at letter

theorem blank_not_rule (c : Char) (blank : Text.isBlank c = true) : isRule c = false := by
  by_contra rule
  simp [rule_visible c (by simpa using rule)] at blank

theorem dot_of_mark_of_rule (c : Char) (mark : isMark c = true) (rule : isRule c = true) :
    c = '.' := by
  rcases rule_cases c rule with rfl | rfl
  · exact absurd mark (by decide)
  · rfl

theorem isOwner_dots (dots : List Char) (all : ∀ c ∈ dots, c = '.') : isOwner dots = false := by
  induction dots with
  | nil => rfl
  | cons c dots ih =>
    obtain rfl := all c (by simp)
    exact ih fun d member => all d (by simp [member])

theorem isOwner_dots_append (dots mark : List Char) (all : ∀ c ∈ dots, c = '.') :
    isOwner (dots ++ mark) = isOwner mark := by
  induction dots with
  | nil => rfl
  | cons c dots ih =>
    obtain rfl := all c (by simp)
    exact ih fun d member => all d (by simp [member])

theorem isOwner_append_dots (mark dots : List Char) (all : ∀ c ∈ dots, c = '.') :
    isOwner (mark ++ dots) = isOwner mark := by
  fun_induction isOwner mark with
  | case1 => rfl
  | case2 => exact isOwner_dots dots all
  | case3 c rest other ih =>
    rw [← ih, List.cons_append, isOwner]
    -- A second plus would have to be the first of the dots.
    intro more plus same
    cases rest with
    | nil =>
      obtain rfl : dots = '+' :: more := same
      exact absurd (all '+' (by simp)) (by decide)
    | cons d rest =>
      obtain ⟨rfl, -⟩ := List.cons.inj same
      exact other rest plus rfl

theorem isOwner_iff (mark : List Char) : isOwner mark = true ↔ ['+', '+'] <:+: mark := by
  fun_induction isOwner mark with
  | case1 rest => exact iff_of_true rfl ⟨[], rest, rfl⟩
  | case2 => simp
  | case3 c rest other ih =>
    rw [ih, List.infix_cons_iff]
    refine ⟨.inr, fun inside => inside.resolve_left fun start => ?_⟩
    obtain ⟨more, same⟩ := start
    obtain ⟨plus, rfl⟩ := List.cons.inj same
    exact other more plus.symm rfl

theorem kindOf_eq (mark across : List Char) :
    kindOf mark across =
      if ['+', '+'] <:+: mark then .multiOwning else if '*' ∈ across then .multi else .single := by
  simp [kindOf, isOwner_iff]

theorem bracketed_class (name rest : List Char) (filled : name ≠ [])
    (closed : ∀ c ∈ name, c ≠ ']') : bracketed ('[' :: (name ++ ']' :: rest)) = some (name, rest) := by
  have all : ∀ c ∈ name, (c != ']') = true := by simpa using closed
  have stops : Text.Stops (· != ']') (']' :: rest) := by simp
  simp only [bracketed, Text.takeWhile_append_stops all stops,
    Text.dropWhile_append_stops all stops]
  simp [filled]

theorem cuts_longest (p : Char → Bool) (cs : List Char) :
    ∃ more, cuts cs (cs.takeWhile p).length = (cs.takeWhile p, cs.dropWhile p) :: more := by
  have taken : cs.take (cs.takeWhile p).length = cs.takeWhile p := by
    simpa using (List.take_left : (cs.takeWhile p ++ cs.dropWhile p).take _ = _)
  have dropped : cs.drop (cs.takeWhile p).length = cs.dropWhile p := by
    simpa using (List.drop_left : (cs.takeWhile p ++ cs.dropWhile p).drop _ = _)
  have first (n : Nat) : ∃ more, cuts cs n = (cs.take n, cs.drop n) :: more := by
    cases n <;> exact ⟨_, rfl⟩
  obtain ⟨more, longest⟩ := first (cs.takeWhile p).length
  exact ⟨more, by rw [longest, taken, dropped]⟩

end Drawn

namespace Diagram

structure Side where
  className : List Char
  mark : List Char
  name : List Char
  gap : List Char
  filled : className ≠ []
  closed : ∀ c ∈ className, c ≠ ']'
  marks : ∀ c ∈ mark, Drawn.isMark c = true
  letters : ∀ c ∈ name, Drawn.isLetter c = true
  blanks : ∀ c ∈ gap, Text.isBlank c = true

/-- A line of the documented form; a rule has a dash. -/
structure Line where
  left : Side
  right : Side
  rule : List Char
  rules : ∀ c ∈ rule, Drawn.isRule c = true
  drawn : '-' ∈ rule

namespace Side

def kind (side across : Side) : Multiplicity :=
  if ['+', '+'] <:+: side.mark then .multiOwning
  else if '*' ∈ across.mark then .multi
  else .single

def endpoint (side across : Side) : Endpoint :=
  ⟨String.ofList side.className,
    if side.name = [] then none else some (String.ofList side.name), side.kind across⟩

theorem of_eq_endpoint (side across : Side) :
    Endpoint.of (String.ofList side.className) (some (String.ofList side.name))
      (Drawn.kindOf side.mark across.mark) = side.endpoint across := by
  have empty : (String.ofList side.name).isEmpty = true ↔ side.name = [] := by
    rw [String.isEmpty_iff, ← String.toList_inj, String.toList_ofList]
    rfl
  by_cases none_ : side.name = [] <;>
    simp_all [Endpoint.of, endpoint, kind, given, Drawn.kindOf_eq]

def after (side : Side) : List Char :=
  side.name ++ side.gap ++ (side.mark ++ '[' :: (side.className ++ [']']))

theorem rightHalf_read (side : Side) (read behind : List Char)
    (marks : ∀ c ∈ read, Drawn.isMark c = true) :
    Drawn.rightHalf (side.name ++ side.gap ++ (read ++ '[' :: (side.className ++ ']' :: behind))) =
      some (side.name, read, side.className) := by
  have atMark : Text.Stops Drawn.isMark ('[' :: (side.className ++ ']' :: behind)) := by
    simp [show Drawn.isMark '[' = false by decide]
  have atGap : Text.Stops Text.isBlank (read ++ '[' :: (side.className ++ ']' :: behind)) :=
    .append (.of_none fun c member => Drawn.mark_visible c (marks c member))
      (by simp [show Text.isBlank '[' = false by decide])
  have atName : Text.Stops Drawn.isLetter
      (side.gap ++ (read ++ '[' :: (side.className ++ ']' :: behind))) :=
    .append (.of_none fun c member => Drawn.blank_not_letter c (side.blanks c member))
      (.append (.of_none fun c member => Drawn.mark_not_letter c (marks c member))
        (by simp [show Drawn.isLetter '[' = false by decide]))
  rw [List.append_assoc]
  simp only [Drawn.rightHalf, Text.trimStart,
    Text.takeWhile_append_stops side.letters atName, Text.dropWhile_append_stops side.letters atName,
    Text.dropWhile_append_stops side.blanks atGap, Text.takeWhile_append_stops marks atMark,
    Text.dropWhile_append_stops marks atMark,
    Drawn.bracketed_class _ behind side.filled side.closed, Option.map_some]

theorem rightHalf_after (side : Side) (behind : List Char) :
    ∃ dots read, side.mark = dots ++ read ∧ (∀ c ∈ dots, c = '.') ∧
      Drawn.rightHalf ((side.after ++ behind).dropWhile Drawn.isRule) =
        some (side.name, read, side.className) := by
  have inside : ∀ c ∈ side.name ++ side.gap, Drawn.isRule c = false := by
    intro c member
    rcases List.mem_append.1 member with letter | blank
    · exact Drawn.letter_not_rule c (side.letters c letter)
    · exact Drawn.blank_not_rule c (side.blanks c blank)
  -- Where neither name nor gap stands between, the rule takes the dots that the mark begins with.
  obtain ⟨dots, read, split, all, -, dropped⟩ := Text.taken_middle (side.name ++ side.gap) side.mark
    ('[' :: (side.className ++ ']' :: behind)) inside (.append (Text.stops_dropWhile _) (by
      simp [show Drawn.isRule '[' = false by decide]))
  have marks : ∀ c ∈ read, Drawn.isMark c = true :=
    fun c member => side.marks c (by simp [split, member])
  have whole : side.after ++ behind =
      side.name ++ side.gap ++ (side.mark ++ '[' :: (side.className ++ ']' :: behind)) := by
    simp [after]
  refine ⟨dots, read, split, fun c member => ?_, ?_⟩
  · exact Drawn.dot_of_mark_of_rule c (side.marks c (by simp [split, member])) (all c member)
  · rw [whole, dropped, side.rightHalf_read read behind marks]

theorem afterMark_across (left right : Side) (mark rule behind : List Char) (filled : rule ≠ [])
    (rules : ∀ c ∈ rule, Drawn.isRule c = true) :
    ∃ dots read, right.mark = dots ++ read ∧ (∀ c ∈ dots, c = '.') ∧
      Drawn.afterMark left.className mark
          (left.name ++ left.gap ++ (rule ++ (right.after ++ behind))) =
        some ⟨left.className, mark, left.name, right.name, read, right.className⟩ := by
  obtain ⟨dots, read, split, all, half⟩ := right.rightHalf_after behind
  refine ⟨dots, read, split, all, ?_⟩
  have atGap : Text.Stops Text.isBlank (rule ++ (right.after ++ behind)) :=
    .of_filled filled (.of_none fun c member => Drawn.rule_visible c (rules c member))
  have atName : Text.Stops Drawn.isLetter (left.gap ++ (rule ++ (right.after ++ behind))) :=
    .append (.of_none fun c member => Drawn.blank_not_letter c (left.blanks c member))
      (.of_filled filled (.of_none fun c member => Drawn.rule_not_letter c (rules c member)))
  have some_ : ((rule ++ (right.after ++ behind)).takeWhile Drawn.isRule).isEmpty = false := by
    rw [List.takeWhile_append_of_pos rules]
    simp [filled]
  rw [List.append_assoc]
  simp only [Drawn.afterMark, Text.trimStart,
    Text.takeWhile_append_stops left.letters atName,
    Text.dropWhile_append_stops left.letters atName,
    Text.dropWhile_append_stops left.blanks atGap, some_, Bool.false_eq_true, if_false,
    List.dropWhile_append_of_pos rules, half, Option.map_some]

end Side

namespace Line

def text (l : Line) : List Char :=
  '[' :: (l.left.className ++ ']' ::
    (l.left.mark ++ (l.left.name ++ l.left.gap ++ (l.rule ++ l.right.after))))

def decl (l : Line) : Decl :=
  ⟨l.left.endpoint l.right, l.right.endpoint l.left⟩

-- The left mark may be read with dots more, the right mark with dots fewer.
theorem find_text (l : Line) :
    ∃ more fewer read, (∀ c ∈ more, c = '.') ∧ (∀ c ∈ fewer, c = '.') ∧
      l.right.mark = fewer ++ read ∧
      Drawn.find l.text = some ⟨l.left.className, l.left.mark ++ more, l.left.name, l.right.name,
        read, l.right.className⟩ := by
  have inside : ∀ c ∈ l.left.name ++ l.left.gap, Drawn.isMark c = false := by
    intro c member
    rcases List.mem_append.1 member with letter | blank
    · exact Drawn.letter_not_mark c (l.left.letters c letter)
    · exact Drawn.blank_not_mark c (l.left.blanks c blank)
  -- No mark has a dash, so what marks leave of the rule has it.
  have dash (taken kept : List Char) (split : l.rule = taken ++ kept)
      (all : ∀ c ∈ taken, Drawn.isMark c = true) : '-' ∈ kept := by
    have drawn := l.drawn
    rw [split, List.mem_append] at drawn
    exact drawn.resolve_left fun inMark => absurd (all '-' inMark) (by decide)
  have stays : '-' ∈ l.rule.dropWhile Drawn.isMark :=
    dash _ _ List.takeWhile_append_dropWhile.symm fun c member => List.mem_takeWhile_imp member
  obtain ⟨more, rule, split, all, taken, dropped⟩ := Text.taken_middle (l.left.name ++ l.left.gap)
    l.rule l.right.after inside (.of_filled (List.ne_nil_of_mem stays) (Text.stops_dropWhile _))
  have rules : ∀ c ∈ rule, Drawn.isRule c = true :=
    fun c member => l.rules c (by simp [split, member])
  have dots : ∀ c ∈ more, c = '.' := fun c member =>
    Drawn.dot_of_mark_of_rule c (all c member) (l.rules c (by simp [split, member]))
  -- The longest mark has the dots that the rule begins with, and leaves its dash.
  obtain ⟨fewer, read, rightSplit, rightDots, half⟩ := l.left.afterMark_across l.right
    (l.left.mark ++ more) rule [] (List.ne_nil_of_mem (dash more rule split all)) rules
  rw [List.append_nil] at half
  refine ⟨more, fewer, read, dots, rightDots, rightSplit, ?_⟩
  obtain ⟨shorter, longest⟩ := Drawn.cuts_longest Drawn.isMark
    (l.left.mark ++ (l.left.name ++ l.left.gap ++ (l.rule ++ l.right.after)))
  rw [List.takeWhile_append_of_pos l.left.marks, List.dropWhile_append_of_pos l.left.marks, taken,
    dropped] at longest
  have starts : Drawn.atStart l.text = some ⟨l.left.className, l.left.mark ++ more, l.left.name,
      l.right.name, read, l.right.className⟩ := by
    simp only [Drawn.atStart, text, Drawn.bracketed_class _ _ l.left.filled l.left.closed]
    rw [List.takeWhile_append_of_pos l.left.marks, taken, longest]
    simp only [List.findSome?_cons, half]
  rw [text] at starts ⊢
  rw [Drawn.find, starts, Option.some_or]

theorem decl_of_dots (l : Line) (more fewer read : List Char) (dots : ∀ c ∈ more, c = '.')
    (rightDots : ∀ c ∈ fewer, c = '.') (split : l.right.mark = fewer ++ read) :
    Drawn.decl ⟨l.left.className, l.left.mark ++ more, l.left.name, l.right.name, read,
      l.right.className⟩ = l.decl := by
  have star (ds : List Char) (all : ∀ c ∈ ds, c = '.') : '*' ∉ ds :=
    fun member => absurd (all '*' member) (by decide)
  have left : Drawn.kindOf (l.left.mark ++ more) read =
      Drawn.kindOf l.left.mark l.right.mark := by
    simp [Drawn.kindOf, split, Drawn.isOwner_append_dots _ _ dots, star fewer rightDots]
  have right : Drawn.kindOf read (l.left.mark ++ more) =
      Drawn.kindOf l.right.mark l.left.mark := by
    simp [Drawn.kindOf, split, Drawn.isOwner_dots_append _ _ rightDots, star more dots]
  rw [Drawn.decl, left, right, Side.of_eq_endpoint, Side.of_eq_endpoint, decl]

theorem readLine_eq (l : Line) :
    readLine (String.ofList l.text) = (oriented l.decl).map some := by
  obtain ⟨more, fewer, read, dots, rightDots, split, found⟩ := l.find_text
  have shown : isPassedOver (String.ofList l.text) = false := by
    simp [isPassedOver, text, Text.trimStart, show Text.isBlank '[' = false by decide]
  rw [readLine, shown, String.toList_ofList, found]
  simp only [Bool.false_eq_true, if_false, l.decl_of_dots more fewer read dots rightDots split]

/-- A line of the documented form is read as the relationship it shows, its sides in their order or
exchanged as the orientation permits; otherwise it is refused with the sides as they stand. -/
theorem readLine_text (l : Line) :
    readLine (String.ofList l.text) =
      if l.decl.isOriented then .ok (some l.decl)
      else if l.decl.swapped.isOriented then .ok (some l.decl.swapped)
      else .error (notOriented l.decl.left.className l.decl.leftName l.decl.left.kind
        l.decl.right.className l.decl.rightName l.decl.right.kind) := by
  rw [l.readLine_eq, oriented]
  split_ifs <;> rfl

def dotted : Line where
  left := ⟨['F', 'a', 'n'], ['*', '.'], [], [], by simp, by simp, by simp [Drawn.isMark], by simp,
    by simp⟩
  right := ⟨['P', 'o', 'd'], ['.', '+', '+'], [], [], by simp, by simp, by simp [Drawn.isMark],
    by simp, by simp⟩
  rule := ['.', '-', '.']
  rules := by simp [Drawn.isRule]
  drawn := by simp

example : String.ofList dotted.text = "[Fan]*..-..++[Pod]" ∧
    readLine "[Fan]*..-..++[Pod]" =
      .ok (some ⟨⟨"Pod", none, .multiOwning⟩, ⟨"Fan", none, .single⟩⟩) :=
  ⟨by rfl, by rfl⟩

end Line

end Diagram

end PackSpec
