import PackSpec.Proofs.Relationship.Line

set_option autoImplicit false

namespace PackSpec

namespace Diagram

structure Figure where
  left : Side
  right : Side
  rule : List Char
  filled : rule ≠ []
  rules : ∀ c ∈ rule, Drawn.isRule c = true

theorem Side.count_after (side : Side) : side.after.count ']' = 1 := by
  have name : side.name.count ']' = 0 := List.count_eq_zero.2 fun member =>
    absurd (side.letters ']' member) (by decide)
  have gap : side.gap.count ']' = 0 := List.count_eq_zero.2 fun member =>
    absurd (side.blanks ']' member) (by decide)
  have mark : side.mark.count ']' = 0 := List.count_eq_zero.2 fun member =>
    absurd (side.marks ']' member) (by decide)
  have class_ : side.className.count ']' = 0 := List.count_eq_zero.2 fun member =>
    side.closed ']' member rfl
  simp [after, name, gap, mark, class_]

namespace Figure

def text (f : Figure) : List Char :=
  '[' :: (f.left.className ++ ']' ::
    (f.left.mark ++ (f.left.name ++ f.left.gap ++ (f.rule ++ f.right.after))))

def drawn (f : Figure) : Drawn :=
  ⟨f.left.className, f.left.mark, f.left.name, f.right.name, f.right.mark, f.right.className⟩

def decl (f : Figure) : Decl :=
  ⟨f.left.endpoint f.right, f.right.endpoint f.left⟩

theorem decl_drawn (f : Figure) : f.drawn.decl = f.decl := by
  rw [Drawn.decl, drawn, Side.of_eq_endpoint, Side.of_eq_endpoint, decl]

theorem count_text (f : Figure) : f.text.count ']' = 2 := by
  have class_ : f.left.className.count ']' = 0 := List.count_eq_zero.2 fun member =>
    f.left.closed ']' member rfl
  have mark : f.left.mark.count ']' = 0 := List.count_eq_zero.2 fun member =>
    absurd (f.left.marks ']' member) (by decide)
  have name : f.left.name.count ']' = 0 := List.count_eq_zero.2 fun member =>
    absurd (f.left.letters ']' member) (by decide)
  have gap : f.left.gap.count ']' = 0 := List.count_eq_zero.2 fun member =>
    absurd (f.left.blanks ']' member) (by decide)
  have rule : f.rule.count ']' = 0 := List.count_eq_zero.2 fun member =>
    absurd (f.rules ']' member) (by decide)
  simp [text, class_, mark, name, gap, rule, f.right.count_after]

theorem text_ends (f : Figure) : ∃ inner, f.text = '[' :: (inner ++ [']']) :=
  ⟨f.left.className ++ ']' :: (f.left.mark ++ (f.left.name ++ f.left.gap ++ (f.rule ++
    (f.right.name ++ f.right.gap ++ (f.right.mark ++ '[' :: f.right.className))))),
    by simp [text, Side.after]⟩

theorem eq_nil_of_text_eq (f g : Figure) (more : List Char) (same : g.text = f.text ++ more) :
    more = [] := by
  have count : more.count ']' = 0 := by
    have total := congrArg (List.count ']') same
    rw [List.count_append, f.count_text, g.count_text] at total
    omega
  rcases List.eq_nil_or_concat more with rfl | ⟨start, last, rfl⟩
  · rfl
  · obtain ⟨inner, ends⟩ := g.text_ends
    have lasts := congrArg List.getLast? (ends.symm.trans same)
    rw [← List.cons_append, List.getLast?_concat, List.concat_eq_append, ← List.append_assoc,
      List.getLast?_concat] at lasts
    simp [← Option.some.inj lasts] at count

theorem text_append_inj (f g : Figure) (xs ys : List Char) (same : f.text ++ xs = g.text ++ ys) :
    f.text = g.text ∧ xs = ys := by
  rcases List.append_eq_append_iff.1 same with ⟨more, longer, rest⟩ | ⟨more, longer, rest⟩
  · obtain rfl := eq_nil_of_text_eq f g more longer
    exact ⟨by rw [longer, List.append_nil], rest⟩
  · obtain rfl := eq_nil_of_text_eq g f more longer
    exact ⟨by rw [longer, List.append_nil], rest.symm⟩

end Figure

/-- The figure `f` stands in `cs` between `before` and `behind`, and none begins further left. -/
structure First (cs before : List Char) (f : Figure) (behind : List Char) : Prop where
  split : cs = before ++ (f.text ++ behind)
  leftmost : ∀ (g : Figure) (earlier later : List Char), cs = earlier ++ (g.text ++ later) →
    before.length ≤ earlier.length

end Diagram

namespace Drawn

open Diagram (Side Figure First)

theorem bracketed_some (cs name rest : List Char) (found : bracketed cs = some (name, rest)) :
    name ≠ [] ∧ (∀ c ∈ name, c ≠ ']') ∧ cs = '[' :: (name ++ ']' :: rest) := by
  unfold bracketed at found
  split at found
  · next tail =>
    rcases Text.dropWhile_stop ']' tail with none_ | ⟨after, stopped⟩
    · simp [none_] at found
    · have parts := Text.split_stop ']' tail after stopped
      simp only [stopped, Option.ite_none_left_eq_some, Option.some.injEq, Prod.mk.injEq,
        List.isEmpty_iff] at found
      obtain ⟨filled, rfl, rfl⟩ := found
      exact ⟨filled, by simpa using Text.takeWhile_stop ']' tail, by rw [← parts]⟩
  · simp at found

theorem name_gap_rest (cs : List Char) :
    cs = cs.takeWhile isLetter ++ ((cs.dropWhile isLetter).takeWhile Text.isBlank ++
      Text.trimStart (cs.dropWhile isLetter)) := by
  rw [Text.trimStart, List.takeWhile_append_dropWhile, List.takeWhile_append_dropWhile]

theorem rightHalf_some (cs name mark class_ : List Char)
    (found : rightHalf cs = some (name, mark, class_)) :
    ∃ (side : Side) (behind : List Char), side.name = name ∧ side.mark = mark ∧
      side.className = class_ ∧ cs = side.after ++ behind := by
  obtain ⟨⟨class__, behind⟩, inBrackets, same⟩ := Option.map_eq_some_iff.1 found
  simp only [Prod.mk.injEq] at same
  obtain ⟨rfl, rfl, rfl⟩ := same
  obtain ⟨filled, closed, brackets⟩ := bracketed_some _ _ _ inBrackets
  refine ⟨⟨class__, _, _, (cs.dropWhile isLetter).takeWhile Text.isBlank, filled, closed,
    fun c member => List.mem_takeWhile_imp member, fun c member => List.mem_takeWhile_imp member,
    fun c member => List.mem_takeWhile_imp member⟩, behind, rfl, rfl, rfl, ?_⟩
  have marked := List.takeWhile_append_dropWhile (p := isMark)
    (l := Text.trimStart (cs.dropWhile isLetter))
  rw [brackets] at marked
  have whole := name_gap_rest cs
  rw [← marked] at whole
  conv_lhs => rw [whole]
  simp [Side.after, marked]

theorem afterMark_some (leftClass mark cs : List Char) (d : Drawn) (filled : leftClass ≠ [])
    (closed : ∀ c ∈ leftClass, c ≠ ']') (marks : ∀ c ∈ mark, isMark c = true)
    (found : afterMark leftClass mark cs = some d) :
    ∃ (f : Figure) (behind : List Char), f.drawn = d ∧
      '[' :: (leftClass ++ ']' :: (mark ++ cs)) = f.text ++ behind := by
  simp only [afterMark, Option.ite_none_left_eq_some, List.isEmpty_iff] at found
  obtain ⟨ruled, found⟩ := found
  obtain ⟨⟨name, rightMark, class_⟩, half, rfl⟩ := Option.map_eq_some_iff.1 found
  obtain ⟨right, behind, rfl, rfl, rfl, split⟩ := rightHalf_some _ _ _ _ half
  refine ⟨⟨⟨leftClass, mark, cs.takeWhile isLetter, (cs.dropWhile isLetter).takeWhile Text.isBlank,
    filled, closed, marks, fun c member => List.mem_takeWhile_imp member,
    fun c member => List.mem_takeWhile_imp member⟩, right, _, ruled,
    fun c member => List.mem_takeWhile_imp member⟩, behind, rfl, ?_⟩
  have rule := List.takeWhile_append_dropWhile (p := isRule)
    (l := Text.trimStart (cs.dropWhile isLetter))
  rw [split] at rule
  have whole := name_gap_rest cs
  rw [← rule] at whole
  conv_lhs => rw [whole]
  simp [Figure.text]

theorem mem_cuts_iff (cs mark rest : List Char) (n : Nat) :
    (mark, rest) ∈ cuts cs n ↔ ∃ m ≤ n, mark = cs.take m ∧ rest = cs.drop m := by
  induction n with
  | zero => simp [cuts]
  | succ n ih =>
    rw [cuts, List.mem_cons, ih, Prod.mk.injEq]
    constructor
    · rintro (⟨rfl, rfl⟩ | ⟨m, fits, rfl, rfl⟩)
      · exact ⟨n + 1, Nat.le_refl _, rfl, rfl⟩
      · exact ⟨m, Nat.le_succ_of_le fits, rfl, rfl⟩
    · rintro ⟨m, fits, rfl, rfl⟩
      rcases Nat.lt_or_eq_of_le fits with shorter | rfl
      · exact .inr ⟨m, Nat.le_of_lt_succ shorter, rfl, rfl⟩
      · exact .inl ⟨rfl, rfl⟩

theorem atStart_some (cs : List Char) (d : Drawn) (found : atStart cs = some d) :
    ∃ (f : Figure) (behind : List Char), f.drawn = d ∧ cs = f.text ++ behind := by
  unfold atStart at found
  split at found
  · simp at found
  · next leftClass rest inBrackets =>
    obtain ⟨filled, closed, brackets⟩ := bracketed_some _ _ _ inBrackets
    obtain ⟨⟨mark, after⟩, member, found⟩ := List.exists_of_findSome?_eq_some found
    obtain ⟨m, fits, rfl, rfl⟩ := (mem_cuts_iff _ _ _ _).1 member
    have marks : ∀ c ∈ rest.take m, isMark c = true := by
      intro c inMark
      have within : rest.take m <+: rest.takeWhile isMark := by
        rw [List.prefix_iff_eq_take.1 (List.takeWhile_prefix isMark)]
        exact List.take_prefix_take_left fits
      exact List.mem_takeWhile_imp (within.subset inMark)
    obtain ⟨f, behind, drawn, split⟩ := afterMark_some _ _ _ _ filled closed marks found
    rw [List.take_append_drop] at split
    exact ⟨f, behind, drawn, brackets.trans split⟩

theorem isSome_atStart (f : Figure) (behind : List Char) :
    (atStart (f.text ++ behind)).isSome = true := by
  have shape : f.text ++ behind = '[' :: (f.left.className ++ ']' :: (f.left.mark ++
      (f.left.name ++ f.left.gap ++ (f.rule ++ (f.right.after ++ behind))))) := by
    simp [Figure.text]
  obtain ⟨dots, read, -, -, half⟩ := f.left.afterMark_across f.right f.left.mark f.rule behind
    f.filled f.rules
  rw [shape]
  generalize f.left.name ++ f.left.gap ++ (f.rule ++ (f.right.after ++ behind)) = rest at half ⊢
  simp only [atStart, bracketed_class _ _ f.left.filled f.left.closed, List.findSome?_isSome_iff]
  refine ⟨(f.left.mark, rest), (mem_cuts_iff _ _ _ _).2 ⟨f.left.mark.length, ?_, by simp⟩, ?_⟩
  · rw [List.takeWhile_append_of_pos f.left.marks, List.length_append]
    exact Nat.le_add_right _ _
  · simp [half]

theorem find_none (cs : List Char) (missing : find cs = none) (f : Figure) : ¬ f.text <:+: cs := by
  induction cs with
  | nil => simp [Figure.text]
  | cons c rest ih =>
    obtain ⟨here, later⟩ := Option.or_eq_none_iff.1 missing
    rw [List.infix_cons_iff]
    rintro (⟨behind, starts⟩ | inside)
    · have found := isSome_atStart f behind
      rw [starts, here] at found
      simp at found
    · exact ih later inside

theorem find_some (cs : List Char) (d : Drawn) (found : find cs = some d) :
    ∃ before f behind, First cs before f behind ∧ f.drawn = d := by
  induction cs with
  | nil => simp [find] at found
  | cons c rest ih =>
    rcases Option.or_eq_some_iff.1 found with here | ⟨nothing, later⟩
    · obtain ⟨f, behind, drawn, split⟩ := atStart_some _ _ here
      exact ⟨[], f, behind, ⟨split, fun _ _ _ _ => Nat.zero_le _⟩, drawn⟩
    · obtain ⟨before, f, behind, first, drawn⟩ := ih later
      refine ⟨c :: before, f, behind, ⟨by rw [first.split]; rfl, ?_⟩, drawn⟩
      intro g earlier later_ split
      cases earlier with
      | nil =>
        have begun := isSome_atStart g later_
        rw [List.nil_append] at split
        rw [← split, nothing] at begun
        simp at begun
      | cons e earlier =>
        exact Nat.succ_le_succ (first.leftmost g earlier later_ (List.cons.inj split).2)

end Drawn

namespace Diagram

theorem First.shownIn {cs before behind : List Char} {f : Figure}
    (first : First cs before f behind) : f.drawn.ShownIn cs := by
  refine ⟨before, f.left.mark ++ (f.left.name ++ f.left.gap ++ (f.rule ++ (f.right.name ++
    f.right.gap ++ f.right.mark))), behind, ?_⟩
  rw [first.split]
  simp [Figure.text, Figure.drawn, Side.after]

theorem readLine_some (line : String) (d : Decl) (accepted : readLine line = .ok (some d)) :
    d.isOriented = true ∧ ∃ before f behind, First line.toList before f behind ∧
      (d = f.decl ∨ d = f.decl.swapped) := by
  unfold readLine at accepted
  split at accepted
  · simp at accepted
  · split at accepted
    · next drawn found =>
      obtain ⟨before, f, behind, first, rfl⟩ := Drawn.find_some _ _ found
      rw [f.decl_drawn] at accepted
      cases made : oriented f.decl with
      | error e => simp [made, Except.map] at accepted
      | ok e =>
        obtain rfl : e = d := by simpa [made, Except.map] using accepted
        obtain ⟨permitted, sides⟩ := oriented_ok _ _ made
        exact ⟨permitted, before, f, behind, first, sides⟩
    · simp at accepted

theorem readLine_ok (line : String) (d : Decl) (accepted : readLine line = .ok (some d)) :
    d.isOriented = true ∧ Drawn.Lettered d ∧
      d.left.className.toList.count '[' + d.right.className.toList.count '[' + 2 ≤
        line.toList.count '[' := by
  obtain ⟨permitted, before, f, behind, first, sides⟩ := readLine_some line d accepted
  have lettered := Drawn.lettered_decl f.drawn ⟨f.left.letters, f.right.letters⟩
  rw [f.decl_drawn] at lettered
  have count := Drawn.count_of_shownIn _ _ first.shownIn
  refine ⟨permitted, ?_⟩
  rcases sides with rfl | rfl
  · refine ⟨lettered.1, ?_⟩
    simpa [Figure.decl, Figure.drawn, Side.endpoint] using count
  · refine ⟨lettered.2, ?_⟩
    simpa [Figure.decl, Figure.drawn, Side.endpoint, Decl.swapped, Nat.add_comm] using count

theorem First.trim_iff {cs before behind : List Char} {f : Figure}
    (first : First cs before f behind) :
    (∃ g : Figure, Text.trim cs = g.text) ↔
      (∀ c ∈ before, Text.isBlank c = true) ∧ ∀ c ∈ behind, Text.isBlank c = true := by
  obtain ⟨inner, ends⟩ := f.text_ends
  constructor
  · rintro ⟨g, whole⟩
    obtain ⟨lead, trail, lead_, trail_, split⟩ := Text.trim_split cs
    rw [whole] at split
    have shorter := first.leftmost g lead trail split
    -- What stands further left is blank, and a figure does not begin with a blank.
    have same : before = lead := by
      rcases List.append_eq_append_iff.1 (first.split.symm.trans split) with
        ⟨more, longer, rest⟩ | ⟨more, longer, -⟩
      · cases more with
        | nil => simpa using longer.symm
        | cons c more =>
          obtain ⟨rfl, -⟩ := List.cons.inj (show '[' :: _ = c :: _ by simpa [ends] using rest)
          exact absurd (lead_ '[' (by simp [longer])) (by decide)
      · obtain rfl : more = [] := by
          have lengths := congrArg List.length longer
          rw [List.length_append] at lengths
          exact List.length_eq_zero_iff.1 (by omega)
        simpa using longer
    subst same
    have rest := List.append_cancel_left (first.split.symm.trans split)
    obtain ⟨-, rfl⟩ := f.text_append_inj g behind trail rest
    exact ⟨lead_, trail_⟩
  · rintro ⟨before_, behind_⟩
    refine ⟨f, ?_⟩
    rw [first.split]
    exact Text.trim_between _ _ _ before_ behind_
      (by simp [ends, show Text.isBlank '[' = false by decide])
      (by simp [ends, show Text.isBlank ']' = false by decide]) (by simp [ends])

/-- A line that holds anything is refused if no figure stands in it; otherwise it is read as the
leftmost figure, its sides in their order or exchanged. What stands before and behind that figure
is ignored: the line is this figure alone exactly if there are only blanks. -/
theorem reads_leftmost (line : String) :
    (isPassedOver line = true ∧ readLine line = .ok none) ∨
      isPassedOver line = false ∧
        ((∀ f : Figure, ¬ f.text <:+: line.toList) ∧
            readLine line = .error (ambiguous line
              "expected [Left]<marker><relname> <separator> <relname><marker>[Right]") ∨
          ∃ before f behind, First line.toList before f behind ∧
            (readLine line =
              if f.decl.isOriented then .ok (some f.decl)
              else if f.decl.swapped.isOriented then .ok (some f.decl.swapped)
              else .error (notOriented f.decl.left.className f.decl.leftName f.decl.left.kind
                f.decl.right.className f.decl.rightName f.decl.right.kind)) ∧
            ((∃ g : Figure, Text.trim line.toList = g.text) ↔
              (∀ c ∈ before, Text.isBlank c = true) ∧ ∀ c ∈ behind, Text.isBlank c = true)) := by
  cases passed : isPassedOver line with
  | true => exact .inl ⟨rfl, by rw [readLine, if_pos passed]⟩
  | false =>
    refine .inr ⟨rfl, ?_⟩
    cases found : Drawn.find line.toList with
    | none =>
      exact .inl ⟨Drawn.find_none _ found, by simp only [readLine, passed, found]; rfl⟩
    | some d =>
      obtain ⟨before, f, behind, first, rfl⟩ := Drawn.find_some _ _ found
      refine .inr ⟨before, f, behind, first, ?_, first.trim_iff⟩
      simp only [readLine, passed, found, f.decl_drawn, oriented, Bool.false_eq_true, if_false]
      split_ifs <;> rfl

/-- The second relationship of a line is lost. -/
theorem second_figure_ignored :
    readLine "[Pod]++-[Fan] [Pod]++-[Disk]" =
        .ok (some ⟨⟨"Pod", none, .multiOwning⟩, ⟨"Fan", none, .single⟩⟩) ∧
      ¬ ∃ g : Figure, Text.trim "[Pod]++-[Fan] [Pod]++-[Disk]".toList = g.text := by
  refine ⟨by rfl, ?_⟩
  rintro ⟨g, whole⟩
  have count : (Text.trim "[Pod]++-[Fan] [Pod]++-[Disk]".toList).count ']' = 4 := by decide
  rw [whole, g.count_text] at count
  exact absurd count (by decide)

end Diagram

end PackSpec
