import Mathlib.Data.List.TakeWhile
import PackSpec.Text.Basic

set_option autoImplicit false

namespace PackSpec.Text

def Stops (p : Char → Bool) (cs : List Char) : Prop :=
  ∀ c ∈ cs.head?, p c = false

variable {p : Char → Bool}

@[simp]
theorem stops_cons (c : Char) (cs : List Char) : Stops p (c :: cs) ↔ p c = false := by
  simp [Stops]

theorem Stops.of_none {cs : List Char} (none_ : ∀ c ∈ cs, p c = false) : Stops p cs :=
  fun c first => none_ c (List.mem_of_mem_head? first)

theorem Stops.append {xs rest : List Char} (first : Stops p xs) (later : Stops p rest) :
    Stops p (xs ++ rest) := by
  cases xs with
  | nil => exact later
  | cons x xs => exact first

theorem Stops.of_filled {xs rest : List Char} (filled : xs ≠ []) (stops : Stops p xs) :
    Stops p (xs ++ rest) := by
  cases xs with
  | nil => exact absurd rfl filled
  | cons x xs => exact stops

theorem stops_dropWhile (cs : List Char) : Stops p (cs.dropWhile p) := by
  induction cs with
  | nil => simp [Stops]
  | cons c cs ih =>
    by_cases holds : p c = true
    · simpa [holds] using ih
    · simp [holds]

theorem takeWhile_of_stops {cs : List Char} (stops : Stops p cs) : cs.takeWhile p = [] := by
  cases cs with
  | nil => rfl
  | cons c cs => simp [stops c rfl]

theorem dropWhile_of_stops {cs : List Char} (stops : Stops p cs) : cs.dropWhile p = cs := by
  cases cs with
  | nil => rfl
  | cons c cs => simp [stops c rfl]

theorem takeWhile_append_stops {xs rest : List Char} (all : ∀ c ∈ xs, p c = true)
    (stops : Stops p rest) : (xs ++ rest).takeWhile p = xs := by
  rw [List.takeWhile_append_of_pos all, takeWhile_of_stops stops, List.append_nil]

theorem dropWhile_append_stops {xs rest : List Char} (all : ∀ c ∈ xs, p c = true)
    (stops : Stops p rest) : (xs ++ rest).dropWhile p = rest := by
  rw [List.dropWhile_append_of_pos all, dropWhile_of_stops stops]

theorem taken_middle (first middle last : List Char) (none_ : ∀ c ∈ first, p c = false)
    (stops : Stops p (middle.dropWhile p ++ last)) :
    ∃ taken kept, middle = taken ++ kept ∧ (∀ c ∈ taken, p c = true) ∧
      (first ++ (middle ++ last)).takeWhile p = taken ∧
      (first ++ (middle ++ last)).dropWhile p = first ++ (kept ++ last) := by
  by_cases begins : first = []
  · subst begins
    have split : middle.takeWhile p ++ middle.dropWhile p = middle := List.takeWhile_append_dropWhile
    have all : ∀ c ∈ middle.takeWhile p, p c = true :=
      fun c member => List.mem_takeWhile_imp member
    have whole : middle ++ last = middle.takeWhile p ++ (middle.dropWhile p ++ last) := by
      rw [← List.append_assoc, split]
    refine ⟨middle.takeWhile p, middle.dropWhile p, split.symm, all, ?_, ?_⟩
    · rw [List.nil_append, whole, takeWhile_append_stops all stops]
    · rw [List.nil_append, whole, dropWhile_append_stops all stops, List.nil_append]
  · have here : Stops p (first ++ (middle ++ last)) :=
      .of_filled begins (.of_none none_)
    exact ⟨[], middle, rfl, by simp, takeWhile_of_stops here, dropWhile_of_stops here⟩

theorem trim_split (cs : List Char) :
    ∃ lead trail, (∀ c ∈ lead, isBlank c = true) ∧ (∀ c ∈ trail, isBlank c = true) ∧
      cs = lead ++ (trim cs ++ trail) := by
  refine ⟨cs.takeWhile isBlank, ((trimStart cs).reverse.takeWhile isBlank).reverse,
    fun c member => List.mem_takeWhile_imp member,
    fun c member => List.mem_takeWhile_imp (List.mem_reverse.1 member), ?_⟩
  have ends : trimStart cs = trim cs ++ ((trimStart cs).reverse.takeWhile isBlank).reverse := by
    rw [trim, trimEnd, ← List.reverse_append, List.takeWhile_append_dropWhile, List.reverse_reverse]
  rw [← ends, trimStart, List.takeWhile_append_dropWhile]

theorem trim_between (lead cs trail : List Char) (lead_ : ∀ c ∈ lead, isBlank c = true)
    (trail_ : ∀ c ∈ trail, isBlank c = true) (starts : Stops isBlank cs)
    (ends : Stops isBlank cs.reverse) (filled : cs ≠ []) : trim (lead ++ (cs ++ trail)) = cs := by
  have back : ∀ c ∈ trail.reverse, isBlank c = true :=
    fun c member => trail_ c (List.mem_reverse.1 member)
  rw [trim, trimStart, dropWhile_append_stops lead_ (.of_filled filled starts), trimEnd,
    List.reverse_append, dropWhile_append_stops back ends, List.reverse_reverse]

theorem trimEnd_cons (c : Char) (cs : List Char) :
    trimEnd (c :: cs) = if trimEnd cs = [] ∧ isBlank c = true then [] else c :: trimEnd cs := by
  unfold trimEnd
  rw [List.reverse_cons, List.dropWhile_append]
  cases cs.reverse.dropWhile isBlank with
  | nil => cases blank : isBlank c <;> simp [blank]
  | cons d ds => simp

theorem trimEnd_append_cons (cs : List Char) (c : Char) (rest : List Char)
    (dark : isBlank c = false) : trimEnd (cs ++ c :: rest) = cs ++ c :: trimEnd rest := by
  induction cs with
  | nil => simp [trimEnd_cons, dark]
  | cons d cs ih => simp [trimEnd_cons, ih]

theorem trimStart_trimEnd (cs : List Char) : trimStart (trimEnd cs) = trimEnd (trimStart cs) := by
  induction cs with
  | nil => rfl
  | cons c cs ih =>
    unfold trimStart at ih ⊢
    rw [trimEnd_cons, List.dropWhile_cons]
    cases blank : isBlank c with
    | false => simp [blank, trimEnd_cons]
    | true =>
      by_cases none_ : trimEnd cs = []
      · simpa [none_] using ih
      · simpa [none_, blank] using ih

theorem trimEnd_trimEnd (cs : List Char) : trimEnd (trimEnd cs) = trimEnd cs := by
  induction cs with
  | nil => rfl
  | cons c cs ih =>
    rw [trimEnd_cons]
    split
    · rfl
    · rename_i kept
      rw [trimEnd_cons, ih, if_neg kept]

theorem trim_trimEnd (cs : List Char) : trim (trimEnd cs) = trim cs := by
  rw [trim, trimStart_trimEnd, trimEnd_trimEnd, trim]

theorem trim_blank (cs : List Char) (blank : ∀ c ∈ cs, isBlank c = true) : trim cs = [] := by
  rw [trim, trimStart, List.dropWhile_eq_nil_iff.2 blank]
  rfl

theorem stops_trim (cs : List Char) : Stops isBlank (trim cs) := by
  rw [trim, ← trimStart_trimEnd]
  exact stops_dropWhile (trimEnd cs)

end PackSpec.Text
