import PackSpec.Yaml.Value

set_option autoImplicit false

namespace PackSpec

namespace Decimal

def IsMarked (text : String) : Prop := '.' ∈ text.toList ∨ 'e' ∈ text.toList

theorem isMarked_positional (digits : String) (places : Int) :
    IsMarked (Layout.positional digits places) := by
  unfold Layout.positional
  dsimp only
  split
  · exact .inl (by simp)
  · split <;> exact .inl (by simp)

theorem isMarked_scientific (digits : String) (places : Int) (given_ : digits.toList ≠ []) :
    IsMarked (Layout.scientific digits places) := by
  unfold Layout.scientific
  dsimp only
  split
  · next nothing => exact absurd nothing given_
  · exact .inr (by simp)
  · exact .inr (by simp)

theorem toList_toString_nat (n : Nat) : (toString n).toList = Nat.toDigits 10 n := Nat.toList_repr

theorem isMarked_magnitude (l : Layout) (x : Binary64) : IsMarked (l.magnitude x) := by
  unfold Layout.magnitude
  split
  · exact .inl (by decide)
  · dsimp only
    split
    · exact isMarked_positional _ _
    · refine isMarked_scientific _ _ ?_
      rw [toList_toString_nat]
      exact Nat.toDigits_ne_nil

theorem isMarked_floatText (x : Binary64) : IsMarked (Yaml.floatText x) := by
  unfold Yaml.floatText Layout.render
  split
  · exact .inl (by decide)
  · split
    · split <;> exact .inl (by decide)
    · rcases isMarked_magnitude Yaml.layout x with point | exponent
      · exact .inl (by simp [point])
      · exact .inr (by simp [exponent])

theorem isDigit_of_mem_nat (n : Nat) (c : Char) (member : c ∈ (toString n).toList) :
    c.isDigit = true := by
  rw [toList_toString_nat] at member
  exact Nat.isDigit_of_mem_toDigits (by decide) (by decide) member

theorem isDigit_or_dash (n : Int) (c : Char) (member : c ∈ (toString n).toList) :
    c.isDigit = true ∨ c = '-' := by
  cases n with
  | ofNat n => exact .inl (isDigit_of_mem_nat n c member)
  | negSucc n =>
    have text : toString (Int.negSucc n) = "-" ++ toString (n + 1) := rfl
    rw [text, String.toList_append] at member
    rcases List.mem_append.1 member with dash | digit
    · exact .inr (List.mem_singleton.1 dash)
    · exact .inl (isDigit_of_mem_nat (n + 1) c digit)

theorem floatText_ne_intText (x : Binary64) (n : Yaml.Integer) :
    Yaml.floatText x ≠ Yaml.intText n := by
  intro same
  rcases isMarked_floatText x with point | exponent
  · rw [same] at point
    rcases isDigit_or_dash n.val '.' point with digit | dash
    · exact absurd digit (by decide)
    · exact absurd dash (by decide)
  · rw [same] at exponent
    rcases isDigit_or_dash n.val 'e' exponent with digit | dash
    · exact absurd digit (by decide)
    · exact absurd dash (by decide)

namespace Binary64

def wholeMagnitude : Nat := 1075 * leadingBit

theorem isWhole_of_binary (x : Binary64) (m e : Nat) (finite : x.isFinite = true)
    (binary : x.binary = (m, e)) (shift : 1074 ≤ e) : x.isWhole = true := by
  unfold isWhole Binary64.ratio
  generalize 1074 = i at shift ⊢
  have divides : Nat.pow 2 i ∣ m * Nat.pow 2 e :=
    Nat.dvd_mul_left_of_dvd (Nat.pow_dvd_pow 2 shift) m
  rw [binary, finite, Bool.true_and, beq_iff_eq]
  exact Nat.mod_eq_zero_of_dvd divides

theorem isWhole_of_magnitude (x : Binary64) (large : wholeMagnitude ≤ x.magnitude)
    (finite : x.magnitude < infinityMagnitude) : x.isWhole = true := by
  have stored : 1075 ≤ x.magnitude / leadingBit :=
    (Nat.le_div_iff_mul_le (by decide)).2 large
  obtain ⟨e, exponent⟩ : ∃ e, x.magnitude / leadingBit = e + 1 :=
    ⟨x.magnitude / leadingBit - 1, by omega⟩
  refine isWhole_of_binary x (x.magnitude % leadingBit + leadingBit) e ?_ ?_ (by omega)
  · simpa [isFinite] using finite
  · simp only [Binary64.binary, exponent]

theorem magnitude_ofMagnitude (m : Nat) (low : m < signBit) :
    (ofMagnitude false m).magnitude = m := by
  have stored : (UInt64.ofNat m).toNat = m :=
    UInt64.toNat_ofNat_of_lt' (Nat.lt_trans low (by decide))
  simp [magnitude, ofMagnitude, stored, Nat.mod_eq_of_lt low]

theorem roundHalfEven_bounds (num den : Nat) :
    num / den ≤ roundHalfEven num den ∧ roundHalfEven num den ≤ num / den + 1 := by
  unfold roundHalfEven
  dsimp only
  split <;> omega

theorem binaryExponent_large (num : Nat) (low : 0x8000000000000000 ≤ num)
    (high : num < 0x10000000000000000) : binaryExponent num 1 = 63 := by
  have log : num.log2 = 63 := by
    rw [Nat.log2_eq_iff (by omega)]
    exact ⟨low, high⟩
  have one : Nat.log2 1 = 0 := by decide
  have reached : (1 : Nat) * Nat.pow 2 63 ≤ num := low
  simp only [binaryExponent, log, one]
  simp [reached]

theorem isWhole_ofInt (n : Int) (low : 0x8000000000000000 ≤ n) (high : n < 0x10000000000000000) :
    (ofInt n).isWhole = true := by
  obtain ⟨num, rfl⟩ := Int.eq_ofNat_of_zero_le (show 0 ≤ n by omega)
  have bounds := roundHalfEven_bounds num (1 * Nat.pow 2 11)
  have exponent := binaryExponent_large num (by omega) (by omega)
  have number : ofInt num = ofMagnitude false
      (min ((11 + 1074) * leadingBit + roundHalfEven num (1 * Nat.pow 2 11)) infinityMagnitude) := by
    have positive : (num == 0) = false := by simp; omega
    have sign : decide ((num : Int) < 0) = false := by simp
    simp only [ofInt, ofRatio, Int.natAbs_natCast, exponent, positive, sign]
    rfl
  have shift : Nat.pow 2 11 = 2048 := rfl
  have leading : leadingBit = 0x10000000000000 := rfl
  have infinity : infinityMagnitude = 0x7FF * 0x10000000000000 := rfl
  have sign : signBit = 0x8000000000000000 := rfl
  rw [shift] at bounds
  rw [number, shift, Nat.min_eq_left (by omega)]
  have stored := magnitude_ofMagnitude
    ((11 + 1074) * leadingBit + roundHalfEven num (1 * 2048)) (by omega)
  apply isWhole_of_magnitude <;> rw [stored]
  · unfold wholeMagnitude
    omega
  · omega

end Binary64

end Decimal

end PackSpec
