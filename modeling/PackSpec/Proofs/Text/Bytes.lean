import Mathlib.Data.String.Basic

set_option autoImplicit false

namespace PackSpec

namespace Text

def bytes (s : String) : List UInt8 := s.toByteArray.data.toList

theorem bytes_eq (s : String) : bytes s = s.toList.flatMap String.utf8EncodeChar := by
  rw [bytes, ← String.utf8Encode_toList, List.utf8Encode, List.data_toByteArray]

theorem cons_lt_cons_ofNat (m n : Nat) (xs ys : List UInt8) (small : m < 256) (small_ : n < 256) :
    UInt8.ofNat m :: xs < UInt8.ofNat n :: ys ↔ m < n ∨ m = n ∧ xs < ys := by
  rw [List.cons_lt_cons_iff, UInt8.lt_iff_toNat_lt, ← UInt8.toNat_inj, UInt8.toNat_ofNat',
    UInt8.toNat_ofNat', Nat.mod_eq_of_lt small, Nat.mod_eq_of_lt small_]

theorem lt_places (b m n : Nat) (less : m < n) :
    m / b < n / b ∨ m / b = n / b ∧ m % b < n % b := by
  rcases Nat.lt_or_ge (m / b) (n / b) with above | same
  · exact .inl above
  · have same_ : m / b = n / b := Nat.le_antisymm (Nat.div_le_div_right less.le) same
    have first := Nat.div_add_mod m b
    have second := Nat.div_add_mod n b
    rw [same_] at first
    exact .inr ⟨same_, by omega⟩

theorem encoded_lt (c d : Char) (less : c < d) (xs ys : List UInt8) :
    String.utf8EncodeChar c ++ xs < String.utf8EncodeChar d ++ ys := by
  have less_ : c.val.toNat < d.val.toNat := less
  have bound : d.val.toNat < 0x110000 := by
    rcases d.valid with low | high <;> omega
  unfold String.utf8EncodeChar
  generalize c.val.toNat = m at less_
  generalize d.val.toNat = n at less_ bound
  have units := lt_places 64 m n less_
  have second : m / 64 < n / 64 →
      m / 4096 < n / 4096 ∨ m / 4096 = n / 4096 ∧ m / 64 % 64 < n / 64 % 64 := by
    intro above
    have := lt_places 64 _ _ above
    rwa [Nat.div_div_eq_div_mul, Nat.div_div_eq_div_mul] at this
  have third : m / 4096 < n / 4096 →
      m / 262144 < n / 262144 ∨ m / 262144 = n / 262144 ∧ m / 4096 % 64 < n / 4096 % 64 := by
    intro above
    have := lt_places 64 _ _ above
    rwa [Nat.div_div_eq_div_mul, Nat.div_div_eq_div_mul] at this
  dsimp only
  split_ifs <;> simp (disch := omega) only [List.cons_append, List.nil_append, cons_lt_cons_ofNat]
  -- A longer encoding has a greater first byte; of the same length the first other place decides.
  all_goals try exact .inl (by omega)
  · rcases units with above | ⟨same, units⟩
    · exact .inl (by omega)
    · exact .inr ⟨by rw [same], .inl (by omega)⟩
  · rcases units with above | ⟨same, units⟩
    · rcases second above with above | ⟨same, second⟩
      · exact .inl (by omega)
      · exact .inr ⟨by rw [same], .inl (by omega)⟩
    · have same_ : m / 4096 = n / 4096 := by omega
      exact .inr ⟨by rw [same_], .inr ⟨by rw [same], .inl (by omega)⟩⟩
  · rcases units with above | ⟨same, units⟩
    · rcases second above with above | ⟨same, second⟩
      · rcases third above with above | ⟨same, third⟩
        · exact .inl (by omega)
        · exact .inr ⟨by rw [same], .inl (by omega)⟩
      · have same_ : m / 262144 = n / 262144 := by omega
        exact .inr ⟨by rw [same_], .inr ⟨by rw [same], .inl (by omega)⟩⟩
    · have same_ : m / 4096 = n / 4096 := by omega
      have top : m / 262144 = n / 262144 := by omega
      exact .inr ⟨by rw [top], .inr ⟨by rw [same_], .inr ⟨by rw [same], .inl (by omega)⟩⟩⟩

theorem bytes_lt (s t : String) (less : s < t) : bytes s < bytes t := by
  rw [bytes_eq, bytes_eq]
  have less_ : s.toList < t.toList := String.lt_iff_toList_lt.1 less
  generalize s.toList = cs at less_
  generalize t.toList = ds at less_
  induction less_ with
  | @nil c cs =>
    have filled : String.utf8EncodeChar c ≠ [] := by
      unfold String.utf8EncodeChar
      dsimp only
      split_ifs <;> simp
    obtain ⟨b, bs, same⟩ := List.exists_cons_of_ne_nil filled
    rw [List.flatMap_nil, List.flatMap_cons, same]
    exact List.nil_lt_cons _ _
  | rel less => exact encoded_lt _ _ less _ _
  | cons _ ih => exact List.append_left_lt ih

end Text

end PackSpec
