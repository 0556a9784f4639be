import PackSpec.Document.Decode
import PackSpec.Proofs.Decimal.Texts

set_option autoImplicit false

namespace PackSpec

theorem Yaml.Integer.toInt_int64? (n : Yaml.Integer) (i : Int64) (small : n.int64? = some i) :
    i.toInt = n.val := by
  unfold int64? at small
  split at small
  · next within =>
    rw [← Option.some.inj small]
    simp only [Decimal.isInt64, Bool.and_eq_true, decide_eq_true_eq] at within
    exact Int64.toInt_ofInt_of_le within.1 within.2
  · simp at small

theorem Yaml.Integer.large_of_int64? (n : Yaml.Integer) (large : n.int64? = none) :
    0x8000000000000000 ≤ n.val := by
  have range := n.inRange
  unfold int64? at large
  split at large
  · simp at large
  · next beyond =>
    simp only [Decimal.isInt64, Bool.and_eq_true, decide_eq_true_eq] at beyond
    omega

namespace Decode

open Coerce (retyped fits)

def convert (shape : Param.Shape) (w : Param.Value) : Option Param.Value :=
  if fits shape (retyped shape w) then some (retyped shape w) else none

def isTyped : Param.Shape → Bool
  | .bool | .int | .float | .strs | .str => true
  | _ => false

/-- Values that mean the same whether they are read as a shape or converted to it. -/
def isSteady : Param.Shape → Yaml → Bool
  | .strs, .bool _ | .strs, .int _ | .strs, .float _ => false
  | .int, .int n | .str, .int n => n.int64?.isSome
  | .int, .float x => isWithin x || !x.isWhole
  | _, _ => true

theorem isTyped_typed (type : Option String) : isTyped (Kind.typed .zProperty type) = true := by
  unfold Kind.typed
  split <;> rfl

theorem untyped?_int (n : Yaml.Integer) :
    (∃ i, n.int64? = some i ∧ i.toInt = n.val ∧ untyped? (.int n) = some (.int i)) ∨
      (n.int64? = none ∧ (Decimal.Binary64.ofInt n.val).isWhole = true ∧
        untyped? (.int n) = some (.float (.ofInt n.val))) := by
  cases small : n.int64? with
  | some i => exact .inl ⟨i, rfl, n.toInt_int64? i small, by simp [untyped?, small]⟩
  | none =>
    refine .inr ⟨rfl, ?_, by simp [untyped?, small]⟩
    exact Decimal.Binary64.isWhole_ofInt n.val (n.large_of_int64? small) n.inRange.2

theorem convert_strs (shape : Param.Shape) (texts : List String) :
    convert shape (.strs texts) = if shape = .strs then some (.strs texts) else none := by
  cases shape <;> rfl

theorem coerce_seq (shape : Param.Shape) (items : List Yaml) (typed : isTyped shape = true) :
    coerce shape (.seq items) = (untyped? (.seq items)).bind (convert shape) := by
  have lists : (untyped? (.seq items)).bind (convert shape) =
      if shape = .strs then (texts? (.seq items)).map .strs else none := by
    cases read : texts? (.seq items) with
    | none => simp [untyped?, read]
    | some texts => simp [untyped?, read, convert_strs]
  rw [lists]
  cases shape <;> first | rfl | simp [isTyped] at typed

theorem coerce_str (shape : Param.Shape) (text : String) (typed : isTyped shape = true) :
    coerce shape (.str text) = (untyped? (.str text)).bind (convert shape) := by
  cases shape with
  | bool => cases read : Coerce.boolOf? text <;> simp [coerce, untyped?, convert, retyped, fits, read]
  | int => cases read : Coerce.intOf? text <;> simp [coerce, int?, untyped?, convert, retyped, fits, read]
  | float =>
    cases read : Coerce.floatOf? text <;>
      simp [coerce, float?, untyped?, convert, retyped, fits, read]
  | strs | str => rfl
  | _ => simp [isTyped] at typed

theorem coerce_int (shape : Param.Shape) (n : Yaml.Integer) (typed : isTyped shape = true) :
    coerce shape (.int n) = (untyped? (.int n)).bind (convert shape) ↔
      isSteady shape (.int n) = true := by
  -- Beyond 64 bits with a sign the integer has become a floating-point number.
  rcases untyped?_int n with ⟨i, small, same, own⟩ | ⟨large, whole, own⟩
  · cases shape with
    | bool | int | float | strs =>
      simp [coerce, int?, float?, texts?, scalarText?, own, convert, retyped, fits, isSteady, small,
        same]
    | str => simp [coerce, scalarText?, Yaml.intText, own, convert, retyped, fits, isSteady, small, same]
    | _ => simp [isTyped] at typed
  · cases shape with
    | bool | int | float | strs =>
      simp [coerce, int?, float?, texts?, scalarText?, own, convert, retyped, fits, isSteady, large,
        whole]
    | str =>
      have other := Decimal.floatText_ne_intText (.ofInt n.val) n
      simp [coerce, scalarText?, own, convert, retyped, fits, isSteady, large, other.symm]
    | _ => simp [isTyped] at typed

theorem coerce_float (shape : Param.Shape) (x : Decimal.Binary64) (typed : isTyped shape = true) :
    coerce shape (.float x) = (untyped? (.float x)).bind (convert shape) ↔
      isSteady shape (.float x) = true := by
  cases shape with
  | int =>
    cases within : isWithin x <;> cases whole : x.isWhole <;>
      simp [coerce, int?, whole?, untyped?, convert, retyped, fits, isSteady, within, whole]
  | bool | float | strs | str =>
    simp [coerce, float?, texts?, scalarText?, untyped?, convert, retyped, fits, isSteady]
  | _ => simp [isTyped] at typed

theorem coerce_bool (shape : Param.Shape) (b : Bool) (typed : isTyped shape = true) :
    coerce shape (.bool b) = (untyped? (.bool b)).bind (convert shape) ↔
      isSteady shape (.bool b) = true := by
  cases shape with
  | bool | int | float | strs | str =>
    simp [coerce, int?, float?, texts?, scalarText?, untyped?, convert, retyped, fits, isSteady]
  | _ => simp [isTyped] at typed

theorem coerce_eq_convert_iff (shape : Param.Shape) (v : Yaml) (typed : isTyped shape = true) :
    coerce shape v = (untyped? v).bind (convert shape) ↔ isSteady shape v = true := by
  cases v with
  | bool b => exact coerce_bool shape b typed
  | int n => exact coerce_int shape n typed
  | float x => exact coerce_float shape x typed
  | str text =>
    have steady : isSteady shape (.str text) = true := by cases shape <;> rfl
    simp [coerce_str shape text typed, steady]
  | seq items =>
    have steady : isSteady shape (.seq items) = true := by cases shape <;> rfl
    simp [coerce_seq shape items typed, steady]
  | null | map | tagged =>
    cases shape with
    | bool | int | float | strs | str =>
      simp [coerce, int?, float?, texts?, scalarText?, untyped?, isSteady]
    | _ => simp [isTyped] at typed

theorem isSteady_of_isNull (shape : Param.Shape) (v : Yaml) (null : v.isNull = true) :
    isSteady shape v = true := by
  cases v with
  | null | tagged => cases shape <;> rfl
  | _ => simp [Yaml.isNull, Yaml.untagged] at null

theorem convert_of_coerce (shape : Param.Shape) (v : Yaml) (w : Param.Value)
    (typed : isTyped shape = true) (read : coerce shape v = some w) : convert shape w = some w := by
  cases shape with
  | bool =>
    cases v with
    | bool b =>
      simp only [coerce, Option.some.injEq] at read
      simp [← read, convert, retyped, fits]
    | str text =>
      simp only [coerce, Option.map_eq_some_iff] at read
      obtain ⟨_, _, rfl⟩ := read
      simp [convert, retyped, fits]
    | _ => simp [coerce] at read
  | int | float | str | strs =>
    simp only [coerce, Option.map_eq_some_iff] at read
    obtain ⟨_, _, rfl⟩ := read
    simp [convert, retyped, fits]
  | _ => simp [isTyped] at typed

theorem bind_convert_coerce (shape : Param.Shape) (v : Yaml) (typed : isTyped shape = true) :
    (coerce shape v).bind (convert shape) = coerce shape v := by
  cases read : coerce shape v with
  | none => rfl
  | some w => exact convert_of_coerce shape v w typed read

end Decode

end PackSpec
