import PackSpec.Proofs.Param.Fits

set_option autoImplicit false

namespace PackSpec

namespace Coerce

theorem retyped_retyped (s : Param.Shape) (v : Param.Value) :
    retyped s (retyped s v) = retyped s v := by
  cases s with
  | bool =>
    cases v with
    | str text => cases read : boolOf? text <;> simp [retyped, read]
    | _ => rfl
  | int =>
    cases v with
    | str text => cases read : intOf? text <;> simp [retyped, read]
    | float x => cases whole : x.isWhole <;> simp [retyped, whole]
    | _ => rfl
  | float =>
    cases v with
    | str text => cases read : floatOf? text <;> simp [retyped, read]
    | _ => rfl
  | _ => cases v <;> rfl

theorem holds_of_fits (s : Param.Shape) (v : Param.Value) (field : String)
    (fits_ : fits s v = true) : v = .null ∨ (Param.Shape.typedBy field).holds v = true := by
  cases v <;> simp_all [fits, Param.Shape.holds]

end Coerce

namespace Node

theorem typeDefault_ok (ps built : Params) (done : typeDefault ps = .ok built) :
    let shape := Kind.typed .zProperty (some (Params.str ps "type_"))
    let default := Coerce.retyped shape (Params.value ps "default")
    Coerce.fits shape default = true ∧ built = Entries.put ps "default" default := by
  intro shape default
  unfold typeDefault at done
  dsimp only at done
  split at done
  · next fits => exact ⟨fits, (Except.ok.inj done).symm⟩
  · simp at done

theorem ensureOneOf_ok (name param value : String) (allowed : List String) (u : Unit)
    (done : ensureOneOf name param value allowed = .ok u) : allowed.contains value = true := by
  unfold ensureOneOf at done
  split at done
  · assumption
  · simp at done

theorem checkProperty_ok (name : String) (ps built : Params)
    (done : checkProperty name ps = .ok built) :
    built = ps ∧ backends.contains (backend ps) = true ∧
      indexScopes.contains (Params.str ps "index_scope") = true := by
  simp only [checkProperty, bind, Except.bind, pure, Except.pure] at done
  split at done
  · simp at done
  · next first =>
    split at done
    · simp at done
    · next second =>
      exact ⟨(Except.ok.inj done).symm, ensureOneOf_ok _ _ _ _ _ first,
        ensureOneOf_ok _ _ _ _ _ second⟩

theorem checked_again (k : Kind) (name : String) (ps built : Params)
    (distinct : Entries.Distinct ps) (done : check k name ps = .ok built) (other : String) :
    check k other built = .ok built := by
  cases k with
  | zProperty =>
    obtain ⟨fits, rfl⟩ := typeDefault_ok ps built done
    generalize type : Kind.typed .zProperty (some (Params.str ps "type_")) = shape at fits ⊢
    -- The type is another parameter, so it is the same type after the default was replaced.
    have type_ (v : Param.Value) : Params.str (Entries.put ps "default" v) "type_" =
        Params.str ps "type_" := by
      simp [Params.str, Params.str?, Params.value, Entries.get?_put]
    have value (v : Param.Value) : Params.value (Entries.put ps "default" v) "default" = v := by
      simp [Params.value, Entries.get?_put]
    have again : Entries.put (Entries.put ps "default" (Coerce.retyped shape
        (Params.value ps "default"))) "default" (Coerce.retyped shape (Params.value ps "default")) =
        Entries.put ps "default" (Coerce.retyped shape (Params.value ps "default")) :=
      Entries.put_self _ _ _ (Entries.distinct_put ps _ _ distinct) (by simp [Entries.get?_put])
    rw [check, typeDefault, type_, value, type]
    rw [Coerce.retyped_retyped, if_pos fits, again]
  | classProperty =>
    obtain ⟨rfl, backend_, scope⟩ := checkProperty_ok name ps built done
    simp only [check, checkProperty, ensureOneOf, backend_, scope, if_true, bind, Except.bind, pure,
      Except.pure]
  | _ => rfl

def typeParam : Param := ((Param.of "type_" .str).called "type").orElse (.str "string")

def defaultParam : Param := Param.of "default" (.typedBy "type_")

theorem plain_or_default (k : Kind) (p : Param) (member : p ∈ k.params) :
    p.shape.isPlain = true ∨ (k = .zProperty ∧ p = defaultParam) := by
  revert p
  cases k <;> decide

theorem eq_defaultParam (p : Param) (member : p ∈ Kind.params .zProperty)
    (name : p.name = "default") : p = defaultParam := by
  revert p
  decide

theorem check_ok (k : Kind) (name : String) (ps built : Params) (done : check k name ps = .ok built) :
    (k ≠ .zProperty ∧ built = ps) ∨
      (k = .zProperty ∧ ∃ d, built = Entries.put ps "default" d ∧ defaultParam.Fits d) := by
  -- Only the default of a configuration property is ever changed by a check.
  cases k with
  | zProperty =>
    obtain ⟨fits, same⟩ := typeDefault_ok ps built done
    refine .inr ⟨rfl, _, same, ?_⟩
    rcases Coerce.holds_of_fits _ _ "type_" fits with null | held
    · exact .inl ⟨null, rfl⟩
    · exact .inr held
  | classProperty => exact .inl ⟨by simp, (checkProperty_ok name ps built done).1⟩
  | _ => exact .inl ⟨by simp, (Except.ok.inj done).symm⟩

end Node

end PackSpec
