import PackSpec.Proofs.Build.Composed

set_option autoImplicit false

namespace PackSpec

namespace Build

variable {α β : Type} {keeps : Bool → Prop}

def Yields (keeps : Bool → Prop) (b : Build α) (a : α) : Prop :=
  ∀ c, keeps c.keepsDefaults → b.run c = (.ok a, c)

theorem yields_pure (a : α) : Yields keeps (pure a : Build α) a := fun _ _ => rfl

theorem yields_bind {b : Build α} {f : α → Build β} {a : α} {a_ : β} (first : Yields keeps b a)
    (next : Yields keeps (f a) a_) : Yields keeps (b >>= f) a_ := by
  intro c setting
  rw [run_bind, first c setting]
  exact next c setting

theorem yields_map {b : Build α} {f : α → β} {a : α} (first : Yields keeps b a) :
    Yields keeps (do return f (← b)) (f a) :=
  yields_bind first (yields_pure (f a))

theorem yields_within (segment : String) {b : Build α} {a : α} (inside : Yields keeps b a) :
    Yields keeps (within segment b) a := by
  intro c setting
  rw [run_within, inside (c.enter segment) setting, Context.leave_enter]

theorem yields_recover {b : Build α} {found : α → Build β} {dropped : Build β} {a : α} {a_ : β}
    (tried : Yields keeps b a) (next : Yields keeps (found a) a_) :
    Yields keeps (recover b found dropped) a_ := by
  intro c setting
  rw [run_recover, tried c setting]
  exact next c setting

theorem yields_asking {f : Bool → String → Build α} {a : α} (setting : Bool)
    (answered : ∀ ns, Yields (· = setting) (f setting ns) a) :
    Yields (· = setting) (asking f) a := by
  intro c same
  rw [run_asking, same]
  exact answered c.ns c same

end Build

end PackSpec
