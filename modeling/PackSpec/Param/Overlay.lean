import PackSpec.Entries
import PackSpec.Yaml.Value

set_option autoImplicit false

namespace PackSpec

def defaultsName : String := "DEFAULTS"

namespace Overlay

variable {α : Type}

def fill (own defaults : Entries α) : Entries α :=
  own ++ defaults.filter fun e => !Entries.has own e.1

def fillUnlessDefaults (defaults : Entries α) (e : String × Entries α) : String × Entries α :=
  if e.1 == defaultsName then e else (e.1, fill e.2 defaults)

def apply (keep : Bool) (c : Entries (Entries α)) : Entries (Entries α) :=
  match Entries.get? c defaultsName with
  | none => c
  | some defaults =>
    (if keep then c else Entries.erase c defaultsName).map (fillUnlessDefaults defaults)

/-- Defaults completed from `seed` before they are applied. -/
def seeded (seed : Entries α) (c : Entries (Entries α)) : Entries (Entries α) :=
  Entries.put c defaultsName (fill ((Entries.get? c defaultsName).getD []) seed)

def applyWith (seed : Entries α) (keep : Bool) (c : Entries (Entries α)) : Entries (Entries α) :=
  apply keep (seeded seed c)

def ofDocument (entries : List (Yaml × Yaml)) : Except Yaml (Option (List (Yaml × Yaml))) :=
  match Yaml.get? entries defaultsName with
  | none => .ok none
  | some .null => .ok (some [])
  | some (.map m) => .ok (some m)
  | some other => .error other

theorem get?_unset (own defaults : Entries α) (name : String) :
    Entries.get? (defaults.filter fun e => !Entries.has own e.1) name =
      if Entries.has own name then none else Entries.get? defaults name := by
  induction defaults with
  | nil => simp [Entries.get?]
  | cons e es ih =>
    cases he : Entries.has own e.1 with
    | true =>
      rw [List.filter_cons, he, if_neg (by simp), ih, Entries.get?_cons]
      by_cases h : name = e.1
      · simp [h, he]
      · simp [h]
    | false =>
      rw [List.filter_cons, he, if_pos (by simp), Entries.get?_cons, ih, Entries.get?_cons]
      by_cases h : name = e.1
      · simp [h, he]
      · simp [h]

theorem get?_fill (own defaults : Entries α) (name : String) :
    Entries.get? (fill own defaults) name =
      (Entries.get? own name).or (Entries.get? defaults name) := by
  rw [fill, Entries.get?_append, get?_unset, Entries.has_eq_isSome]
  cases Entries.get? own name <;> simp

theorem apply_of_none (keep : Bool) (c : Entries (Entries α))
    (h : Entries.get? c defaultsName = none) : apply keep c = c := by
  simp [apply, h]

end Overlay

end PackSpec
