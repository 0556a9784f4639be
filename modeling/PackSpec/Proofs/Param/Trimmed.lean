import PackSpec.Param.Access
import PackSpec.Param.Overlay

set_option autoImplicit false

namespace PackSpec

namespace Param.Value

mutual

def trimmed : Param.Value → Param.Value
  | .specs k cs => .specs k (trimmedChildren cs)
  | .groups k gs => .groups k (trimmedGroups gs)
  | v => v

def trimmedParams : List (String × Param.Value) → List (String × Param.Value)
  | [] => []
  | (name, v) :: rest => (name, trimmed v) :: trimmedParams rest

def trimmedChildren : List (String × List (String × Param.Value)) →
    List (String × List (String × Param.Value))
  | [] => []
  | (name, ps) :: rest =>
    if name == defaultsName then trimmedChildren rest
    else (name, trimmedParams ps) :: trimmedChildren rest

def trimmedGroups : List (String × List (String × List (String × Param.Value))) →
    List (String × List (String × List (String × Param.Value)))
  | [] => []
  | (name, cs) :: rest => (name, trimmedChildren cs) :: trimmedGroups rest

end

end Param.Value

open Param.Value (trimmedParams trimmedChildren)

theorem Params.trimmed_eq (ps : Params) :
    trimmedParams ps = Entries.mapValues Param.Value.trimmed ps := by
  induction ps with
  | nil => rfl
  | cons e ps ih => exact congrArg (List.cons _) ih

theorem Children.trimmed_eq (cs : Children) :
    trimmedChildren cs = Entries.mapValues trimmedParams (Entries.erase cs defaultsName) := by
  induction cs with
  | nil => rfl
  | cons e cs ih =>
    obtain ⟨name, ps⟩ := e
    rw [trimmedChildren, ih, Entries.erase, Entries.erase, List.filter_cons]
    by_cases same : name = defaultsName <;> simp [same, Entries.mapValues]

theorem Children.get?_trimmed (cs : Children) (name : String) (other : name ≠ defaultsName) :
    Entries.get? (trimmedChildren cs) name = (Entries.get? cs name).map trimmedParams := by
  rw [Children.trimmed_eq, Entries.get?_mapValues, Entries.get?_erase, if_neg other]

theorem Children.names_trimmed (cs : Children) :
    Entries.names (trimmedChildren cs) = (Entries.names cs).filter (· != defaultsName) := by
  rw [Children.trimmed_eq, Entries.names_mapValues, Entries.erase, Entries.names, Entries.names,
    List.filter_map]
  rfl

theorem Children.has_trimmed (cs : Children) (name : String) :
    Entries.has (trimmedChildren cs) name = (Entries.has cs name && name != defaultsName) := by
  rw [Children.trimmed_eq, Entries.has_eq_isSome, Entries.get?_mapValues, Entries.get?_erase,
    Entries.has_eq_isSome]
  by_cases same : name = defaultsName <;> simp [same]

namespace Params

variable (ps : Params) (name : String)

theorem value_trimmed : value (trimmedParams ps) name = (value ps name).trimmed := by
  rw [trimmed_eq, value, value, Entries.get?_mapValues]
  cases Entries.get? ps name <;> rfl

theorem str?_trimmed : str? (trimmedParams ps) name = str? ps name := by
  unfold str?
  rw [value_trimmed]
  cases value ps name <;> rfl

theorem str_trimmed : str (trimmedParams ps) name = str ps name := by
  rw [str, str?_trimmed, str]

theorem relationships_trimmed : relationships (trimmedParams ps) name = relationships ps name := by
  unfold relationships
  rw [value_trimmed]
  cases value ps name <;> rfl

theorem classRefs_trimmed : classRefs (trimmedParams ps) name = classRefs ps name := by
  unfold classRefs
  rw [value_trimmed]
  cases value ps name <;> rfl

theorem children_trimmed : children (trimmedParams ps) name = trimmedChildren (children ps name) := by
  unfold children
  rw [value_trimmed]
  cases value ps name <;> rfl

theorem put_trimmed (v : Param.Value) :
    trimmedParams (Entries.put ps name v) = Entries.put (trimmedParams ps) name v.trimmed := by
  have present : Entries.has (trimmedParams ps) name = Entries.has ps name := by
    rw [trimmed_eq, Entries.has_eq_isSome, Entries.get?_mapValues, Entries.has_eq_isSome,
      Option.isSome_map]
  rw [Entries.put, Entries.put, present, trimmed_eq, trimmed_eq]
  split
  · simp only [Entries.mapValues, List.map_map]
    refine List.map_congr_left fun e _ => ?_
    by_cases same : e.1 = name <;> simp [same]
  · simp [Entries.mapValues]

end Params

end PackSpec
