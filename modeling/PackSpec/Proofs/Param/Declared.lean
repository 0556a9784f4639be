import Mathlib.Data.List.Nodup
import PackSpec.Node.Build

set_option autoImplicit false

namespace PackSpec

namespace Table

theorem find?_of_nodup {α : Type} (key : α → String) (xs : List α) (x : α)
    (distinct : (xs.map key).Nodup) (member : x ∈ xs) :
    xs.find? (fun y => key y == key x) = some x := by
  induction xs with
  | nil => simp at member
  | cons y ys ih =>
    rw [List.map_cons, List.nodup_cons] at distinct
    rcases List.mem_cons.1 member with rfl | later
    · simp
    · have other : key y ≠ key x := fun same =>
        distinct.1 (same ▸ List.mem_map.2 ⟨x, later, rfl⟩)
      rw [List.find?_cons_of_neg (by simpa using other)]
      exact ih distinct.2 later

theorem at_place_after (key : Param → String) (before ps : List Param) (name : String) :
    ((Entries.get? ((ps.map key).zipIdx before.length) name).bind fun place =>
        (before ++ ps)[place]?) =
      ps.find? fun p => key p == name := by
  induction ps generalizing before with
  | nil => rfl
  | cons p ps ih =>
    rw [List.map_cons, List.zipIdx_cons, Entries.get?_cons]
    split
    · next same => simp [same]
    · next other =>
      rw [List.find?_cons_of_neg (by simpa using Ne.symm other), ← ih (before ++ [p])]
      simp

theorem at_place (key : Param → String) (ps : List Param) (name : String) :
    ((Entries.get? (ps.map key).zipIdx name).bind fun place => ps[place]?) =
      ps.find? fun p => key p == name :=
  at_place_after key [] ps name

theorem get?_eq_find? (t : Table) (name : String) :
    t.get? name = t.params.find? fun p => p.name == name := by
  rw [get?, t.placed]
  exact at_place Param.name t.params name

theorem ofExternal?_eq_find? (t : Table) (external : String) :
    t.ofExternal? external = t.params.find? fun p => p.external == external := by
  rw [ofExternal?, t.placed]
  exact at_place Param.external t.params external

theorem ofExternal?_external (t : Table) (external : String) (p : Param)
    (found : t.ofExternal? external = some p) : p ∈ t.params ∧ p.external = external := by
  rw [ofExternal?_eq_find?] at found
  exact ⟨List.mem_of_find?_eq_some found, by simpa using List.find?_some found⟩

end Table

namespace Kind

theorem nodup_names (k : Kind) : (k.params.map Param.name).Nodup := by
  cases k <;> decide

theorem nodup_externals (k : Kind) : (k.params.map Param.external).Nodup := by
  cases k <;> decide

theorem get?_table (k : Kind) (p : Param) (member : p ∈ k.params) :
    k.table.get? p.name = some p := by
  rw [Table.get?_eq_find?]
  exact Table.find?_of_nodup Param.name k.params p k.nodup_names member

theorem get?_table_none (k : Kind) (name : String) (unknown : ∀ p ∈ k.params, p.name ≠ name) :
    k.table.get? name = none := by
  rw [Table.get?_eq_find?]
  exact List.find?_eq_none.2 fun p member => by simpa using unknown p member

theorem ofExternal?_table (k : Kind) (p : Param) (member : p ∈ k.params) :
    k.table.ofExternal? p.external = some p := by
  rw [Table.ofExternal?_eq_find?]
  exact Table.find?_of_nodup Param.external k.params p k.nodup_externals member

end Kind

namespace Entries

variable {α : Type}

def ofParams (ps : List Param) (f : Param → Option α) : Entries α :=
  ps.filterMap fun p => (f p).map fun a => (p.name, a)

theorem ofParams_cons (p : Param) (ps : List Param) (f : Param → Option α) :
    ofParams (p :: ps) f = ((f p).map fun a => (p.name, a)).toList ++ ofParams ps f := by
  cases found : f p <;> simp [ofParams, found]

theorem mem_names_ofParams (ps : List Param) (f : Param → Option α) (name : String)
    (member : name ∈ names (ofParams ps f)) : name ∈ ps.map Param.name := by
  obtain ⟨e, there, rfl⟩ := List.mem_map.1 member
  obtain ⟨p, declared, made⟩ := List.mem_filterMap.1 there
  obtain ⟨a, _, rfl⟩ := Option.map_eq_some_iff.1 made
  exact List.mem_map.2 ⟨p, declared, rfl⟩

theorem get?_eq_none_iff (es : Entries α) (name : String) :
    get? es name = none ↔ name ∉ names es := by
  rw [← has_iff, has_eq_isSome, Option.not_isSome_iff_eq_none]

theorem get?_eq_none (es : Entries α) (name : String) (absent : name ∉ names es) :
    get? es name = none :=
  (get?_eq_none_iff es name).2 absent

theorem get?_ofParams (ps : List Param) (f : Param → Option α) (p : Param)
    (distinct : (ps.map Param.name).Nodup) (member : p ∈ ps) :
    get? (ofParams ps f) p.name = f p := by
  induction ps with
  | nil => simp at member
  | cons q qs ih =>
    rw [List.map_cons, List.nodup_cons] at distinct
    rw [ofParams_cons, get?_append]
    rcases List.mem_cons.1 member with rfl | later
    · cases found : f p with
      | none =>
        have absent : get? (ofParams qs f) p.name = none :=
          get?_eq_none _ _ fun there => distinct.1 (mem_names_ofParams qs f p.name there)
        simpa [get?] using absent
      | some a => simp [get?]
    · have other : p.name ≠ q.name := fun same =>
        distinct.1 (same ▸ List.mem_map.2 ⟨p, later, rfl⟩)
      have missing : get? (((f q).map fun a => (q.name, a)).toList) p.name = none := by
        cases f q with
        | none => rfl
        | some a => simp [other, get?]
      rw [missing, Option.none_or]
      exact ih distinct.2 later

theorem ofParams_some (ps : List Param) (f : Param → α) :
    ofParams ps (fun p => some (f p)) = ps.map fun p => (p.name, f p) := by
  rw [← List.filterMap_eq_map]
  rfl

theorem get?_map_name (ps : List Param) (f : Param → α) (p : Param)
    (distinct : (ps.map Param.name).Nodup) (member : p ∈ ps) :
    get? (ps.map fun p => (p.name, f p)) p.name = some (f p) := by
  rw [← ofParams_some]
  exact get?_ofParams ps _ p distinct member

theorem get?_of_mem (es : Entries α) (e : String × α) (distinct : Distinct es) (member : e ∈ es) :
    get? es e.1 = some e.2 := by
  induction es with
  | nil => simp at member
  | cons f fs ih =>
    rw [Distinct, names, List.map_cons, List.nodup_cons] at distinct
    rw [get?_cons]
    rcases List.mem_cons.1 member with rfl | later
    · simp
    · have other : e.1 ≠ f.1 := fun same => distinct.1 (same ▸ List.mem_map.2 ⟨e, later, rfl⟩)
      rw [if_neg other]
      exact ih distinct.2 later

theorem put_self (es : Entries α) (name : String) (a : α) (distinct : Distinct es)
    (found : get? es name = some a) : put es name a = es := by
  have present : has es name = true := by rw [has_eq_isSome, found]; rfl
  rw [put, if_pos present]
  refine (List.map_congr_left fun e member => ?_).trans (List.map_id es)
  split
  · next same =>
    have mine := get?_of_mem es e distinct member
    rw [beq_iff_eq.1 same, found] at mine
    exact Prod.ext rfl (Option.some.inj mine)
  · rfl

theorem mem_of_get? (es : Entries α) (name : String) (a : α) (found : get? es name = some a) :
    (name, a) ∈ es := by
  induction es with
  | nil => simp [get?] at found
  | cons e es ih =>
    rw [get?_cons] at found
    split at found
    · next same =>
      obtain rfl := Option.some.inj found
      exact List.mem_cons.2 (.inl (by rw [same]))
    · exact List.mem_cons_of_mem _ (ih found)

theorem mem_put (es : Entries α) (name : String) (a : α) (e : String × α)
    (member : e ∈ put es name a) : e ∈ es ∨ e = (name, a) := by
  unfold put at member
  split at member
  · obtain ⟨old, there, rfl⟩ := List.mem_map.1 member
    split
    · next same => exact .inr (by rw [beq_iff_eq.1 same])
    · exact .inl there
  · simpa using member

end Entries

end PackSpec
