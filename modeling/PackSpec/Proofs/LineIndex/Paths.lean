import Mathlib.Data.List.Nodup
import PackSpec.Proofs.Decimal.Texts
import PackSpec.Proofs.LineIndex.Outline

set_option autoImplicit false

namespace PackSpec

namespace LineIndex

def pathsOf (rows : List Row) : List (List String) :=
  rows.filterMap fun r => r.node.map Prod.fst

theorem paths_marksOf (line : Nat) (rows : List Row) :
    (marksOf line rows).map Mark.path = pathsOf rows := by
  induction rows generalizing line with
  | nil => rfl
  | cons r rows ih =>
    unfold pathsOf at ih ⊢
    rw [marksOf, List.map_append, ih, List.filterMap_cons, Row.mark?]
    cases r.node <;> rfl

theorem pathsOf_append (rows more : List Row) :
    pathsOf (rows ++ more) = pathsOf rows ++ pathsOf more :=
  List.filterMap_append

theorem pathsOf_none (rows : List Row) (none_ : ∀ r ∈ rows, r.node = none) : pathsOf rows = [] := by
  rw [pathsOf, List.filterMap_eq_nil_iff]
  intro r member
  rw [none_ r member]
  rfl

theorem pathsOf_gap (gap : List Filler) : pathsOf (gap.map Filler.row) = [] := by
  refine pathsOf_none _ (List.forall_mem_map.2 fun f _ => ?_)
  cases f <;> rfl

theorem pathsOf_lines (indent : Nat) (lines : List BlockLine) :
    pathsOf (lines.map (BlockLine.row indent)) = [] := by
  refine pathsOf_none _ (List.forall_mem_map.2 fun b _ => ?_)
  cases b <;> rfl

theorem pathsOf_head (path : List String) (indent : Nat) (head : Head) (value : List Char) :
    pathsOf (head.rows path indent value) = [path ++ [head.key.name]] := by
  rw [Head.rows, pathsOf_append, pathsOf_gap]
  rfl

theorem pathsOf_itemRows (path : List String) (indent i : Nat) (list : List Item) :
    pathsOf (itemRows path indent i list) =
      (List.range' i list.length).map fun j => path ++ [toString j] := by
  induction list generalizing i with
  | nil => rfl
  | cons item list ih =>
    have tail := ih (i + 1)
    unfold pathsOf at tail
    rw [itemRows, pathsOf_append, pathsOf_gap, List.length_cons, List.range'_succ, List.map_cons,
      ← tail]
    rfl

def entryPaths (name : String) (inside : List (List String)) : List (List String) :=
  [name] :: inside.map (name :: ·)

theorem mem_entryPaths (name : String) (inside : List (List String)) (path : List String) :
    path ∈ entryPaths name inside ↔ ∃ rest, path = name :: rest ∧ (rest = [] ∨ rest ∈ inside) := by
  rw [entryPaths, List.mem_cons, List.mem_map]
  constructor
  · rintro (rfl | ⟨rest, member, rfl⟩)
    · exact ⟨[], rfl, .inl rfl⟩
    · exact ⟨rest, rfl, .inr member⟩
  · rintro ⟨rest, rfl, rfl | member⟩
    · exact .inl rfl
    · exact .inr ⟨rest, member, rfl⟩

theorem nodup_entryPaths (name : String) (inside rest : List (List String))
    (filled : [] ∉ inside) (unique : inside.Nodup) (distinct : rest.Nodup)
    (other : ∀ path ∈ rest, path.head? ≠ some name) : (entryPaths name inside ++ rest).Nodup := by
  refine List.Nodup.append ?_ distinct ?_
  · refine List.nodup_cons.2 ⟨fun member => ?_, unique.map (List.cons_injective)⟩
    obtain ⟨path, there, same⟩ := List.mem_map.1 member
    rw [(List.cons.inj same).2] at there
    exact filled there
  · intro path here there
    obtain ⟨tail, rfl, -⟩ := (mem_entryPaths name inside path).1 here
    exact other _ there rfl

theorem toString_injective : Function.Injective (toString : Nat → String) := by
  intro i j same
  have digits : Nat.toDigits 10 i = Nat.toDigits 10 j := by
    rw [← Decimal.toList_toString_nat, same, Decimal.toList_toString_nat]
  have read := congrArg (fun cs => Nat.ofDigitChars 10 cs 0) digits
  simpa only [Nat.ofDigitChars_ten_toDigits] using read

def itemPaths (list : List Item) : List (List String) :=
  (List.range list.length).map fun i => [toString i]

namespace Outline

def paths : Outline → List (List String)
  | done _ => []
  | text head _ rest | block head _ _ rest => entryPaths head.key.name [] ++ rest.paths
  | items head _ list rest => entryPaths head.key.name (itemPaths list) ++ rest.paths
  | mapping head _ inner rest => entryPaths head.key.name inner.paths ++ rest.paths

theorem pathsOf_rows (o : Outline) (path : List String) (indent : Nat) :
    pathsOf (o.rows path indent) = o.paths.map (path ++ ·) := by
  induction o generalizing path indent with
  | done gap => exact pathsOf_gap gap
  | text head value rest ih => simp [rows, paths, entryPaths, pathsOf_append, pathsOf_head, ih]
  | block head header lines rest ih =>
    simp [rows, paths, entryPaths, pathsOf_append, pathsOf_head, pathsOf_lines, ih]
  | items head deeper list rest ih =>
    simp [rows, paths, entryPaths, itemPaths, pathsOf_append, pathsOf_head, pathsOf_itemRows, ih,
      List.range_eq_range', Function.comp_def]
  | mapping head deeper inner rest ihInner ih =>
    simp [rows, paths, entryPaths, pathsOf_append, pathsOf_head, ihInner, ih, Function.comp_def]

theorem key_of_mem_paths (o : Outline) (path : List String) (member : path ∈ o.paths) :
    ∃ key ∈ o.keys, path.head? = some key := by
  induction o with
  | done gap => simp [paths] at member
  | text head value rest ih | block head header lines rest ih | items head deeper list rest ih
  | mapping head deeper inner rest _ ih =>
    rcases List.mem_append.1 member with here | there
    · obtain ⟨tail, rfl, -⟩ := (mem_entryPaths _ _ path).1 here
      exact ⟨head.key.name, .head _, rfl⟩
    · obtain ⟨key, among, first⟩ := ih there
      exact ⟨key, .tail _ among, first⟩

theorem nodup_paths (o : Outline) (distinct : o.Distinct) : o.paths.Nodup := by
  have other (name : String) (rest : Outline) (fresh : name ∉ rest.keys) :
      ∀ path ∈ rest.paths, path.head? ≠ some name := by
    intro path member first
    obtain ⟨key, among, first_⟩ := rest.key_of_mem_paths path member
    obtain rfl := Option.some.inj (first.symm.trans first_)
    exact fresh among
  induction o with
  | done gap => exact List.nodup_nil
  | text head value rest ih | block head header lines rest ih =>
    obtain ⟨fresh, rest_⟩ := distinct
    exact nodup_entryPaths _ [] _ (by simp) .nil (ih rest_) (other _ _ fresh)
  | items head deeper list rest ih =>
    obtain ⟨fresh, rest_⟩ := distinct
    refine nodup_entryPaths _ _ _ (by simp [itemPaths]) ?_ (ih rest_) (other _ _ fresh)
    exact List.nodup_range.map fun i j same => toString_injective (List.cons.inj same).1
  | mapping head deeper inner rest ihInner ih =>
    obtain ⟨fresh, inner_, rest_⟩ := distinct
    refine nodup_entryPaths _ _ _ (fun member => ?_) (ihInner inner_) (ih rest_) (other _ _ fresh)
    obtain ⟨key, -, first⟩ := inner.key_of_mem_paths [] member
    cases first

theorem slashless (o : Outline) :
    ∀ path ∈ o.paths, ∀ part ∈ path, '/' ∉ part.toList := by
  have entry (k : Key) (inside : List (List String)) (path : List String)
      (inside_ : ∀ path ∈ inside, ∀ part ∈ path, '/' ∉ part.toList)
      (here : path ∈ entryPaths k.name inside) : ∀ part ∈ path, '/' ∉ part.toList := by
    have first : '/' ∉ k.name.toList := by simpa [Key.name] using k.slash
    obtain ⟨tail, rfl, rfl | there⟩ := (mem_entryPaths _ _ path).1 here
    · simpa using first
    · exact List.forall_mem_cons.2 ⟨first, inside_ tail there⟩
  induction o with
  | done gap => simp [paths]
  | text head value rest ih | block head header lines rest ih =>
    intro path member
    rcases List.mem_append.1 member with here | there
    · exact entry head.key [] path (by simp) here
    · exact ih path there
  | items head deeper list rest ih =>
    intro path member
    rcases List.mem_append.1 member with here | there
    · refine entry head.key (itemPaths list) path (fun path there => ?_) here
      obtain ⟨i, -, rfl⟩ := List.mem_map.1 there
      have digits : '/' ∉ (toString i).toList := fun slash =>
        absurd (Decimal.isDigit_of_mem_nat i '/' slash) (by decide)
      simpa using digits
    · exact ih path there
  | mapping head deeper inner rest ihInner ih =>
    intro path member
    rcases List.mem_append.1 member with here | there
    · exact entry head.key inner.paths path ihInner here
    · exact ih path there

end Outline

theorem joined_injective (path other : List String) (filled : path ≠ []) (filled_ : other ≠ [])
    (parts : ∀ part ∈ path, '/' ∉ part.toList) (parts_ : ∀ part ∈ other, '/' ∉ part.toList)
    (same : joined path = joined other) : path = other := by
  -- Parts without slashes come back when the joined path is cut at its slashes.
  have split (path : List String) (filled : path ≠ []) (parts : ∀ part ∈ path, '/' ∉ part.toList) :
      List.splitOn '/' (joined path).toList = path.map String.toList := by
    rw [joined, String.toList_intercalate]
    exact List.splitOn_intercalate '/' (List.forall_mem_map.2 parts) (by simpa using filled)
  have both : path.map String.toList = other.map String.toList := by
    rw [← split path filled parts, ← split other filled_ parts_, same]
  exact List.map_injective_iff.2 (fun _ _ => String.toList_injective) both

theorem Outline.nodup_joined (o : Outline) (distinct : o.Distinct) : (o.paths.map joined).Nodup := by
  refine List.Nodup.map_on (fun path member other member_ same => ?_) (o.nodup_paths distinct)
  have filled (path : List String) (member : path ∈ o.paths) : path ≠ [] := by
    rintro rfl
    obtain ⟨key, -, first⟩ := o.key_of_mem_paths [] member
    cases first
  exact joined_injective path other (filled path member) (filled other member_)
    (o.slashless path member) (o.slashless other member_) same

end LineIndex

end PackSpec
