import Mathlib.Algebra.Order.Group.Multiset
import Mathlib.Data.List.Dedup
import PackSpec.Proofs.Build.Recorded
import PackSpec.Proofs.Document.Composed

set_option autoImplicit false

namespace PackSpec

namespace Entries

variable {α : Type}

theorem mem_names_ofList (es : List (String × α)) (name : String) :
    name ∈ names (ofList es) ↔ name ∈ names es := by
  rw [ofList, mem_names_puts Prod.snd]
  simp [names]

theorem length_ofList (es : List (String × α)) : (ofList es).length = (names es).dedup.length := by
  have perm : (names (ofList es)).Perm (names es).dedup :=
    (List.perm_ext_iff_of_nodup (distinct_ofList es) (List.nodup_dedup _)).2 fun name => by
      rw [mem_names_ofList, List.mem_dedup]
  rw [← perm.length_eq, names, List.length_map]

theorem length_ofList_iff (es : List (String × α)) :
    (ofList es).length = es.length ↔ (names es).Nodup := by
  rw [length_ofList, ← List.dedup_eq_self]
  constructor
  · intro same
    exact (List.dedup_sublist (names es)).eq_of_length (by rw [same, names, List.length_map])
  · intro same
    rw [same, names, List.length_map]

theorem ofList_of_distinct (es : List (String × α)) (distinct : (names es).Nodup) :
    ofList es = es := by
  have step (es : List (String × α)) (acc : Entries α) (distinct : (names (acc ++ es)).Nodup) :
      es.foldl (fun acc e => put acc e.1 e.2) acc = acc ++ es := by
    induction es generalizing acc with
    | nil => simp
    | cons e es ih =>
      have split_ : acc ++ e :: es = acc ++ [(e.1, e.2)] ++ es := by simp
      have fresh : has acc e.1 = false := by
        rw [Bool.eq_false_iff, ne_eq, has_iff]
        rw [names, List.map_append, List.map_cons] at distinct
        exact fun member => (List.nodup_append.1 distinct).2.2 _ member _ (by simp) rfl
      have placed : put acc e.1 e.2 = acc ++ [(e.1, e.2)] := by simp [put, fresh]
      rw [List.foldl_cons, placed, split_]
      exact ih _ (split_ ▸ distinct)
  exact step es [] distinct

end Entries

namespace Decode

variable {α : Type}

/-- What becomes of one entry of a mapping. -/
inductive Fate (α : Type) where
  | kept (name : String) (value : α)
  | dropped (d : Diagnostic)

namespace Fate

def kept? : Fate α → Option (String × α)
  | .kept name value => some (name, value)
  | .dropped _ => none

def dropped? : Fate α → Option Diagnostic
  | .kept .. => none
  | .dropped d => some d

/-- An entry is kept with what its own value reads as, or dropped with an error where it stands. -/
def Of (read : Yaml → Build (Option α)) (place : List String) (e : Yaml × Yaml) : Fate α → Prop
  | .kept name value => scalarText? e.1 = some name ∧
    ∃ c after, c.location.path = place ++ [name] ∧ (read e.2).run c = (.ok (some value), after)
  | .dropped d => d.level = .error ∧ d.location.path = place ++ (scalarText? e.1).toList

end Fate

def kept (fates : List (Fate α)) : List (String × α) := fates.filterMap Fate.kept?
def dropped (fates : List (Fate α)) : List Diagnostic := fates.filterMap Fate.dropped?

theorem dropped_of_dropped (d : Diagnostic) : dropped [(.dropped d : Fate α)] = [d] := rfl

theorem length_kept (fates : List (Fate α)) :
    (kept fates).length + (dropped fates).length = fates.length := by
  induction fates with
  | nil => rfl
  | cons fate fates ih =>
    unfold kept dropped at ih ⊢
    cases fate <;> simp [Fate.kept?, Fate.dropped?, List.filterMap_cons] <;> omega

theorem dropped_cons (fate : Fate α) (fates : List (Fate α)) :
    dropped (fate :: fates) = dropped [fate] ++ dropped fates := by
  rw [dropped, dropped, dropped, ← List.filterMap_append, List.singleton_append]

def Settles (read : Yaml → Build (Option α)) : Prop :=
  ∀ v c, c.diagnostics.mode = .lenient → ∃ r ds, (read v).run c = (.ok r, c.record ds) ∧
    (r = none → ∃ d ∈ ds, d.level = .error ∧ d.location.path = c.location.path)

structure Accounting (read : Yaml → Build (Option α)) (place : List String)
    (es : List (Yaml × Yaml)) (fates : List (Fate α)) (before : Multiset Diagnostic)
    (ds : List Diagnostic) : Prop where
  each : List.Forall₂ (Fate.Of read place) es fates
  told : (dropped fates : Multiset Diagnostic) ≤ before + ds

namespace Accounting

variable {read : Yaml → Build (Option α)} {place : List String}

theorem nil : Accounting read place [] [] 0 [] := ⟨.nil, by simp [dropped]⟩

variable {e : Yaml × Yaml} {es : List (Yaml × Yaml)} {fate : Fate α} {fates : List (Fate α)}
  {before : Multiset Diagnostic} {ds : List Diagnostic} (of : fate.Of read place e)
  (rest : Accounting read place es fates before ds)

include of rest

theorem cons_told {part : List Diagnostic} (told : (dropped [fate] : Multiset Diagnostic) ≤ part) :
    Accounting read place (e :: es) (fate :: fates) before (part ++ ds) := by
  refine ⟨.cons of rest.each, ?_⟩
  rw [dropped_cons, ← Multiset.coe_add, ← Multiset.coe_add, add_left_comm]
  exact add_le_add told rest.told

theorem cons_before {first : Multiset Diagnostic}
    (told : (dropped [fate] : Multiset Diagnostic) ≤ first) :
    Accounting read place (e :: es) (fate :: fates) (first + before) ds := by
  refine ⟨.cons of rest.each, ?_⟩
  rw [dropped_cons, ← Multiset.coe_add, add_assoc]
  exact add_le_add told rest.told

end Accounting

theorem kept_cons (fate : Fate α) (fates : List (Fate α)) (acc : Entries α) :
    (kept (fate :: fates)).foldl (fun acc e => Entries.put acc e.1 e.2) acc =
      (kept fates).foldl (fun acc e => Entries.put acc e.1 e.2)
        (fate.kept?.elim acc fun e => Entries.put acc e.1 e.2) := by
  rw [kept, List.filterMap_cons]
  cases fate.kept? <;> rfl

def Reads (read : Yaml → Build (Option α)) (es : List (Yaml × Yaml)) (before : Multiset Diagnostic)
    (acc : Entries α) (c : Context) (b : Build (Entries α)) : Prop :=
  ∃ fates ds,
    b.run c = (.ok ((kept fates).foldl (fun acc e => Entries.put acc e.1 e.2) acc), c.record ds) ∧
      Accounting read c.location.path es fates before ds

section

variable {read : Yaml → Build (Option α)} {c : Context} {es : List (Yaml × Yaml)}
  {before : Multiset Diagnostic} {acc : Entries α} {b : Build (Entries α)} {key v : Yaml}

theorem reads_nil : Reads read [] 0 acc c (pure acc) :=
  ⟨[], [], by rw [c.record_nil]; rfl, .nil⟩

theorem reads_nameless (lenient : c.diagnostics.mode = .lenient) (expected : String)
    (nameless : scalarText? key = none) (rest : ∀ d, Reads read es before acc (c.record [d]) b) :
    Reads read ((key, v) :: es) before acc c
      (do Build.report (mismatch expected key); b) := by
  have ran := Build.run_report_record (mismatch expected key) c lenient rfl
  generalize shown : (⟨.error, c.diagnostics.locate c.location, mismatch expected key⟩ : Diagnostic)
    = d at ran
  have of : (Fate.dropped d : Fate α).Of read c.location.path (key, v) := by
    rw [← shown]
    exact ⟨rfl, by rw [Diagnostics.path_locate, nameless]; simp⟩
  obtain ⟨fates, ds, rest, accounting⟩ := rest d
  refine ⟨.dropped d :: fates, [d] ++ ds, ?_, accounting.cons_told of (by rw [dropped_of_dropped])⟩
  rw [Build.run_bind, ran]
  dsimp only
  rw [rest, Context.record_record, kept_cons]
  rfl

theorem run_named (settles : Settles read) (lenient : c.diagnostics.mode = .lenient) (name : String)
    (named : scalarText? key = some name) :
    ∃ r ds fate, (Build.within name (read v)).run c = (.ok r, c.record ds) ∧
      fate.kept? = r.map (fun a => (name, a)) ∧ Fate.Of read c.location.path (key, v) fate ∧
      (dropped [fate] : Multiset Diagnostic) ≤ ds := by
  obtain ⟨r, ds, ran, told⟩ := settles v (c.enter name) lenient
  have run : (Build.within name (read v)).run c = (.ok r, c.record ds) := by
    rw [Build.run_within, ran, Context.leave_record_enter]
  cases r with
  | some a =>
    exact ⟨_, ds, .kept name a, run, rfl, ⟨named, _, _, rfl, ran⟩, Multiset.zero_le _⟩
  | none =>
    obtain ⟨d, member, level, path⟩ := told rfl
    exact ⟨_, ds, .dropped d, run, rfl, ⟨level, by rw [path, named]; rfl⟩,
      by simpa [dropped_of_dropped] using member⟩

theorem reads_named (settles : Settles read) (lenient : c.diagnostics.mode = .lenient)
    (name : String) (named : scalarText? key = some name) {next : Option α → Build (Entries α)}
    (found : ∀ a ds, Reads read es before (Entries.put acc name a) (c.record ds) (next (some a)))
    (lost : ∀ ds, Reads read es before acc (c.record ds) (next none)) :
    Reads read ((key, v) :: es) before acc c (Build.within name (read v) >>= next) := by
  obtain ⟨r, part, fate, ran, keeps, of, told⟩ := run_named settles lenient name named
  have more : Reads read es before (fate.kept?.elim acc fun e => Entries.put acc e.1 e.2)
      (c.record part) (next r) := by
    rw [keeps]
    cases r with
    | some a => exact found a part
    | none => exact lost part
  obtain ⟨fates, ds, rest, accounting⟩ := more
  refine ⟨fate :: fates, part ++ ds, ?_, accounting.cons_told of told⟩
  rw [Build.run_bind, ran, kept_cons, ← Context.record_record, ← rest]

theorem reads_skipped (d : Diagnostic)
    (of : (Fate.dropped d : Fate α).Of read c.location.path (key, v))
    (rest : Reads read es before acc c b) : Reads read ((key, v) :: es) ({d} + before) acc c b := by
  -- The defaults are passed over only after they have been reported.
  obtain ⟨fates, ds, rest, accounting⟩ := rest
  refine ⟨.dropped d :: fates, ds, ?_, accounting.cons_before of (by
    rw [dropped_of_dropped, Multiset.coe_singleton])⟩
  rw [rest, kept_cons]
  rfl

end

end Decode

end PackSpec
