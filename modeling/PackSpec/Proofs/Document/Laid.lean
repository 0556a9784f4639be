import PackSpec.Proofs.Document.Written
import PackSpec.Proofs.Text.Bytes

set_option autoImplicit false

namespace PackSpec

namespace Encode

def Before (a b : String) : Prop :=
  b ≠ defaultsName ∧ (a = defaultsName ∨ Text.bytes a < Text.bytes b)

theorem Before.asymm {a b : String} (before : Before a b) : ¬ Before b a := by
  rintro ⟨other, first | less⟩
  · exact before.1 first
  · exact List.lt_asymm less (before.2.resolve_left other)

/-- All entries of a collection, each of them once and in order. -/
structure Placed {α : Type} (es placed : Entries α) : Prop where
  all : placed.Perm es
  ordered : (Entries.names placed).Pairwise Before

theorem ordered_sorted {α : Type} (es : Entries α) (distinct : Entries.Distinct es) :
    (sorted es).Pairwise fun e f => Text.bytes e.1 < Text.bytes f.1 := by
  have sorted_ : (sorted es).Pairwise fun e f => e.1 ≤ f.1 := by
    refine (@List.pairwise_mergeSort _ (fun a b : String × α => a.1 ≤ b.1) ?_ ?_ es).imp ?_
    · intro a b c first next
      simp only [decide_eq_true_eq] at first next ⊢
      exact le_trans first next
    · intro a b
      simp only [Bool.or_eq_true, decide_eq_true_eq]
      exact le_total a.1 b.1
    · intro a b le
      simpa using le
  have once : (sorted es).Pairwise fun e f => e.1 ≠ f.1 :=
    List.pairwise_map.1 ((((List.mergeSort_perm es _).map Prod.fst).nodup_iff).2 distinct)
  refine (sorted_.and once).imp fun {e f} both => ?_
  exact Text.bytes_lt _ _ (lt_of_le_of_ne both.1 both.2)

theorem placed_order {α : Type} (es : Entries α) (distinct : Entries.Distinct es) :
    Placed es (order es) := by
  refine ⟨perm_order es distinct, List.pairwise_map.2 ?_⟩
  have others : ∀ e ∈ sorted (es.filter fun e => !isDefaults e), e.1 ≠ defaultsName := by
    intro e member
    have kept := (List.mem_filter.1 ((List.mergeSort_perm _ _).mem_iff.1 member)).2
    simpa [isDefaults] using kept
  have distinct_ : Entries.Distinct (es.filter fun e => !isDefaults e) :=
    (List.filter_sublist.map Prod.fst).nodup distinct
  refine List.pairwise_append.2 ⟨?_, ?_, fun e first f member => ?_⟩
  · cases Entries.get? es defaultsName <;> simp
  · refine (ordered_sorted _ distinct_).imp_of_mem fun {e f} _ there less => ?_
    exact ⟨others f there, .inr less⟩
  · obtain ⟨d, _, rfl⟩ := List.mem_map.1 first
    exact ⟨others f member, .inl rfl⟩

mutual

/-- The mapping of an entry: some of the parameters of a table, in its order. -/
inductive Laid : Kind → List Param → Params → List (Yaml × Yaml) → Prop where
  | nil (k : Kind) (ps : Params) : Laid k [] ps []
  | absent (k : Kind) (p : Param) (table : List Param) (ps : Params) (m : List (Yaml × Yaml))
      (rest : Laid k table ps m) : Laid k (p :: table) ps m
  | value (k : Kind) (p : Param) (table : List Param) (ps : Params) (y : Yaml)
      (m : List (Yaml × Yaml)) (flat : p.shape.child? = none) (rest : Laid k table ps m) :
      Laid k (p :: table) ps ((.str p.external, y) :: m)
  | specs (k : Kind) (p : Param) (table : List Param) (ps : Params) (child : Kind)
      (cs placed : Children) (es m : List (Yaml × Yaml))
      (held : Params.value ps p.name = .specs child cs) (order : Placed cs placed)
      (inside : LaidEntries child placed es) (rest : Laid k table ps m) :
      Laid k (p :: table) ps ((.str p.external, .map es) :: m)
  | groups (k : Kind) (p : Param) (table : List Param) (ps : Params) (child : Kind)
      (gs : Groups) (es m : List (Yaml × Yaml))
      (held : Params.value ps p.name = .groups child gs) (inside : LaidGroups child gs es)
      (rest : Laid k table ps m) : Laid k (p :: table) ps ((.str p.external, .map es) :: m)

inductive LaidEntries : Kind → Children → List (Yaml × Yaml) → Prop where
  | nil (k : Kind) : LaidEntries k [] []
  | cons (k : Kind) (name : String) (ps : Params) (cs : Children) (m es : List (Yaml × Yaml))
      (inside : Laid k k.params ps m) (rest : LaidEntries k cs es) :
      LaidEntries k ((name, ps) :: cs) ((.str name, .map m) :: es)

inductive LaidGroups : Kind → Groups → List (Yaml × Yaml) → Prop where
  | nil (k : Kind) : LaidGroups k [] []
  | cons (k : Kind) (name : String) (cs placed : Children) (gs : Groups)
      (m es : List (Yaml × Yaml)) (order : Placed cs placed) (inside : LaidEntries k placed m)
      (rest : LaidGroups k gs es) : LaidGroups k ((name, cs) :: gs) ((.str name, .map m) :: es)

end

section

variable {write : Option Params → Params → Except Problem (List (Yaml × Yaml))} {child : Kind}
  {good : Params → Prop}
  (below : ∀ defaults ps m, good ps → write defaults ps = .ok m → Laid child child.params ps m)

include below

theorem laid_entries {defaults : String → Option Params} (cs : Children) (es : List (Yaml × Yaml))
    (all : ∀ e ∈ cs, good e.2)
    (each : List.Forall₂ (fun e y => ∃ m, write (defaults e.1) e.2 = .ok m ∧ y = (.str e.1, .map m))
      cs es) : LaidEntries child cs es := by
  induction each with
  | nil => exact .nil child
  | @cons e y cs es first _ ih =>
    obtain ⟨m, made, rfl⟩ := first
    exact .cons child e.1 e.2 cs m es (below _ e.2 m (all e (by simp)) made)
      (ih fun f member => all f (by simp [member]))

theorem laid_collection (cs : Children) (es : List (Yaml × Yaml)) (distinct : Entries.Distinct cs)
    (all : ∀ e ∈ cs, good e.2) (made : collection write cs = .ok es) :
    LaidEntries child (order cs) es :=
  laid_entries below (order cs) es
    (fun e member => all e ((perm_order cs distinct).mem_iff.1 member)) (collection_ok write cs es made)

theorem laid_groups (gs : Groups) (es : List (Yaml × Yaml))
    (all : ∀ g ∈ gs, Entries.Distinct g.2 ∧ ∀ e ∈ g.2, good e.2)
    (made : gs.mapM (line (collection write)) = .ok es) : LaidGroups child gs es := by
  have each := forall₂_of_mapM _ _ gs _ (fun g _ y done => line_ok _ g y done) made
  clear made
  induction each with
  | nil => exact .nil child
  | @cons g y gs es first _ ih =>
    obtain ⟨m, written, rfl⟩ := first
    have here := all g (by simp)
    exact .cons child g.1 g.2 (order g.2) gs m es (placed_order g.2 here.1)
      (laid_collection below g.2 m here.1 here.2 written)
      (ih fun h member => all h (by simp [member]))

end

section

variable {write : Kind → Option Params → Params → Except Problem (List (Yaml × Yaml))}
  {keeps : Bool} {k : Kind} {ps : Params} (built : Node.Built keeps k ps)
  (below : ∀ p ∈ k.params, ∀ child, p.shape.child? = some child → ∀ defaults qs m,
    Node.Built keeps child qs → write child defaults qs = .ok m → Laid child child.params qs m)

include built below

theorem laid_line (defaults : Option Params) (p : Param) (member : p ∈ k.params) (y : Yaml)
    (there : written write k defaults ps p = some y) (table : List Param) (m : List (Yaml × Yaml))
    (rest : Laid k table ps m) : Laid k (p :: table) ps ((.str p.external, y) :: m) := by
  have found := Node.get?_of_names k ps built.whole.names p member
  have every := Params.every_get? ps p.name _ built.below found
  have fits := built.whole.fits p member
  have made := entry_some write k defaults ps p _ y found
    (entry_of_written write k defaults ps p y there)
  cases shape : p.shape with
  | specs child =>
    have declared : p.shape.child? = some child := by rw [shape]; rfl
    obtain ⟨cs, value⟩ := p.specs_of_fits _ child shape fits
    rw [value] at made every
    rcases made with ⟨null, _⟩ | ⟨_, made⟩
    · simp at null
    · rw [value_specs write k p child shape] at made
      obtain ⟨es, collected, rfl⟩ := ok_of_map made
      exact .specs k p table ps child cs (order cs) es m value (placed_order cs every.here.distinct)
        (laid_collection (below p member child declared) cs es every.here.distinct
          (Node.built_of_below keeps child cs every) collected) rest
  | groups child =>
    have declared : p.shape.child? = some child := by rw [shape]; rfl
    obtain ⟨gs, value⟩ := p.groups_of_fits _ child shape fits
    rw [value] at made every
    rcases made with ⟨null, _⟩ | ⟨_, made⟩
    · simp at null
    · rw [value_groups write k p child shape] at made
      obtain ⟨es, collected, rfl⟩ := ok_of_map made
      exact .groups k p table ps child gs es m value
        (laid_groups (below p member child declared) gs es (fun g inside =>
          ⟨(every.here.2 g inside).distinct, Node.built_of_groups keeps child gs every g inside⟩)
          collected) rest
  | _ => exact .value k p table ps y m (by rw [shape]; rfl) rest

theorem laid_keys (defaults : Option Params) (m : List (Yaml × Yaml))
    (made : keys write k defaults ps k.params = .ok m) : Laid k k.params ps m := by
  obtain ⟨rfl, -⟩ := keys_ok write k defaults ps k.params m made
  suffices all : ∀ table : List Param, (∀ p ∈ table, p ∈ k.params) →
      Laid k table ps (lines write k defaults ps table) from all k.params fun _ member => member
  intro table declared
  induction table with
  | nil => exact .nil k ps
  | cons p table ih =>
    have rest := ih fun q member => declared q (by simp [member])
    rw [lines, List.filterMap_cons]
    cases there : written write k defaults ps p with
    | none => exact .absent k p table ps _ rest
    | some y => exact laid_line built below defaults p (declared p (by simp)) y there table _ rest

end

theorem laid_at {keeps : Bool} (depth : Nat) (k : Kind) (defaults : Option Params) (ps : Params)
    (m : List (Yaml × Yaml)) (built : Node.Built keeps k ps) (height : k.height ≤ depth)
    (made : paramsAt depth k defaults ps = .ok m) : Laid k k.params ps m := by
  induction depth generalizing k defaults ps m with
  | zero =>
    refine laid_keys built (fun p member child declared => ?_) defaults m made
    have lower := k.height_child p member child declared
    omega
  | succ depth ih =>
    refine laid_keys built (fun p member child declared => ?_) defaults m made
    have lower := k.height_child p member child declared
    exact fun defaults qs w below written => ih child defaults qs w below (by omega) written

end Encode

end PackSpec
