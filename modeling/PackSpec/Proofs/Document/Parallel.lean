import PackSpec.Proofs.Document.Laid
import PackSpec.Proofs.Node.Keyed

set_option autoImplicit false

namespace PackSpec

def Param.Value.Twin (v w : Param.Value) : Prop := v.same w = true ∧ w.same v = true

def Params.Twin (ps qs : Params) : Prop := Params.same ps qs = true ∧ Params.same qs ps = true

namespace Param.Value

theorem Twin.isNull {v w : Param.Value} (twin : v.Twin w) : v.isNull = w.isNull := by
  have equal := twin.1
  cases v <;> cases w <;> simp_all [same, Param.Value.isNull]

theorem Twin.same_left {v w d : Param.Value} (twin : v.Twin w) : d.same v = d.same w :=
  Bool.eq_iff_iff.2 ⟨fun equal => same_trans d v w equal twin.1,
    fun equal => same_trans d w v equal twin.2⟩

theorem Twin.same_right {d e v : Param.Value} (twin : d.Twin e) : d.same v = e.same v :=
  Bool.eq_iff_iff.2 ⟨fun equal => same_trans e d v twin.2 equal,
    fun equal => same_trans d e v twin.1 equal⟩

theorem Twin.specs {k : Kind} {cs ds : Children} (twin : (specs k cs).Twin (.specs k ds)) :
    childrenSame cs ds = true ∧ childrenSame ds cs = true := by
  rwa [Twin, same_specs, same_specs] at twin

theorem twins_of_children {cs ds : Children}
    (equal : childrenSame cs ds = true ∧ childrenSame ds cs = true)
    (distinct : Entries.Distinct cs) (distinct_ : Entries.Distinct ds) :
    (Entries.names cs).Perm (Entries.names ds) ∧
      ∀ e ∈ cs, ∀ f ∈ ds, e.1 = f.1 → Params.Twin e.2 f.2 := by
  simp only [childrenSame, Bool.and_eq_true, childrenIn_iff] at equal
  obtain ⟨⟨_, there⟩, _, back⟩ := equal
  have in_of {cs ds : Children}
      (there : ∀ e ∈ cs, ∃ qs, Entries.get? ds e.1 = some qs ∧ Params.same e.2 qs = true)
      (name : String) (member : name ∈ Entries.names cs) : name ∈ Entries.names ds := by
    obtain ⟨e, inside, rfl⟩ := List.mem_map.1 member
    obtain ⟨qs, found, _⟩ := there e inside
    exact List.mem_map.2 ⟨_, Entries.mem_of_get? ds e.1 qs found, rfl⟩
  refine ⟨(List.perm_ext_iff_of_nodup distinct distinct_).2 fun name =>
    ⟨in_of there name, in_of back name⟩, fun e inside f inside_ name => ?_⟩
  obtain ⟨qs, found, first⟩ := there e inside
  rw [name, Entries.get?_of_mem ds f distinct_ inside_] at found
  obtain ⟨rs, found_, second⟩ := back f inside_
  rw [← name, Entries.get?_of_mem cs e distinct inside] at found_
  exact ⟨Option.some.inj found ▸ first, Option.some.inj found_ ▸ second⟩

end Param.Value

namespace Encode

open Param.Value (Twin)

inductive Level where
  | entry (k : Kind)
  | collection (k : Kind)
  | groups (k : Kind)
  | value

namespace Level

def ofShape : Param.Shape → Level
  | .specs child => .collection child
  | .groups child => .groups child
  | _ => .value

def below : Level → String → Level
  | .entry k, key => ((k.table.ofExternal? key).map fun p => ofShape p.shape).getD .value
  | .collection k, _ => .entry k
  | .groups k, _ => .collection k
  | .value, _ => .value

end Level

/-- The same keys in the same order, level by level, and the same values. -/
inductive Parallel : Level → Yaml → Yaml → Prop where
  | value (v w : Yaml) (equal : v.same w = true) : Parallel .value v w
  | nil (l : Level) : Parallel l (.map []) (.map [])
  | cons (l : Level) (key : String) (v w : Yaml) (m n : List (Yaml × Yaml))
      (here : Parallel (l.below key) v w) (rest : Parallel l (.map m) (.map n)) :
      Parallel l (.map ((.str key, v) :: m)) (.map ((.str key, w) :: n))

theorem Parallel.same {l : Level} {v w : Yaml} (parallel : Parallel l v w) : v.same w = true := by
  induction parallel with
  | value v w equal => exact equal
  | nil l => rfl
  | cons l key v w m n _ _ first rest =>
    rw [Yaml.same, Bool.and_eq_true, beq_iff_eq, Yaml.entriesIn_iff] at rest ⊢
    refine ⟨by simp [rest.1], fun e member => ?_⟩
    rcases List.mem_cons.1 member with rfl | later
    · exact ⟨(.str key, w), by simp, Yaml.same_refl _, first⟩
    · obtain ⟨f, there, equal⟩ := rest.2 e later
      exact ⟨f, by simp [there], equal⟩

def Beside (d e : Option Params) (p : Param) : Prop :=
  defaultBeside d p = defaultBeside e p ∨
    ∃ v w, defaultBeside d p = some v ∧ defaultBeside e p = some w ∧ v.Twin w

section

variable {d e : Option Params} {p : Param} (beside : Beside d e p)

include beside

theorem Beside.writesNull : writesNull d p = writesNull e p := by
  unfold Encode.writesNull
  rcases beside with same | ⟨v, w, left, right, twin⟩
  · rw [same]
  · rw [left, right, Option.any_some, Option.any_some, twin.isNull]

theorem Beside.isDefault {v w : Param.Value} (twin : v.Twin w) :
    isDefault d p v = isDefault e p w := by
  unfold Encode.isDefault
  rcases beside with same | ⟨x, y, left, right, twin_⟩
  · rw [same]
    cases defaultBeside e p with
    | none => rfl
    | some x => exact twin.same_left
  · rw [left, right]
    exact twin_.same_right.trans twin.same_left

end

theorem scalar_same (k : Kind) (p : Param) (v w : Param.Value) (y z : Yaml) (twin : v.Twin w)
    (left : scalar k p v = .ok y) (right : scalar k p w = .ok z) : y.same z = true := by
  have equal := twin.1
  -- Only numbers and mappings have values that are the same without being equal.
  cases v with
  | float x =>
    cases w with
    | float u =>
      rw [Param.Value.same] at equal
      have floats : (Yaml.float x).same (.float u) = true := by
        simp [Yaml.same, Yaml.sameFloat, equal]
      unfold scalar at left right
      cases shape : p.shape <;> simp only [shape, reduceCtorEq, Except.ok.injEq] at left right
      all_goals (subst left right; exact floats)
    | _ => simp [Param.Value.same] at equal
  | dict m =>
    cases w with
    | dict n =>
      rw [Param.Value.same] at equal
      unfold scalar at left right
      cases shape : p.shape <;> simp only [shape, reduceCtorEq, Except.ok.injEq] at left right
      subst left right
      exact equal
    | _ => simp [Param.Value.same] at equal
  | specs | groups =>
    unfold scalar at left
    cases shape : p.shape <;> simp [shape] at left
  | _ =>
    cases w <;> simp only [Param.Value.same, Bool.false_eq_true, beq_iff_eq] at equal
    all_goals first
      | (subst equal; rw [left] at right; rw [Except.ok.inj right]; exact Yaml.same_refl z)
      | (rw [left] at right; rw [Except.ok.inj right]; exact Yaml.same_refl z)

/-- Wherever entries are in groups, the groups of both stand in the same order. -/
inductive Grouped : Kind → Params → Params → Prop where
  | intro (k : Kind) (ps qs : Params)
      (here : ∀ p ∈ k.params, ∀ child gs hs, Params.value ps p.name = .groups child gs →
        Params.value qs p.name = .groups child hs → Entries.names gs = Entries.names hs)
      (entries : ∀ p ∈ k.params, ∀ child cs ds, Params.value ps p.name = .specs child cs →
        Params.value qs p.name = .specs child ds → ∀ e ∈ cs, ∀ f ∈ ds, e.1 = f.1 →
        Grouped child e.2 f.2)
      (grouped : ∀ p ∈ k.params, ∀ child gs hs, Params.value ps p.name = .groups child gs →
        Params.value qs p.name = .groups child hs → ∀ g ∈ gs, ∀ h ∈ hs, g.1 = h.1 →
        ∀ e ∈ g.2, ∀ f ∈ h.2, e.1 = f.1 → Grouped child e.2 f.2) : Grouped k ps qs

theorem value_twin {k : Kind} {ps qs : Params} (twin : Params.Twin ps qs) (whole : Node.Whole k ps)
    (whole_ : Node.Whole k qs) (p : Param) (member : p ∈ k.params) :
    (Params.value ps p.name).Twin (Params.value qs p.name) := by
  have found := Node.get?_of_names k ps whole.names p member
  have found_ := Node.get?_of_names k qs whole_.names p member
  obtain ⟨v, there, equal⟩ :=
    ((Params.same_iff ps qs).1 twin.1).2 _ (Entries.mem_of_get? ps p.name _ found)
  obtain ⟨w, there_, equal_⟩ :=
    ((Params.same_iff qs ps).1 twin.2).2 _ (Entries.mem_of_get? qs p.name _ found_)
  dsimp only at there there_
  rw [found_] at there
  rw [found] at there_
  exact ⟨Option.some.inj there ▸ equal, Option.some.inj there_ ▸ equal_⟩

theorem names_order {α β : Type} (cs : Entries α) (ds : Entries β) (distinct : Entries.Distinct cs)
    (distinct_ : Entries.Distinct ds) (names : (Entries.names cs).Perm (Entries.names ds)) :
    Entries.names (order cs) = Entries.names (order ds) := by
  have left := placed_order cs distinct
  have right := placed_order ds distinct_
  -- The order of names is strict, so there is only one way to order the same names.
  refine List.Perm.eq_of_pairwise (fun a b _ _ first second => absurd second first.asymm)
    left.ordered right.ordered ?_
  exact (left.all.map Prod.fst).trans (names.trans (right.all.map Prod.fst).symm)

theorem parallel_named {α β : Type} (l inner : Level) (below : ∀ key, l.below key = inner)
    {left : String × α → List (Yaml × Yaml) → Prop}
    {right : String × β → List (Yaml × Yaml) → Prop} (cs : Entries α) (ds : Entries β)
    (es fs : List (Yaml × Yaml))
    (all : List.Forall₂ (fun e y => ∃ m, left e m ∧ y = (.str e.1, .map m)) cs es)
    (all_ : List.Forall₂ (fun e y => ∃ m, right e m ∧ y = (.str e.1, .map m)) ds fs)
    (names : Entries.names cs = Entries.names ds)
    (pairs : ∀ e ∈ cs, ∀ f ∈ ds, e.1 = f.1 → ∀ m n, left e m → right f n →
      Parallel inner (.map m) (.map n)) : Parallel l (.map es) (.map fs) := by
  induction all generalizing ds fs with
  | nil =>
    obtain rfl := List.map_eq_nil_iff.1 names.symm
    cases all_
    exact .nil l
  | @cons e y cs es first _ ih =>
    cases all_ with
    | nil => simp [Entries.names] at names
    | @cons f z ds fs second later =>
      obtain ⟨name, rest⟩ := List.cons.inj names
      obtain ⟨m, made, rfl⟩ := first
      obtain ⟨n, made_, rfl⟩ := second
      have here := pairs e (by simp) f (by simp) name m n made made_
      rw [← below e.1] at here
      rw [← name]
      exact .cons l e.1 _ _ es fs here (ih ds fs later rest fun g member h member_ =>
        pairs g (by simp [member]) h (by simp [member_]))

section

variable {write : Option Params → Params → Except Problem (List (Yaml × Yaml))} {child : Kind}
  {keeps keeps_ : Bool}
  (below : ∀ d e ps qs m n, Node.Built keeps child ps → Node.Built keeps_ child qs →
    Params.Twin ps qs → (∀ p ∈ child.params, Beside d e p) → Grouped child ps qs →
    write d ps = .ok m → write e qs = .ok n → Parallel (.entry child) (.map m) (.map n))

theorem beside_children (cs ds : Children) (built : ∀ e ∈ cs, Node.Built keeps child e.2)
    (built_ : ∀ e ∈ ds, Node.Built keeps_ child e.2)
    (names : (Entries.names cs).Perm (Entries.names ds))
    (twins : ∀ e ∈ cs, ∀ f ∈ ds, e.1 = f.1 → Params.Twin e.2 f.2) (name : String) (p : Param)
    (member : p ∈ child.params) : Beside (beside cs name) (beside ds name) p := by
  unfold beside
  by_cases defaults : name = defaultsName
  · rw [if_pos defaults, if_pos defaults]
    exact .inl rfl
  · rw [if_neg defaults, if_neg defaults]
    cases left : Entries.get? cs defaultsName with
    | none =>
      have absent := (Entries.get?_eq_none_iff cs _).1 left
      rw [Entries.get?_eq_none ds _ fun there => absent (names.mem_iff.2 there)]
      exact .inl rfl
    | some d =>
      have inside := Entries.mem_of_get? cs _ d left
      have named := names.mem_iff.1 (List.mem_map_of_mem inside)
      cases right : Entries.get? ds defaultsName with
      | none => exact absurd named ((Entries.get?_eq_none_iff ds _).1 right)
      | some e =>
        -- Both collections have defaults, and those are the same, parameter by parameter.
        have inside_ := Entries.mem_of_get? ds _ e right
        have whole := (built _ inside).whole
        have whole_ := (built_ _ inside_).whole
        refine .inr ⟨Params.value d p.name, Params.value e p.name, ?_, ?_,
          value_twin (twins _ inside _ inside_ rfl) whole whole_ p member⟩
        · rw [defaultBeside, Option.bind_some, Node.get?_of_names child d whole.names p member]
          rfl
        · rw [defaultBeside, Option.bind_some, Node.get?_of_names child e whole_.names p member]
          rfl

include below

theorem parallel_collection (cs ds : Children) (es fs : List (Yaml × Yaml))
    (distinct : Entries.Distinct cs) (distinct_ : Entries.Distinct ds)
    (built : ∀ e ∈ cs, Node.Built keeps child e.2) (built_ : ∀ e ∈ ds, Node.Built keeps_ child e.2)
    (equal : Param.Value.childrenSame cs ds = true ∧ Param.Value.childrenSame ds cs = true)
    (grouped : ∀ e ∈ cs, ∀ f ∈ ds, e.1 = f.1 → Grouped child e.2 f.2)
    (left : collection write cs = .ok es) (right : collection write ds = .ok fs) :
    Parallel (.collection child) (.map es) (.map fs) := by
  obtain ⟨names, twins⟩ := Param.Value.twins_of_children equal distinct distinct_
  refine parallel_named _ (.entry child) (fun _ => rfl) (order cs) (order ds) es fs
    (collection_ok write cs es left) (collection_ok write ds fs right)
    (names_order cs ds distinct distinct_ names) ?_
  intro e ordered f ordered_ name m n made made_
  have inside := (perm_order cs distinct).mem_iff.1 ordered
  have inside_ := (perm_order ds distinct_).mem_iff.1 ordered_
  refine below _ _ e.2 f.2 m n (built e inside) (built_ f inside_) (twins e inside f inside_ name)
    (fun p member => ?_) (grouped e inside f inside_ name) made made_
  rw [name]
  exact beside_children cs ds built built_ names twins f.1 p member

theorem parallel_groups (gs hs : Groups) (es fs : List (Yaml × Yaml))
    (every : (Param.Value.groups child gs).Every (Param.Value.Settled keeps))
    (every_ : (Param.Value.groups child hs).Every (Param.Value.Settled keeps_))
    (twin : (Param.Value.groups child gs).Twin (.groups child hs))
    (names : Entries.names gs = Entries.names hs)
    (grouped : ∀ g ∈ gs, ∀ h ∈ hs, g.1 = h.1 → ∀ e ∈ g.2, ∀ f ∈ h.2, e.1 = f.1 →
      Grouped child e.2 f.2)
    (left : gs.mapM (line (collection write)) = .ok es)
    (right : hs.mapM (line (collection write)) = .ok fs) :
    Parallel (.groups child) (.map es) (.map fs) := by
  have lines (gs : Groups) (es : List (Yaml × Yaml))
      (made : gs.mapM (line (collection write)) = .ok es) :=
    forall₂_of_mapM _ _ gs _ (fun g _ y done => line_ok _ g y done) made
  simp only [Param.Value.Twin, Param.Value.same_groups, Bool.and_eq_true,
    Param.Value.groupsIn_iff] at twin
  refine parallel_named _ (.collection child) (fun _ => rfl) gs hs es fs (lines gs es left)
    (lines hs fs right) names ?_
  intro g inside h inside_ name m n made made_
  obtain ⟨ds, found, equal⟩ := twin.1.2 g inside
  rw [name, Entries.get?_of_mem hs h every_.here.1 inside_] at found
  obtain rfl := Option.some.inj found
  obtain ⟨cs, found_, equal_⟩ := twin.2.2 h inside_
  rw [← name, Entries.get?_of_mem gs g every.here.1 inside] at found_
  obtain rfl := Option.some.inj found_
  exact parallel_collection below g.2 h.2 m n (every.here.2 g inside).distinct
    (every_.here.2 h inside_).distinct (Node.built_of_groups keeps child gs every g inside)
    (Node.built_of_groups keeps_ child hs every_ h inside_) ⟨equal, equal_⟩
    (grouped g inside h inside_ name) made made_

end

section

variable {write : Kind → Option Params → Params → Except Problem (List (Yaml × Yaml))}
  {keeps keeps_ : Bool} {k : Kind} {ps qs : Params} (built : Node.Built keeps k ps)
  (built_ : Node.Built keeps_ k qs) (twin : Params.Twin ps qs) (grouped : Grouped k ps qs)
  (below : ∀ p ∈ k.params, ∀ child, p.shape.child? = some child → ∀ d e ps qs m n,
    Node.Built keeps child ps → Node.Built keeps_ child qs → Params.Twin ps qs →
    (∀ p ∈ child.params, Beside d e p) → Grouped child ps qs → write child d ps = .ok m →
    write child e qs = .ok n → Parallel (.entry child) (.map m) (.map n))

include built built_ twin grouped below

theorem parallel_value (p : Param) (member : p ∈ k.params) (y z : Yaml)
    (left : value write k p (Params.value ps p.name) = .ok y)
    (right : value write k p (Params.value qs p.name) = .ok z) :
    Parallel (.ofShape p.shape) y z := by
  have values := value_twin twin built.whole built_.whole p member
  have fits := built.whole.fits p member
  have fits_ := built_.whole.fits p member
  have every := Params.every_get? ps p.name _ built.below
    (Node.get?_of_names k ps built.whole.names p member)
  have every_ := Params.every_get? qs p.name _ built_.below
    (Node.get?_of_names k qs built_.whole.names p member)
  obtain ⟨_, _, _, order, entries, groups⟩ := grouped
  cases shape : p.shape with
  | specs child =>
    have declared : p.shape.child? = some child := by rw [shape]; rfl
    obtain ⟨cs, held⟩ := p.specs_of_fits _ child shape fits
    obtain ⟨ds, held_⟩ := p.specs_of_fits _ child shape fits_
    rw [held, value_specs write k p child shape] at left
    rw [held_, value_specs write k p child shape] at right
    obtain ⟨es, collected, rfl⟩ := ok_of_map left
    obtain ⟨fs, collected_, rfl⟩ := ok_of_map right
    have pairs := entries p member child cs ds held held_
    rw [held] at values every
    rw [held_] at values every_
    exact parallel_collection (below p member child declared) cs ds es fs every.here.distinct
      every_.here.distinct (Node.built_of_below keeps child cs every)
      (Node.built_of_below keeps_ child ds every_) values.specs pairs collected collected_
  | groups child =>
    have declared : p.shape.child? = some child := by rw [shape]; rfl
    obtain ⟨gs, held⟩ := p.groups_of_fits _ child shape fits
    obtain ⟨hs, held_⟩ := p.groups_of_fits _ child shape fits_
    rw [held, value_groups write k p child shape] at left
    rw [held_, value_groups write k p child shape] at right
    obtain ⟨es, collected, rfl⟩ := ok_of_map left
    obtain ⟨fs, collected_, rfl⟩ := ok_of_map right
    have names := order p member child gs hs held held_
    have pairs := groups p member child gs hs held held_
    rw [held] at values every
    rw [held_] at values every_
    exact parallel_groups (below p member child declared) gs hs es fs every every_ values names
      pairs collected collected_
  | _ =>
    have flat : p.shape.child? = none := by rw [shape]; rfl
    rw [value_flat write k p _ flat] at left right
    exact .value y z (scalar_same k p _ _ y z values left right)

theorem parallel_line (d e : Option Params) (p : Param) (member : p ∈ k.params)
    (beside : Beside d e p) (y z : Option Yaml) (left : entry write k d ps p = .ok y)
    (right : entry write k e qs p = .ok z) : Option.Rel (Parallel (.ofShape p.shape)) y z := by
  have twins := value_twin twin built.whole built_.whole p member
  rw [entry, Node.get?_of_names k ps built.whole.names p member] at left
  rw [entry, Node.get?_of_names k qs built_.whole.names p member] at right
  dsimp only at left right
  rw [← twins.isNull, ← beside.writesNull, ← beside.isDefault twins] at right
  by_cases null : (Params.value ps p.name).isNull = true
  · simp only [null, if_true, Except.ok.injEq] at left right
    rw [← left, ← right]
    by_cases writes : writesNull d p = true
    · -- A null is written for parameters without entries only.
      have flat : Level.ofShape p.shape = .value := by
        simp only [writesNull, Bool.and_eq_true, Bool.not_eq_true'] at writes
        cases shape : p.shape <;>
          simp_all [Level.ofShape, Param.Shape.isCollection, Param.Shape.emptyValue,
            Param.Value.isNull]
      rw [if_pos writes, flat]
      exact .some (.value .null .null rfl)
    · rw [if_neg writes]
      exact .none
  · by_cases default : isDefault d p (Params.value ps p.name) = true
    · simp only [null, default, if_true, Bool.false_eq_true, if_false, Except.ok.injEq] at left right
      rw [← left, ← right]
      exact .none
    · simp only [null, default, Bool.false_eq_true, if_false] at left right
      obtain ⟨v, made, rfl⟩ := ok_of_map left
      obtain ⟨w, made_, rfl⟩ := ok_of_map right
      exact .some (parallel_value built built_ twin grouped below p member v w made made_)

theorem parallel_keys (d e : Option Params) (beside : ∀ p ∈ k.params, Beside d e p)
    (m n : List (Yaml × Yaml)) (left : keys write k d ps k.params = .ok m)
    (right : keys write k e qs k.params = .ok n) : Parallel (.entry k) (.map m) (.map n) := by
  obtain ⟨rfl, entries⟩ := keys_ok write k d ps k.params m left
  obtain ⟨rfl, entries_⟩ := keys_ok write k e qs k.params n right
  -- By induction over the table: for each parameter both write a value, or neither does.
  suffices all : ∀ table : List Param, (∀ p ∈ table, p ∈ k.params) →
      Parallel (.entry k) (.map (lines write k d ps table)) (.map (lines write k e qs table)) from
    all k.params fun _ member => member
  intro table declared
  induction table with
  | nil => exact .nil _
  | cons p table ih =>
    have rest := ih fun q member => declared q (by simp [member])
    have member := declared p (by simp)
    have both := parallel_line built built_ twin grouped below d e p member (beside p member) _ _
      (entries p member) (entries_ p member)
    rw [lines, lines, List.filterMap_cons, List.filterMap_cons]
    generalize written write k d ps p = y at both
    generalize written write k e qs p = z at both
    cases both with
    | none => exact rest
    | some here =>
      refine .cons _ p.external _ _ _ _ ?_ rest
      rw [Level.below, k.ofExternal?_table p member]
      exact here

end

theorem parallel_at {keeps keeps_ : Bool} (depth : Nat) (k : Kind) (d e : Option Params)
    (ps qs : Params) (m n : List (Yaml × Yaml)) (height : k.height ≤ depth)
    (built : Node.Built keeps k ps) (built_ : Node.Built keeps_ k qs) (twin : Params.Twin ps qs)
    (grouped : Grouped k ps qs) (beside : ∀ p ∈ k.params, Beside d e p)
    (left : paramsAt depth k d ps = .ok m) (right : paramsAt depth k e qs = .ok n) :
    Parallel (.entry k) (.map m) (.map n) := by
  induction depth generalizing k d e ps qs m n with
  | zero =>
    refine parallel_keys built built_ twin grouped (fun p member child declared => ?_) d e beside
      m n left right
    have lower := k.height_child p member child declared
    omega
  | succ depth ih =>
    refine parallel_keys built built_ twin grouped (fun p member child declared => ?_) d e beside
      m n left right
    have lower := k.height_child p member child declared
    intro d e ps qs m n built built_ twin beside grouped
    exact ih child d e ps qs m n (by omega) built built_ twin grouped beside

end Encode

end PackSpec
