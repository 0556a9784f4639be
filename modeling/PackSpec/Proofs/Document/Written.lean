import Mathlib.Data.List.Perm.Basic
import PackSpec.Document.Encode
import PackSpec.Proofs.Node.Built

set_option autoImplicit false

namespace PackSpec

namespace Encode

section

variable {α β ε : Type}

theorem ok_of_map {r : Except ε α} {f : α → β} {b : β} (done : r.map f = .ok b) :
    ∃ a, r = .ok a ∧ b = f a := by
  cases r with
  | error e => simp [Except.map] at done
  | ok a => exact ⟨a, rfl, (Except.ok.inj done).symm⟩

theorem mapM_ok (f : α → Except ε β) (xs : List α) (each : ∀ x ∈ xs, ∃ y, f x = .ok y) :
    ∃ ys, xs.mapM f = .ok ys := by
  induction xs with
  | nil => exact ⟨[], rfl⟩
  | cons x xs ih =>
    obtain ⟨y, first⟩ := each x (by simp)
    obtain ⟨ys, rest⟩ := ih fun z member => each z (by simp [member])
    exact ⟨y :: ys, by rw [List.mapM_cons, first, rest]; rfl⟩

theorem forall₂_of_mapM (f : α → Except ε β) (R : α → β → Prop) (xs : List α) (ys : List β)
    (each : ∀ x ∈ xs, ∀ y, f x = .ok y → R x y) (done : xs.mapM f = .ok ys) :
    List.Forall₂ R xs ys := by
  induction xs generalizing ys with
  | nil =>
    obtain rfl := Except.ok.inj done
    exact .nil
  | cons x xs ih =>
    rw [List.mapM_cons] at done
    cases first : f x with
    | error e => simp [first, bind, Except.bind] at done
    | ok y =>
      cases rest : xs.mapM f with
      | error e => simp [first, rest, bind, Except.bind] at done
      | ok zs =>
        rw [first, rest] at done
        obtain rfl := Except.ok.inj done
        exact .cons (each x (by simp) y first) (ih zs (fun z member => each z (by simp [member])) rest)

end

section

variable (write : Kind → Option Params → Params → Except Problem (List (Yaml × Yaml))) (k : Kind)
  (defaults : Option Params) (ps : Params)

def entry (p : Param) : Except Problem (Option Yaml) :=
  match Entries.get? ps p.name with
  | none => .error (refusal k p "is not set on this object")
  | some v =>
    if v.isNull then .ok (if writesNull defaults p then some .null else none)
    else if isDefault defaults p v then .ok none
    else (value write k p v).map some

def written (p : Param) : Option Yaml :=
  match entry write k defaults ps p with
  | .ok y => y
  | .error _ => none

def lines (list : List Param) : List (Yaml × Yaml) :=
  list.filterMap fun p => (written write k defaults ps p).map fun y => (.str p.external, y)

theorem entry_some (p : Param) (v : Param.Value) (y : Yaml)
    (found : Entries.get? ps p.name = some v)
    (made : entry write k defaults ps p = .ok (some y)) :
    (v = .null ∧ y = .null) ∨ (v ≠ .null ∧ value write k p v = .ok y) := by
  rw [entry, found] at made
  by_cases null : v.isNull = true
  · obtain rfl : v = .null := by cases v <;> simp_all [Param.Value.isNull]
    by_cases writes : writesNull defaults p = true
    · simp only [null, writes, if_true] at made
      exact .inl ⟨rfl, (Option.some.inj (Except.ok.inj made)).symm⟩
    · simp [Param.Value.isNull, writes] at made
  · have filled : v ≠ .null := by
      rintro rfl
      exact null rfl
    by_cases default : isDefault defaults p v = true
    · simp [null, default] at made
    · refine .inr ⟨filled, ?_⟩
      simp only [null, default] at made
      cases written : value write k p v with
      | error e => simp [written, Except.map] at made
      | ok z =>
        rw [written] at made
        rw [Option.some.inj (Except.ok.inj made)]

theorem entry_none (p : Param) (v : Param.Value) (found : Entries.get? ps p.name = some v)
    (fits : p.Fits v) (made : entry write k defaults ps p = .ok none) :
    ∃ d, defaultBeside defaults p = some d ∧ d.same v = true := by
  rw [entry, found] at made
  by_cases null : v.isNull = true
  · obtain rfl : v = .null := by cases v <;> simp_all [Param.Value.isNull]
    -- A null fits a parameter that is not a collection, so it was left out beside a null.
    have default : p.defaultValue = some .null := by
      rcases fits with ⟨_, given_⟩ | held
      · exact given_
      · cases shape : p.shape <;> simp [shape, Param.Shape.holds] at held
    have scalar : p.shape.isCollection = false := by
      by_contra collection
      exact p.default_ne_null (by simpa using collection) default
    by_cases writes : writesNull defaults p = true
    · simp [Param.Value.isNull, writes] at made
    · rw [writesNull, scalar] at writes
      cases there : defaultBeside defaults p with
      | none =>
        rw [defaultBeside, default] at there
        simp at there
      | some d =>
        simp only [there, Option.any_some] at writes
        exact ⟨d, rfl, by cases d <;> simp_all [Param.Value.isNull, Param.Value.same]⟩
  · by_cases default : isDefault defaults p v = true
    · simpa [isDefault, Option.any_eq_true] using default
    · simp only [null, default] at made
      cases written : value write k p v <;> simp [written, Except.map] at made

theorem isDefault_of_null (p : Param) (v : Param.Value) (null : defaultBeside defaults p = some .null)
    (filled : v ≠ .null) : isDefault defaults p v = false := by
  rw [isDefault, null]
  cases v <;> simp_all [Param.Value.same]

theorem entry_of_value (p : Param) (v : Param.Value) (y : Yaml)
    (found : Entries.get? ps p.name = some v) (filled : v ≠ .null)
    (differs : isDefault defaults p v = false) (made : value write k p v = .ok y) :
    entry write k defaults ps p = .ok (some y) := by
  have null : v.isNull = false := by cases v <;> simp_all [Param.Value.isNull]
  simp only [entry, found, null, differs, made]
  rfl

theorem entry_of_written (p : Param) (y : Yaml) (there : written write k defaults ps p = some y) :
    entry write k defaults ps p = .ok (some y) := by
  unfold written at there
  cases made : entry write k defaults ps p with
  | error e => simp [made] at there
  | ok z =>
    rw [made] at there
    exact congrArg Except.ok there

theorem keys_cons (p : Param) (list : List Param) :
    keys write k defaults ps (p :: list) =
      match entry write k defaults ps p with
      | .error e => .error e
      | .ok y =>
        (keys write k defaults ps list).map fun more =>
          (y.map fun y => (Yaml.str p.external, y)).toList ++ more := by
  rw [keys, entry]
  cases Entries.get? ps p.name with
  | none => rfl
  | some v =>
    by_cases null : v.isNull = true
    · by_cases writes : writesNull defaults p = true
      · simp only [null, writes, if_true]
        cases keys write k defaults ps list <;> rfl
      · simp only [null, writes, if_true]
        cases keys write k defaults ps list <;> rfl
    · by_cases default : isDefault defaults p v = true
      · simp only [null, default, if_true]
        cases keys write k defaults ps list <;> rfl
      · simp only [null, default]
        cases value write k p v with
        | error e => rfl
        | ok y => cases keys write k defaults ps list <;> rfl

theorem keys_ok (list : List Param) (m : List (Yaml × Yaml))
    (done : keys write k defaults ps list = .ok m) :
    m = lines write k defaults ps list ∧
      ∀ p ∈ list, entry write k defaults ps p = .ok (written write k defaults ps p) := by
  induction list generalizing m with
  | nil => exact ⟨(Except.ok.inj done).symm, by simp⟩
  | cons p list ih =>
    rw [keys_cons] at done
    cases first : entry write k defaults ps p with
    | error e => simp [first] at done
    | ok y =>
      have here : written write k defaults ps p = y := by rw [written, first]
      cases rest : keys write k defaults ps list with
      | error e => simp [first, rest, Except.map] at done
      | ok more =>
        rw [first, rest] at done
        obtain rfl := Except.ok.inj done
        obtain ⟨same, each⟩ := ih more rest
        constructor
        · rw [same, lines, lines, List.filterMap_cons, here]
          cases y <;> rfl
        · intro q member
          rcases List.mem_cons.1 member with rfl | later
          · rw [here, first]
          · exact each q later

theorem keys_of_entries (list : List Param) (ys : List (Option Yaml))
    (each : List.Forall₂ (fun p y => entry write k defaults ps p = .ok y) list ys) :
    keys write k defaults ps list =
      .ok ((list.zip ys).filterMap fun e => e.2.map fun y => (.str e.1.external, y)) := by
  induction each with
  | nil => rfl
  | @cons p y list ys first _ ih =>
    rw [keys_cons, first, ih]
    cases y <;> rfl

theorem keys_of_ok (list : List Param)
    (each : ∀ p ∈ list, ∃ y, entry write k defaults ps p = .ok y) :
    ∃ m, keys write k defaults ps list = .ok m := by
  induction list with
  | nil => exact ⟨[], rfl⟩
  | cons p list ih =>
    obtain ⟨y, first⟩ := each p (by simp)
    obtain ⟨more, rest⟩ := ih fun q member => each q (by simp [member])
    exact ⟨_, by rw [keys_cons, first, rest]; rfl⟩

end

section

variable {α : Type}

def order (cs : Entries α) : Entries α :=
  (Entries.get? cs defaultsName).toList.map (fun d => (defaultsName, d)) ++
    sorted (cs.filter fun e => !isDefaults e)

def beside (cs : Entries α) (name : String) : Option α :=
  if name = defaultsName then none else Entries.get? cs defaultsName

theorem filter_isDefaults (cs : Entries α) (distinct : Entries.Distinct cs) :
    cs.filter isDefaults = (Entries.get? cs defaultsName).toList.map fun d => (defaultsName, d) := by
  induction cs with
  | nil => rfl
  | cons e cs ih =>
    rw [Entries.Distinct, Entries.names, List.map_cons, List.nodup_cons] at distinct
    rw [Entries.get?_cons]
    by_cases same : e.1 = defaultsName
    · have none_ : cs.filter isDefaults = [] := by
        refine List.filter_eq_nil_iff.2 fun f member => ?_
        intro another
        exact distinct.1 (List.mem_map.2 ⟨f, member, (beq_iff_eq.1 another).trans same.symm⟩)
      rw [List.filter_cons_of_pos (by simp [isDefaults, same]), none_, if_pos same.symm, ← same]
      rfl
    · rw [List.filter_cons_of_neg (by simp [isDefaults, same]), if_neg (Ne.symm same)]
      exact ih distinct.2

theorem perm_order (cs : Entries α) (distinct : Entries.Distinct cs) : (order cs).Perm cs := by
  rw [order, ← filter_isDefaults cs distinct]
  refine List.Perm.trans ?_ (List.filter_append_perm isDefaults cs)
  exact (List.Perm.refl _).append (List.mergeSort_perm _ _)

theorem distinct_order (cs : Entries α) (distinct : Entries.Distinct cs) :
    Entries.Distinct (order cs) :=
  ((perm_order cs distinct).map Prod.fst).nodup_iff.2 distinct

end

def line {α : Type} (write : α → Except Problem (List (Yaml × Yaml))) (e : String × α) :
    Except Problem (Yaml × Yaml) := do
  return (.str e.1, .map (← write e.2))

section

variable {α : Type} (write : α → Except Problem (List (Yaml × Yaml)))

theorem line_ok (e : String × α) (y : Yaml × Yaml) (done : line write e = .ok y) :
    ∃ w, write e.2 = .ok w ∧ y = (.str e.1, .map w) := by
  unfold line at done
  cases made : write e.2 with
  | error e => simp [made, bind, Except.bind] at done
  | ok w =>
    rw [made] at done
    exact ⟨w, rfl, (Except.ok.inj done).symm⟩

theorem lines_ok (es : List (String × α)) (each : ∀ e ∈ es, ∃ w, write e.2 = .ok w) :
    ∃ ys, es.mapM (line write) = .ok ys := by
  refine mapM_ok _ es fun e member => ?_
  obtain ⟨w, made⟩ := each e member
  exact ⟨_, by rw [line, made]; rfl⟩

end

section

variable (write : Option Params → Params → Except Problem (List (Yaml × Yaml)))

theorem collection_eq (cs : Children) :
    collection write cs = do
      let first ← ((Entries.get? cs defaultsName).toList.map fun d => (defaultsName, d)).mapM
        (line (write none))
      let others ← (sorted (cs.filter fun e => !isDefaults e)).mapM
        (line (write (Entries.get? cs defaultsName)))
      return first ++ others := by
  rw [List.mapM_map]
  rfl

theorem mem_sorted (cs : Children) (e : String × Params)
    (member : e ∈ sorted (cs.filter fun e => !isDefaults e)) : e ∈ cs ∧ e.1 ≠ defaultsName := by
  obtain ⟨there, other⟩ := List.mem_filter.1 ((List.mergeSort_perm _ _).mem_iff.1 member)
  exact ⟨there, by simpa [isDefaults] using other⟩

theorem collection_of_ok (cs : Children)
    (each : ∀ e ∈ cs, ∀ defaults, ∃ w, write defaults e.2 = .ok w) :
    ∃ m, collection write cs = .ok m := by
  obtain ⟨first, firstMade⟩ := lines_ok (write none)
    ((Entries.get? cs defaultsName).toList.map fun d => (defaultsName, d)) (by
      intro e member
      obtain ⟨d, found, rfl⟩ := List.mem_map.1 member
      exact each _ (Entries.mem_of_get? cs defaultsName d (by simpa using found)) none)
  obtain ⟨others, othersMade⟩ := lines_ok (write (Entries.get? cs defaultsName))
    (sorted (cs.filter fun e => !isDefaults e)) fun e member => each e (mem_sorted cs e member).1 _
  exact ⟨first ++ others, by rw [collection_eq, firstMade, othersMade]; rfl⟩

theorem collection_ok (cs : Children) (m : List (Yaml × Yaml))
    (done : collection write cs = .ok m) :
    List.Forall₂ (fun e y => ∃ w, write (beside cs e.1) e.2 = .ok w ∧ y = (.str e.1, .map w))
      (order cs) m := by
  rw [collection_eq] at done
  cases firstMade : ((Entries.get? cs defaultsName).toList.map fun d =>
      (defaultsName, d)).mapM (line (write none)) with
  | error e => simp [firstMade, bind, Except.bind] at done
  | ok first =>
    cases othersMade : (sorted (cs.filter fun e => !isDefaults e)).mapM
        (line (write (Entries.get? cs defaultsName))) with
    | error e => simp [firstMade, othersMade, bind, Except.bind] at done
    | ok others =>
      rw [firstMade, othersMade] at done
      obtain rfl := Except.ok.inj done
      have alone (e : String × Params) (name : e.1 = defaultsName) : beside cs e.1 = none :=
        if_pos name
      have under (e : String × Params) (other : e.1 ≠ defaultsName) :
          beside cs e.1 = Entries.get? cs defaultsName := if_neg other
      refine List.rel_append ?_ ?_
      · refine forall₂_of_mapM _ _ _ _ (fun e member y made => ?_) firstMade
        obtain ⟨d, _, rfl⟩ := List.mem_map.1 member
        exact line_ok _ _ y (by rw [alone (defaultsName, d) rfl]; exact made)
      · refine forall₂_of_mapM _ _ _ _ (fun e member y made => ?_) othersMade
        exact line_ok _ _ y (by rw [under e (mem_sorted cs e member).2]; exact made)

end

section

variable {keeps : Bool} {k : Kind} {ps : Params}

theorem shape_ne_relationship (k : Kind) (p : Param) (member : p ∈ k.params) :
    p.shape ≠ .relationship := by
  revert p
  cases k <;> decide

theorem compact_of_oriented (k : Kind) (p : Param) (d : Decl) (oriented : d.isOriented = true) :
    ∃ text, compact k p d = .ok text := by
  rw [compact, Decl.compact, if_pos oriented]
  exact ⟨_, rfl⟩

theorem scalar_of_holds (k : Kind) (p : Param) (v : Param.Value) (held : p.shape.holds v = true)
    (flat : p.shape.child? = none) (other : p.shape ≠ .relationship)
    (settled : v.Settled keeps) : ∃ y, scalar k p v = .ok y := by
  unfold scalar
  generalize p.shape = shape at held flat other
  cases shape with
  | relationship => exact absurd rfl other
  | specs child | groups child => simp [Param.Shape.child?] at flat
  | relationships =>
    cases v with
    | relationships ds =>
      obtain ⟨texts, made⟩ := mapM_ok (compact k p) ds fun d member =>
        compact_of_oriented k p d (settled d member).oriented
      exact ⟨strings texts, by simp only [made, Except.map]⟩
    | _ => simp [Param.Shape.holds] at held
  | _ => cases v <;> first | exact ⟨_, rfl⟩ | simp [Param.Shape.holds] at held

theorem value_flat (write : Kind → Option Params → Params → Except Problem (List (Yaml × Yaml)))
    (k : Kind) (p : Param) (v : Param.Value) (flat : p.shape.child? = none) :
    value write k p v = scalar k p v := by
  unfold value
  split
  · next shape => simp [shape, Param.Shape.child?] at flat
  · next shape => simp [shape, Param.Shape.child?] at flat
  · rfl

section

variable (write : Kind → Option Params → Params → Except Problem (List (Yaml × Yaml))) (k : Kind)
  (p : Param) (child : Kind)

theorem value_specs (shape : p.shape = .specs child) (cs : Children) :
    value write k p (.specs child cs) = (collection (write child) cs).map .map := by
  unfold value
  rw [shape]
  exact if_pos rfl

theorem value_groups (shape : p.shape = .groups child) (gs : Groups) :
    value write k p (.groups child gs) =
      (gs.mapM (line (collection (write child)))).map .map := by
  unfold value
  rw [shape]
  dsimp only
  rw [if_pos rfl]
  change (gs.mapM (line (collection (write child))) >>= fun es => pure (Yaml.map es)) = _
  cases gs.mapM (line (collection (write child))) <;> rfl

theorem value_of_fits (v : Param.Value) (member : p ∈ k.params) (fits : p.Fits v)
    (filled : v ≠ .null) (every : v.Every (Param.Value.Settled keeps))
    (writes : ∀ child, p.shape.child? = some child → ∀ ps, Node.Built keeps child ps →
      ∀ defaults, ∃ m, write child defaults ps = .ok m) :
    ∃ y, value write k p v = .ok y := by
  cases shape : p.shape with
  | specs child =>
    obtain ⟨cs, rfl⟩ := p.specs_of_fits v child shape fits
    obtain ⟨m, made⟩ := collection_of_ok (write child) cs fun e there =>
      writes child (by rw [shape]; rfl) e.2 (Node.built_of_below keeps child cs every e there)
    exact ⟨.map m, by rw [value_specs write k p child shape, made]; rfl⟩
  | groups child =>
    obtain ⟨gs, rfl⟩ := p.groups_of_fits v child shape fits
    obtain ⟨es, made⟩ := lines_ok (collection (write child)) gs fun g there =>
      collection_of_ok (write child) g.2 fun e inside =>
        writes child (by rw [shape]; rfl) e.2
          (Node.built_of_groups keeps child gs every g there e inside)
    exact ⟨.map es, by rw [value_groups write k p child shape, made]; rfl⟩
  | _ =>
    have flat : p.shape.child? = none := by rw [shape]; rfl
    rw [value_flat write k p v flat]
    refine scalar_of_holds k p v ?_ flat (shape_ne_relationship k p member) every.here
    exact fits.resolve_left fun null => filled null.1

end

theorem keys_of_built (write : Kind → Option Params → Params → Except Problem (List (Yaml × Yaml)))
    (defaults : Option Params) (built : Node.Built keeps k ps)
    (writes : ∀ p ∈ k.params, ∀ child, p.shape.child? = some child → ∀ qs,
      Node.Built keeps child qs → ∀ defaults, ∃ m, write child defaults qs = .ok m) :
    ∃ m, keys write k defaults ps k.params = .ok m := by
  refine keys_of_ok write k defaults ps k.params fun p member => ?_
  have found := Node.get?_of_names k ps built.whole.names p member
  have every := Params.every_get? ps p.name _ built.below found
  rw [entry, found]
  by_cases null : (Params.value ps p.name).isNull = true
  · exact ⟨if writesNull defaults p then some .null else none, by simp only [null, if_true]⟩
  · by_cases default : isDefault defaults p (Params.value ps p.name) = true
    · exact ⟨none, by simp only [null, default, if_true, Bool.false_eq_true, if_false]⟩
    · obtain ⟨y, made⟩ := value_of_fits write k p _ member (built.whole.fits p member)
        (fun same => null (by rw [same]; rfl)) every (writes p member)
      exact ⟨some y, by simp only [null, default, made, Bool.false_eq_true, if_false, Except.map]⟩

theorem writes_at (depth : Nat) (defaults : Option Params) (built : Node.Built keeps k ps)
    (height : k.height ≤ depth) : ∃ m, paramsAt depth k defaults ps = .ok m := by
  induction depth generalizing k ps defaults with
  | zero =>
    refine keys_of_built _ defaults built fun p member child collection => ?_
    have lower := k.height_child p member child collection
    omega
  | succ depth ih =>
    refine keys_of_built _ defaults built fun p member child collection qs below defaults => ?_
    have lower := k.height_child p member child collection
    exact ih defaults below (by omega)

end

end Encode

end PackSpec
