import PackSpec.Proofs.Param.Declared
import PackSpec.Proofs.Param.Reading

set_option autoImplicit false

namespace PackSpec

theorem Param.accept_defaultValue (p : Param) (v : Param.Value)
    (fits : p.default.fits p.shape = true) (given_ : p.defaultValue = some v) :
    p.shape.accept v = some v := by
  unfold defaultValue at given_
  cases made : p.default with
  | required => simp [made] at given_
  | empty =>
    rw [made] at given_
    rw [← Option.some.inj given_]
    cases p.shape <;> simp [Shape.emptyValue, Shape.accept]
  | _ =>
    rw [made] at given_ fits
    cases shape : p.shape <;> rw [shape] at given_ fits <;> first
      | (rw [← Option.some.inj given_]; rfl)
      | simp [Default.fits] at fits

theorem Kind.fits_defaults (k : Kind) (p : Param) (member : p ∈ k.params) :
    p.default.fits p.shape = true := by
  revert p
  cases k <;> decide

def Param.read (k : Kind) (p : Param) (found : Option Param.Value) : Param.Value :=
  match p.reading k found with
  | .ok v => v
  | .error _ => .null

theorem Param.read_of_reading (k : Kind) (p : Param) (found : Option Param.Value) (v : Param.Value)
    (reads : p.reading k found = .ok v) : p.read k found = v := by
  rw [Param.read, reads]

namespace Reader

theorem outcome_named (k : Kind) (r : Reader) (p : Param) (table : r.table = k.table)
    (member : p ∈ k.params) :
    outcome (named p) r =
      ((p.reading k (Entries.get? r.params p.name)).map fun v => (p.name, v),
        r.without p.name) := by
  have known : r.table.get? p.name = some p := table ▸ k.get?_table p member
  have kind : r.table.kind = k := by rw [table]; rfl
  rw [named, outcome_return, outcome_declared r p known, kind]

theorem outcome_mapM_cons (k : Kind) (r : Reader) (p : Param) (ps : List Param)
    (table : r.table = k.table) (member : p ∈ k.params) :
    outcome ((p :: ps).mapM named) r =
      match p.reading k (Entries.get? r.params p.name) with
      | .error e => (.error e, r.without p.name)
      | .ok v =>
        ((outcome (ps.mapM named) (r.without p.name)).1.map fun vs => (p.name, v) :: vs,
          (outcome (ps.mapM named) (r.without p.name)).2) := by
  rw [List.mapM_cons, outcome_bind, outcome_named k r p table member]
  cases p.reading k (Entries.get? r.params p.name) with
  | error e => rfl
  | ok v =>
    dsimp only [Except.map]
    rw [outcome_return]
    rfl

def past (r : Reader) (ps : List Param) : Reader :=
  { r with params := r.params.filter fun e => !(ps.any fun p => p.name == e.1) }

theorem past_nil (r : Reader) : r.past [] = r := by
  simp [past]

theorem past_cons (r : Reader) (p : Param) (ps : List Param) :
    r.past (p :: ps) = (r.without p.name).past ps := by
  simp only [past, without, Entries.erase, List.filter_filter, List.any_cons, Bool.not_or]
  congr 2
  funext e
  rw [Bool.and_comm, bne, Bool.beq_comm]

theorem get?_without (r : Reader) (p q : Param) (other : q.name ≠ p.name) :
    Entries.get? (r.without p.name).params q.name = Entries.get? r.params q.name := by
  rw [without, Entries.get?_erase, if_neg other]

theorem outcome_mapM (k : Kind) (ps : List Param) (r : Reader) (table : r.table = k.table)
    (within : ∀ p ∈ ps, p ∈ k.params) (distinct : (ps.map Param.name).Nodup)
    (reads : ∀ p ∈ ps, ∃ v, p.reading k (Entries.get? r.params p.name) = .ok v) :
    outcome (ps.mapM named) r =
      (.ok (ps.map fun p => (p.name, p.read k (Entries.get? r.params p.name))), r.past ps) := by
  -- A parameter that has been read is out of the map; the others are found there as before.
  induction ps generalizing r with
  | nil =>
    rw [past_nil]
    rfl
  | cons p ps ih =>
    obtain ⟨v, first⟩ := reads p (by simp)
    rw [List.map_cons, List.nodup_cons] at distinct
    have later (q : Param) (member : q ∈ ps) :
        Entries.get? (r.without p.name).params q.name = Entries.get? r.params q.name :=
      get?_without r p q fun same => distinct.1 (same ▸ List.mem_map.2 ⟨q, member, rfl⟩)
    have rest := ih (r.without p.name) table (fun q member => within q (by simp [member]))
      distinct.2 fun q member => by
        rw [later q member]
        exact reads q (by simp [member])
    rw [outcome_mapM_cons k r p ps table (within p (by simp)), first, rest, past_cons]
    dsimp only [Except.map]
    rw [List.map_cons, p.read_of_reading k _ v first]
    congr 3
    exact List.map_congr_left fun q member => by rw [later q member]

theorem reads_of_outcome (k : Kind) (ps : List Param) (r after : Reader)
    (values : List (String × Param.Value)) (table : r.table = k.table)
    (within : ∀ p ∈ ps, p ∈ k.params) (distinct : (ps.map Param.name).Nodup)
    (done : outcome (ps.mapM named) r = (.ok values, after)) :
    ∀ p ∈ ps, ∃ v, p.reading k (Entries.get? r.params p.name) = .ok v := by
  induction ps generalizing r values with
  | nil => simp
  | cons p ps ih =>
    rw [outcome_mapM_cons k r p ps table (within p (by simp))] at done
    rw [List.map_cons, List.nodup_cons] at distinct
    split at done
    · simp at done
    · next v first =>
      intro q member
      rcases List.mem_cons.1 member with rfl | later
      · exact ⟨v, first⟩
      · generalize ran : outcome (ps.mapM named) (r.without p.name) = result at done
        rcases result with ⟨_ | rest, last⟩
        · simp [Except.map] at done
        · obtain rfl : last = after := by simpa using (Prod.mk.inj done).2
          rw [← get?_without r p q fun same =>
            distinct.1 (same ▸ List.mem_map.2 ⟨q, later, rfl⟩)]
          exact ih (r.without p.name) rest table (fun s there => within s (by simp [there]))
            distinct.2 ran q later

end Reader

namespace Node

def Readable (k : Kind) (params : Params) : Prop :=
  ∀ p ∈ k.params, ∃ v, p.reading k (Entries.get? params p.name) = .ok v

def Declared (k : Kind) (params : Params) : Prop :=
  ∀ e ∈ params, ∃ p ∈ k.params, p.name = e.1

def values (k : Kind) (params : Params) : Params :=
  k.params.map fun p => (p.name, p.read k (Entries.get? params p.name))

theorem value_values (k : Kind) (params : Params) (p : Param) (member : p ∈ k.params) :
    Params.value (values k params) p.name = p.read k (Entries.get? params p.name) := by
  rw [Params.value, values, Entries.get?_map_name k.params _ p k.nodup_names member]
  rfl

theorem mem_readingOrder (k : Kind) (p : Param) : p ∈ readingOrder k ↔ p ∈ k.params := by
  unfold readingOrder
  split
  · rfl
  · rw [List.mem_append, List.mem_filter, List.mem_filter]
    cases p.shape.child? <;> simp

theorem nodup_readingOrder (k : Kind) : ((readingOrder k).map Param.name).Nodup := by
  cases k <;> decide

theorem inTableOrder_map (k : Kind) (f : Param → Param.Value) :
    inTableOrder k ((readingOrder k).map fun p => (p.name, f p)) =
      k.params.map fun p => (p.name, f p) := by
  refine List.map_congr_left fun p member => ?_
  rw [Params.value, Entries.get?_map_name (readingOrder k) f p (nodup_readingOrder k)
    ((mem_readingOrder k p).2 member)]
  rfl

theorem leftOver_past (k : Kind) (params : Params) (declared : Declared k params) :
    ((Reader.ofKind k params).past (readingOrder k)).leftOver = [] := by
  have empty : ((Reader.ofKind k params).past (readingOrder k)).params = [] := by
    refine List.filter_eq_nil_iff.2 fun e member => ?_
    obtain ⟨p, there, same⟩ := declared e member
    have any : (readingOrder k).any (fun q => q.name == e.1) = true :=
      List.any_eq_true.2 ⟨p, (mem_readingOrder k p).2 there, by simp [same]⟩
    simp [any]
  rw [Reader.leftOver, empty]
  rfl

theorem run_readAll_eq (k : Kind) (params : Params) (c : Context) :
    (readAll k params).run c =
      match Reader.outcome ((readingOrder k).mapM Reader.named) (Reader.ofKind k params) with
      | (.ok read, rest) =>
        (do
          reportLeftOver k rest.leftOver
          return inTableOrder k read : Build Params).run c
      | (.error e, _) => (Build.abort e : Build Params).run c := by
  change (match Reader.outcome ((readingOrder k).mapM Reader.named) (Reader.ofKind k params) with
    | (read, rest) => do
      let read ← Build.ofExcept read
      reportLeftOver k rest.leftOver
      return inTableOrder k read : Build Params).run c = _
  rcases Reader.outcome ((readingOrder k).mapM Reader.named) (Reader.ofKind k params) with
    ⟨_ | _, _⟩ <;> rfl

theorem run_readAll (k : Kind) (params : Params) (c : Context) (readable : Readable k params)
    (declared : Declared k params) :
    (readAll k params).run c = (.ok (values k params), c) := by
  have outcome := Reader.outcome_mapM k (readingOrder k) (Reader.ofKind k params) rfl
    (fun p member => (mem_readingOrder k p).1 member) (nodup_readingOrder k)
    (fun p member => readable p ((mem_readingOrder k p).1 member))
  rw [run_readAll_eq, outcome]
  dsimp only
  rw [leftOver_past k params declared, inTableOrder_map]
  rfl

theorem readAll_ok (k : Kind) (params read : Params) (c after : Context)
    (done : (readAll k params).run c = (.ok read, after)) :
    Readable k params ∧ read = values k params := by
  rw [run_readAll_eq] at done
  generalize ran : Reader.outcome ((readingOrder k).mapM Reader.named) (Reader.ofKind k params) =
    result at done
  rcases result with ⟨e | found, rest⟩
  · dsimp only at done
    rw [Build.run_abort] at done
    simp at done
  · have reads := Reader.reads_of_outcome k (readingOrder k) _ _ _ rfl
      (fun p member => (mem_readingOrder k p).1 member) (nodup_readingOrder k) ran
    have outcome := Reader.outcome_mapM k (readingOrder k) (Reader.ofKind k params) rfl
      (fun p member => (mem_readingOrder k p).1 member) (nodup_readingOrder k) reads
    rw [ran] at outcome
    obtain rfl : found = _ := Except.ok.inj (Prod.mk.inj outcome).1
    refine ⟨fun p member => reads p ((mem_readingOrder k p).2 member), ?_⟩
    dsimp only at done
    rw [Build.run_bind] at done
    generalize (reportLeftOver k rest.leftOver).run c = reported at done
    rcases reported with ⟨_ | _, _⟩
    · simp at done
    · have same := (Except.ok.inj (Prod.mk.inj done).1).symm
      rw [inTableOrder_map] at same
      exact same

end Node

end PackSpec
