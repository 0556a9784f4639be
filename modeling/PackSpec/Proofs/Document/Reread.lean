import PackSpec.Document.Decode
import PackSpec.Proofs.Build.Silent
import PackSpec.Proofs.Document.Written
import PackSpec.Proofs.Relationship.CompactForm

set_option autoImplicit false

namespace PackSpec

def carriesName (relationName : Option String) : Prop :=
  ∀ r ∈ relationName, ∀ c ∈ r.toList, Text.isBlank c = false ∧ c ≠ ')'

def Decl.Carried (d : Decl) : Prop :=
  d.isCarried = true ∧ carriesName d.left.relationName ∧ carriesName d.right.relationName

/-- A value that documents carry. -/
def Param.Value.Carried : Param.Value → Prop
  | .float x => x.isNaN = false
  | .classRef c => ClassRef.ofToken c.token = c
  | .classRefs cs => ∀ c ∈ cs, ClassRef.ofToken c.token = c
  | .relationship d => d.Carried
  | .relationships ds => ∀ d ∈ ds, d.Carried
  | _ => True

theorem isRelationName_of_carries (relationName : Option String)
    (carries : carriesName relationName) (filled : given relationName = relationName) :
    ∀ r ∈ relationName, Compact.isRelationName r.toList = true := by
  intro r member
  obtain rfl := Option.mem_def.1 member
  rw [Compact.isRelationName_iff]
  have present : r.toList ≠ [] := by
    rintro empty
    obtain rfl : r = "" := String.toList_eq_nil_iff.1 empty
    simp [given] at filled
  exact ⟨present, fun c there => (carries r rfl c there).1,
    fun c there => bne_iff_ne.2 (carries r rfl c there).2⟩

theorem Decl.namesFit_of_carried (d : Decl) (carried : d.Carried) (settled : d.Settled) :
    d.NamesFit :=
  ⟨isRelationName_of_carries _ carried.2.1 settled.left,
    isRelationName_of_carries _ carried.2.2 settled.right⟩

@[simp] theorem Yaml.Integer.int64?_ofInt64 (n : Int64) :
    (Yaml.Integer.ofInt64 n).int64? = some n := by
  have low := n.minValue_le_toInt
  have high := n.toInt_lt
  have within : Decimal.isInt64 n.toInt = true := by
    simp [Decimal.isInt64] at low high ⊢
    omega
  have same : (Yaml.Integer.ofInt64 n).val = n.toInt := rfl
  rw [int64?, same, within, if_pos rfl, Int64.ofInt_toInt]

@[simp] theorem Severity.ofText?_name (s : Severity) : ofText? s.name = some s := by
  cases s <;> decide

namespace Decode

open Build (Yields)

variable {keeps : Bool → Prop}

@[simp] theorem texts?_strings (xs : List String) : texts? (Encode.strings xs) = some xs := by
  rw [Encode.strings, texts?]
  induction xs with
  | nil => rfl
  | cons x xs ih =>
    rw [List.map_cons, List.mapM_cons, ih]
    rfl

theorem relationship_str (text : String) :
    relationship (.str text) =
      match Decl.ofText text with
      | .ok d => return some d
      | .error e => do
        Build.reportRelationship e
        return none := rfl

theorem yields_relationship (text : String) (d : Decl) (accepted : Decl.ofText text = .ok d) :
    Yields keeps (relationship (.str text)) (some d) := by
  rw [relationship_str, accepted]
  exact Build.yields_pure (some d)

theorem yields_relationshipItems (i : Nat) (texts : List String) (ds : List Decl)
    (accepted : List.Forall₂ (fun text d => Decl.ofText text = .ok d) texts ds) :
    Yields keeps (relationshipItems i (texts.map .str)) ds := by
  induction accepted generalizing i with
  | nil => exact Build.yields_pure []
  | @cons text d texts ds first _ ih =>
    refine Build.yields_bind (Build.yields_within _ (yields_relationship text d first)) ?_
    exact Build.yields_map (f := fun rest => d :: rest) (ih (i + 1))

theorem accepted_of_written (k : Kind) (p : Param) (ds : List Decl) (texts : List String)
    (carried : ∀ d ∈ ds, d.Carried) (settled : ∀ d ∈ ds, d.Settled)
    (written : ds.mapM (Encode.compact k p) = .ok texts) :
    List.Forall₂ (fun text d => Decl.ofText text = .ok d) texts (ds.map Decl.shortened) := by
  have each := Encode.forall₂_of_mapM _ (fun d text => Decl.ofText text = .ok d.shortened) ds texts
    (fun d member text made => by
      have fit := d.namesFit_of_carried (carried d member) (settled d member)
      obtain ⟨written, compact, accepted⟩ :=
        d.ofText_compact (settled d member).oriented (carried d member).1 fit
      rw [Encode.compact, compact] at made
      obtain rfl := Except.ok.inj made
      exact accepted) written
  exact List.forall₂_map_right_iff.2 each.flip

theorem scalar_not_null (k : Kind) (p : Param) (v : Param.Value) (y : Yaml)
    (written : Encode.scalar k p v = .ok y) : y.isNull = false := by
  unfold Encode.scalar at written
  split at written
  case h_9 | h_10 =>
    simp only [Except.map] at written
    split at written
    · simp at written
    · rw [← Except.ok.inj written]; rfl
  case h_12 =>
    split at written
    · rw [← Except.ok.inj written]; rfl
    · simp at written
  all_goals first
    | (rw [← Except.ok.inj written]; rfl)
    | simp at written

theorem yields_coerced (read : Kind → Yaml → Build (Option Params)) (k : Kind) (p : Param)
    (shape : Param.Shape) (y : Yaml) (v : Param.Value) (filled : y.isNull = false)
    (coerced : coerce shape y = some v) : Yields keeps (value read k p shape y) (some v) := by
  unfold value
  rw [filled, if_neg (by simp)]
  split
  case h_6 =>
    rw [coerced]
    exact Build.yields_pure _
  all_goals simp [coerce] at coerced

theorem coerce_scalar (k : Kind) (p : Param) (v : Param.Value) (y : Yaml)
    (held : p.shape.holds v = true) (carried : v.Carried)
    (list : p.shape ≠ .relationships) (single : p.shape ≠ .relationship) (dict : p.shape ≠ .dict)
    (flat : p.shape.child? = none) (written : Encode.scalar k p v = .ok y) :
    coerce p.shape y = some v := by
  unfold Encode.scalar at written
  -- Each shape is read back from the one form that it is written in.
  generalize p.shape = shape at held list single dict flat written
  cases shape with
  | relationships => exact absurd rfl list
  | relationship => exact absurd rfl single
  | dict => exact absurd rfl dict
  | specs child | groups child => simp [Param.Shape.child?] at flat
  | classRefs =>
    cases v with
    | classRefs cs =>
      have same : cs.map (ClassRef.ofToken ∘ ClassRef.token) = cs :=
        (List.map_congr_left fun c member => carried c member).trans (List.map_id cs)
      rw [← Except.ok.inj written]
      simp only [coerce, texts?_strings, Option.map_some, List.map_map, same]
    | _ => simp [Param.Shape.holds] at held
  | classRef =>
    cases v with
    | classRef c =>
      have same : ClassRef.ofToken c.token = c := carried
      rw [← Except.ok.inj written]
      simp only [coerce, scalarText?, Option.map_some, same]
    | _ => simp [Param.Shape.holds] at held
  | typedBy field =>
    cases v with
    | bool | int | float | str =>
      rw [← Except.ok.inj written]
      simp [coerce, untyped?, Encode.int]
    | strs xs =>
      have read := texts?_strings xs
      rw [← Except.ok.inj written]
      rw [Encode.strings] at read ⊢
      simp only [coerce, untyped?, read, Option.map_some]
    | _ => simp [Param.Shape.holds] at held
  | _ =>
    cases v <;> first
      | (simp [Param.Shape.holds] at held; done)
      | (rw [← Except.ok.inj written]
         simp [coerce, Encode.int, int?, float?, scalarText?, severity?])

theorem coerce_retyped (k : Kind) (p : Param) (field : String) (v : Param.Value) (y : Yaml)
    (shape : Param.Shape) (typed : p.shape = .typedBy field) (filled : v ≠ .null)
    (retyped : Coerce.retyped shape v = v) (fits : Coerce.fits shape v = true)
    (written : Encode.scalar k p v = .ok y) : coerce shape y = some v := by
  unfold Encode.scalar at written
  rw [typed] at written
  cases v with
  | null => exact absurd rfl filled
  | int n =>
    cases shape with
    | int => rw [← Except.ok.inj written]; simp [coerce, Encode.int, int?]
    | float => simp [Coerce.retyped] at retyped
    | _ => simp [Coerce.fits] at fits
  | bool | float | str | strs =>
    cases shape <;> first
      | (simp [Coerce.fits] at fits; done)
      | (rw [← Except.ok.inj written]
         simp [coerce, float?, scalarText?])
  | _ => simp at written

theorem yields_scalar {kept : Bool} (read : Kind → Yaml → Build (Option Params)) (k : Kind)
    (p : Param) (v : Param.Value) (y : Yaml) (shape : Param.Shape) (held : p.shape.holds v = true)
    (carried : v.Carried) (settled : v.Settled kept) (flat : p.shape.child? = none)
    (single : p.shape ≠ .relationship) (written : Encode.scalar k p v = .ok y)
    (reads : shape = p.shape ∨ ∃ field, p.shape = .typedBy field ∧
      Coerce.retyped shape v = v ∧ Coerce.fits shape v = true) :
    ∃ r, Yields keeps (value read k p shape y) (some r) ∧
      (r = v ∨ ∃ ds, v = .relationships ds ∧ r = .relationships (ds.map Decl.shortened)) := by
  -- Read by their own shape, relationships are all that changes; else the value keeps its own type.
  have filled := scalar_not_null k p v y written
  rcases reads with rfl | ⟨field, typed, retyped, fits⟩
  · by_cases dict : p.shape = .dict
    · unfold Encode.scalar at written
      rw [dict] at written held ⊢
      cases v with
      | dict m =>
        obtain rfl := Except.ok.inj written
        exact ⟨_, fun _ _ => rfl, .inl rfl⟩
      | _ => simp [Param.Shape.holds] at held
    · by_cases list : p.shape = .relationships
      · unfold Encode.scalar at written
        rw [list] at written held ⊢
        cases v with
        | relationships ds =>
          obtain ⟨texts, made, rfl⟩ := Encode.ok_of_map written
          have again : Yields keeps (relationshipItems 0 (texts.map .str)) _ :=
            yields_relationshipItems 0 texts _
              (accepted_of_written k p ds texts carried settled made)
          refine ⟨.relationships (ds.map Decl.shortened), ?_, .inr ⟨ds, rfl, rfl⟩⟩
          exact Build.yields_map (f := fun ds => some (Param.Value.relationships ds)) again
        | _ => simp [Param.Shape.holds] at held
      · have coerced := coerce_scalar k p v y held carried list single dict flat written
        exact ⟨v, yields_coerced read k p _ y v filled coerced, .inl rfl⟩
  · have given_ : v ≠ .null := by
      rintro rfl
      rw [typed] at held
      simp [Param.Shape.holds] at held
    have coerced := coerce_retyped k p field v y shape typed given_ retyped fits written
    exact ⟨v, yields_coerced read k p shape y v filled coerced, .inl rfl⟩

theorem put_fresh {α : Type} (es : Entries α) (name : String) (a : α)
    (fresh : name ∉ Entries.names es) : Entries.put es name a = es ++ [(name, a)] := by
  rw [Entries.put, if_neg]
  exact fun present => fresh ((Entries.has_iff es name).1 present)

theorem fresh_append {α : Type} (es : Entries α) (first name : String) (a : α)
    (fresh : name ∉ Entries.names es) (other : name ≠ first) :
    name ∉ Entries.names (es ++ [(first, a)]) := by
  rw [Entries.names, List.map_append]
  intro there
  rcases List.mem_append.1 there with old | new
  · exact fresh old
  · exact other (by simpa using new)

theorem keys_str (read : Kind → Yaml → Build (Option Params)) (k : Kind) (all : List (Yaml × Yaml))
    (acc : Params) (name : String) (v : Yaml) (rest : List (Yaml × Yaml)) :
    keys read k all acc ((.str name, v) :: rest) =
      (match k.table.ofExternal? name with
        | none => do
          Build.within name (Build.report (.unknownParameter k.title name))
          keys read k all acc rest
        | some p => do
          match ← Build.within name (value read k p (shapeAt k all p) v) with
          | some decoded => keys read k all (Entries.put acc p.name decoded) rest
          | none => keys read k all acc rest) := rfl

theorem keys_declared (read : Kind → Yaml → Build (Option Params)) (k : Kind)
    (all : List (Yaml × Yaml)) (acc : Params) (p : Param) (declared : p ∈ k.params) (v : Yaml)
    (rest : List (Yaml × Yaml)) :
    keys read k all acc ((.str p.external, v) :: rest) = (do
      match ← Build.within p.external (value read k p (shapeAt k all p) v) with
      | some decoded => keys read k all (Entries.put acc p.name decoded) rest
      | none => keys read k all acc rest) := by
  rw [keys_str, k.ofExternal?_table p declared]

theorem entries_named (read : Yaml → Build (Option Params)) (acc : Children) (name : String)
    (v : Yaml) (rest : List (Yaml × Yaml)) :
    entries read false acc ((.str name, v) :: rest) = (do
      match ← Build.within name (read v) with
      | some ps => entries read false (Entries.put acc name ps) rest
      | none => entries read false acc rest) := rfl

theorem groups_named (read : Yaml → Build (Option Children)) (acc : Groups) (name : String)
    (v : Yaml) (rest : List (Yaml × Yaml)) :
    groups read acc ((.str name, v) :: rest) = (do
      match ← Build.within name (read v) with
      | some cs => groups read (Entries.put acc name cs) rest
      | none => groups read acc rest) := rfl

theorem yields_keys (read : Kind → Yaml → Build (Option Params)) (k : Kind)
    (all : List (Yaml × Yaml)) (written : Param → Option Yaml) (again : Param → Option Param.Value)
    (list : List Param) (acc : Params) (declared : ∀ p ∈ list, p ∈ k.params)
    (distinct : (list.map Param.name).Nodup) (fresh : ∀ p ∈ list, p.name ∉ Entries.names acc)
    (absent : ∀ p ∈ list, written p = none → again p = none)
    (each : ∀ p ∈ list, ∀ y, written p = some y →
      ∃ r, again p = some r ∧ Yields keeps (value read k p (shapeAt k all p) y) (some r)) :
    Yields keeps
      (keys read k all acc (list.filterMap fun p => (written p).map fun y => (.str p.external, y)))
      (acc ++ Entries.ofParams list again) := by
  -- By induction on the parameters; those read so far are in `acc`, under other names.
  induction list generalizing acc with
  | nil =>
    rw [List.filterMap_nil, Entries.ofParams, List.filterMap_nil, List.append_nil]
    exact Build.yields_pure acc
  | cons p list ih =>
    rw [List.map_cons, List.nodup_cons] at distinct
    rw [List.filterMap_cons, Entries.ofParams_cons]
    have rest (acc : Params) (fresh : ∀ q ∈ list, q.name ∉ Entries.names acc) :=
      ih acc (fun q member => declared q (by simp [member])) distinct.2 fresh
        (fun q member => absent q (by simp [member])) fun q member => each q (by simp [member])
    cases there : written p with
    | none =>
      rw [absent p (by simp) there]
      exact rest acc fun q member => fresh q (by simp [member])
    | some y =>
      obtain ⟨r, found, reads⟩ := each p (by simp) y there
      rw [found]
      rw [Option.map_some]
      dsimp only
      rw [keys_declared read k all acc p (declared p (by simp))]
      refine Build.yields_bind (Build.yields_within p.external reads) ?_
      dsimp only
      rw [put_fresh acc p.name r (fresh p (by simp))]
      have later := rest (acc ++ [(p.name, r)]) fun q member =>
        fresh_append acc p.name q.name r (fresh q (by simp [member])) fun same =>
          distinct.1 (List.mem_map.2 ⟨q, member, same⟩)
      simpa using later

theorem yields_entries {α : Type} {Q : String × α → Params → Prop}
    (read : Yaml → Build (Option Params)) (es : Entries α) (m : List (Yaml × Yaml)) (acc : Children)
    (distinct : Entries.Distinct es) (fresh : ∀ e ∈ es, e.1 ∉ Entries.names acc)
    (each : List.Forall₂ (fun e y => ∃ w own, y = (.str e.1, .map w) ∧
      Yields keeps (read (.map w)) (some own) ∧ Q e own) es m) :
    ∃ cs, Yields keeps (entries read false acc m) (acc ++ cs) ∧
      List.Forall₂ (fun e f => f.1 = e.1 ∧ Q e f.2) es cs := by
  induction each generalizing acc with
  | nil =>
    refine ⟨[], ?_, .nil⟩
    rw [List.append_nil]
    exact Build.yields_pure acc
  | @cons e y es m first _ ih =>
    obtain ⟨w, own, rfl, reads, kept⟩ := first
    rw [Entries.Distinct, Entries.names, List.map_cons, List.nodup_cons] at distinct
    obtain ⟨cs, later, all⟩ := ih (acc ++ [(e.1, own)]) distinct.2 fun f member =>
      fresh_append acc e.1 f.1 own (fresh f (by simp [member])) fun same =>
        distinct.1 (List.mem_map.2 ⟨f, member, same⟩)
    refine ⟨(e.1, own) :: cs, ?_, .cons ⟨rfl, kept⟩ all⟩
    rw [entries_named]
    refine Build.yields_bind (Build.yields_within e.1 reads) ?_
    dsimp only
    rw [put_fresh acc e.1 own (fresh e (by simp))]
    simpa using later

theorem yields_groups {Q : String × Children → Children → Prop}
    (read : Yaml → Build (Option Children)) (gs : Groups) (m : List (Yaml × Yaml)) (acc : Groups)
    (distinct : Entries.Distinct gs) (fresh : ∀ g ∈ gs, g.1 ∉ Entries.names acc)
    (each : List.Forall₂ (fun g y => ∃ w cs, y = (.str g.1, .map w) ∧
      Yields keeps (read (.map w)) (some cs) ∧ Q g cs) gs m) :
    ∃ hs, Yields keeps (groups read acc m) (acc ++ hs) ∧
      List.Forall₂ (fun g h => h.1 = g.1 ∧ Q g h.2) gs hs := by
  induction each generalizing acc with
  | nil =>
    refine ⟨[], ?_, .nil⟩
    rw [List.append_nil]
    exact Build.yields_pure acc
  | @cons g y gs m first _ ih =>
    obtain ⟨w, cs, rfl, reads, kept⟩ := first
    rw [Entries.Distinct, Entries.names, List.map_cons, List.nodup_cons] at distinct
    obtain ⟨hs, later, all⟩ := ih (acc ++ [(g.1, cs)]) distinct.2 fun f member =>
      fresh_append acc g.1 f.1 cs (fresh f (by simp [member])) fun same =>
        distinct.1 (List.mem_map.2 ⟨f, member, same⟩)
    refine ⟨(g.1, cs) :: hs, ?_, .cons ⟨rfl, kept⟩ all⟩
    rw [groups_named]
    refine Build.yields_bind (Build.yields_within g.1 reads) ?_
    dsimp only
    rw [put_fresh acc g.1 cs (fresh g (by simp))]
    simpa using later

theorem yields_badDefaults (m : List (Yaml × Yaml)) (mappings : ∀ y ∈ m, ∃ w, y.2 = .map w) :
    Yields keeps (badDefaults m) false := by
  unfold badDefaults Overlay.ofDocument Yaml.get? Yaml.find?
  cases found : m.find? fun e => e.1.same (.str defaultsName) with
  | none => exact Build.yields_pure false
  | some y =>
    obtain ⟨key, v⟩ := y
    obtain ⟨w, rfl⟩ := mappings _ (List.mem_of_find?_eq_some found)
    exact Build.yields_pure false

theorem yields_collection {α : Type} {Q : String × α → Params → Prop}
    (read : Yaml → Build (Option Params)) (es : Entries α) (m : List (Yaml × Yaml))
    (distinct : Entries.Distinct es)
    (each : List.Forall₂ (fun e y => ∃ w own, y = (.str e.1, .map w) ∧
      Yields keeps (read (.map w)) (some own) ∧ Q e own) es m) :
    ∃ cs, Yields keeps (collection read (.map m)) (some cs) ∧
      List.Forall₂ (fun e f => f.1 = e.1 ∧ Q e f.2) es cs := by
  have mappings : ∀ y ∈ m, ∃ w, y.2 = .map w := by
    intro y member
    obtain ⟨e, _, w, own, rfl, _⟩ := Node.exists_of_forall₂ es m each y member
    exact ⟨w, rfl⟩
  obtain ⟨cs, reads, all⟩ := yields_entries read es m [] distinct (by simp [Entries.names]) each
  refine ⟨cs, ?_, all⟩
  refine Build.yields_bind (a := some m) (Build.yields_pure _) ?_
  refine Build.yields_bind (yields_badDefaults m mappings) ?_
  exact Build.yields_map (f := some) reads

end Decode

end PackSpec
