import PackSpec.Proofs.Document.Steps

set_option autoImplicit false

namespace PackSpec

open Build (Composed Meets Settled Tallies gather)

namespace Decode

structure Unordered (read : Kind → Yaml → Build (Option Params)) : Prop where
  composed : ∀ k v, Composed false (read k v)
  reads : ∀ start k v,
    Meets (Decoding start) (fun _ => False) (read k v) fun r => ∀ ps ∈ r, Node.Typed k ps
  tallies : ∀ k v w, v.Reordered w →
    Tallies (Option.Rel Params.Reordered) (read k v) (read k w)

section

variable {read : Kind → Yaml → Build (Option Params)} (unordered : Unordered read) (k : Kind)

include unordered

theorem Unordered.reads_any (start : Context) (v : Yaml) :
    Meets (Decoding start) (fun _ => False) (read k v) fun _ => True :=
  (unordered.reads start k v).forget

theorem tallies_collection (v w : Yaml) (h : v.Reordered w) :
    Tallies (Option.Rel (Entries.Reordered Params.Reordered)) (collection (read k) v)
      (collection (read k) w) := by
  refine Build.tallies_bind _ (tallies_mapping v w h) ?_
  rintro _ _ (@⟨es, fs, related⟩ | _)
  · dsimp only
    rw [badDefaults_eq es fs related]
    refine Build.tallies_bind Eq (Build.tallies_self (composed_badDefaults fs)) ?_
    rintro skip _ rfl
    refine Build.tallies_map ((tallies_named _ _ _ _ (entries_eq (read k) skip)
      (entries_eq (read k) skip) (unordered.composed k) (unordered.reads_any k)
      (unordered.tallies k) es fs related).mono ?_)
    exact fun _ _ reordered => .some reordered
  · exact Build.tallies_pure .none

theorem tallies_groups (es fs : List (Yaml × Yaml)) (h : Yaml.Reordered (.map es) (.map fs)) :
    Tallies (Entries.Reordered (Entries.Reordered Params.Reordered))
      (groups (collection (read k)) [] es) (groups (collection (read k)) [] fs) := by
  have reads (start : Context) (v : Yaml) :
      Meets (Decoding start) (fun _ => False) (collection (read k) v) fun _ => True :=
    (meets_collection k (read k) (unordered.reads start k) v).forget
  exact tallies_named _ _ _ _ (groups_eq _) (groups_eq _)
    (composed_collection (read k) (unordered.composed k)) reads (tallies_collection unordered k)
    es fs h

end

theorem relationship_eq (v w : Yaml) (h : v.Reordered w) : relationship v = relationship w := by
  unfold relationship mismatch
  rw [h.text?_eq, h.describe_eq]

theorem relationshipItems_eq (i : Nat) (xs ys : List Yaml)
    (items : List.Forall₂ Yaml.Reordered xs ys) :
    relationshipItems i xs = relationshipItems i ys := by
  induction items generalizing i with
  | nil => rfl
  | cons first _ ih => rw [relationshipItems, relationshipItems, relationship_eq _ _ first, ih]

theorem relationships_eq (v w : Yaml) (h : v.Reordered w) : relationships v = relationships w := by
  -- Relationships are texts in a sequence: there is no order of entries in them.
  cases h with
  | seq xs ys items => exact relationshipItems_eq 0 xs ys items
  | _ => rfl

theorem flat_coerce (shape : Param.Shape) (v : Yaml) (u : Param.Value)
    (read : coerce shape v = some u) : u.child? = none := by
  have typed (found : untyped? v = some u) : u.child? = none := by
    unfold untyped? at found
    split at found
    · exact Option.some.inj found ▸ rfl
    · next n =>
      rw [← Option.some.inj found]
      cases n.int64? <;> rfl
    · exact Option.some.inj found ▸ rfl
    · exact Option.some.inj found ▸ rfl
    · obtain ⟨_, _, rfl⟩ := Option.map_eq_some_iff.1 found
      rfl
    · simp at found
  cases shape with
  | bool =>
    cases v with
    | bool => exact Option.some.inj read ▸ rfl
    | str text =>
      simp only [coerce, Option.map_eq_some_iff] at read
      obtain ⟨_, _, rfl⟩ := read
      rfl
    | _ => simp [coerce] at read
  | int | float | str | strs | classRef | classRefs | severity =>
    simp only [coerce, Option.map_eq_some_iff] at read
    obtain ⟨_, _, rfl⟩ := read
    rfl
  | typedBy => exact typed read
  | _ => simp [coerce] at read

theorem shapeAt_eq (k : Kind) (es fs : List (Yaml × Yaml)) (p : Param)
    (h : Yaml.Reordered (.map es) (.map fs)) : shapeAt k es p = shapeAt k fs p := by
  -- The parameter that gives the shape is looked up too, so it may stand before or after this one.
  have texts (key : String) : (Yaml.get? es key).bind Yaml.text? = (Yaml.get? fs key).bind Yaml.text? := by
    have found := h.get? key
    generalize Yaml.get? es key = r, Yaml.get? fs key = r_ at found
    cases found with
    | none => rfl
    | some related => exact related.text?_eq
  unfold shapeAt
  simp only [texts]

section

variable {read : Kind → Yaml → Build (Option Params)} (unordered : Unordered read)

include unordered

theorem tallies_value (k : Kind) (p : Param) (shape : Param.Shape) (v w : Yaml) (h : v.Reordered w) :
    Tallies (Option.Rel Param.Value.Reordered) (value read k p shape v)
      (value read k p shape w) := by
  unfold value
  rw [h.isNull_eq]
  split
  · exact Build.tallies_pure (.some (.flat .null rfl))
  split
  · next child =>
    exact Build.tallies_option (tallies_collection unordered child v w h) fun _ _ => .specs child _ _
  · next child =>
    refine Build.tallies_bind _ (tallies_mapping v w h) ?_
    rintro _ _ (@⟨es, fs, related⟩ | _)
    · refine Build.tallies_map ((tallies_groups unordered child es fs related).mono ?_)
      exact fun _ _ groups => .some (.groups child _ _ groups)
    · exact Build.tallies_pure .none
  · exact Build.tallies_option (tallies_mapping v w h) fun _ _ => .dict _ _
  · rw [relationship_eq v w h]
    refine Build.tallies_map ((Build.tallies_self (composed_relationship w)).mono ?_)
    rintro (_ | d) _ rfl
    · exact .none
    · exact .some (.flat _ rfl)
  · rw [relationships_eq v w h]
    refine Build.tallies_map ((Build.tallies_self (composed_relationships w)).mono ?_)
    rintro ds _ rfl
    exact .some (.flat _ rfl)
  · rw [h.coerce_eq]
    split
    · next u read_ => exact Build.tallies_pure (.some (.flat u (flat_coerce shape w u read_)))
    · exact Build.tallies_report_none _ _ rfl

end

def keyStep (read : Kind → Yaml → Build (Option Params)) (k : Kind) (all : List (Yaml × Yaml))
    (e : Yaml × Yaml) : Build (Option (String × Param.Value)) := do
  match e.1.text? with
  | none =>
    Build.report (mismatch "a string key" e.1)
    return none
  | some name =>
    match k.table.ofExternal? name with
    | none =>
      Build.within name (Build.report (.unknownParameter k.title name))
      return none
    | some p =>
      return (← Build.within name (value read k p (shapeAt k all p) e.2)).map fun u => (p.name, u)

def slot? (k : Kind) (e : Yaml × Yaml) : Option String :=
  (e.1.text?.bind k.table.ofExternal?).map Param.name

theorem keys_eq (read : Kind → Yaml → Build (Option Params)) (k : Kind)
    (all es : List (Yaml × Yaml)) :
    keys read k all [] es = (do return Entries.ofList (← gather (keyStep read k all) es)) := by
  refine loop_eq_gather (fun _ => rfl) (fun acc e es => ?_) [] es
  obtain ⟨key, v⟩ := e
  rw [keys, keyStep]
  cases key.text? with
  | none => simp only [bind_assoc, pure_bind, Option.elim_none]
  | some name =>
    dsimp only
    cases k.table.ofExternal? name with
    | none => simp only [bind_assoc, pure_bind, Option.elim_none]
    | some p =>
      simp only [bind_assoc, pure_bind]
      congr 1
      funext found
      cases found <;> rfl

theorem distinct_slots (k : Kind) (es : List (Yaml × Yaml)) (named : Yaml.Named es) :
    (es.filterMap (slot? k)).Nodup := by
  -- Different external names are those of different parameters.
  have external (e : Yaml × Yaml) (member : e ∈ es) (name : String) (found : slot? k e = some name) :
      ∃ p ∈ k.params, p.name = name ∧ scalarText? e.1 = some p.external := by
    obtain ⟨p, looked, rfl⟩ := Option.map_eq_some_iff.1 found
    obtain ⟨text, read, declared⟩ := Option.bind_eq_some_iff.1 looked
    obtain ⟨there, same⟩ := k.table.ofExternal?_external text p declared
    refine ⟨p, there, rfl, ?_⟩
    have scalar := named.scalars e member
    obtain ⟨key, v⟩ := e
    cases key with
    | str => rw [same]; exact read
    | seq | map | tagged => simp [Yaml.isScalar] at scalar
    | _ => simp [Yaml.text?, Yaml.untagged] at read
  have distinct := named.distinct
  rw [List.Nodup, List.pairwise_filterMap] at distinct ⊢
  refine distinct.imp_of_mem fun {e f} first second apart => ?_
  rintro name found name_ found_ rfl
  obtain ⟨p, there, named_, text⟩ := external e first name found
  obtain ⟨q, there_, named__, text_⟩ := external f second name found_
  obtain rfl : p = q :=
    List.inj_on_of_nodup_map k.nodup_names there there_ (named_.trans named__.symm)
  exact apart _ text _ text_ rfl

section

variable {read : Kind → Yaml → Build (Option Params)} (unordered : Unordered read) (k : Kind)

include unordered

theorem composed_keyStep (all : List (Yaml × Yaml)) (e : Yaml × Yaml) :
    Composed false (keyStep read k all e) := by
  unfold keyStep
  split
  · exact .bind _ _ (.report _) fun _ => .pure none
  · split
    · exact .bind _ _ (.within _ _ (.report _)) fun _ => .pure none
    · exact .bind _ _ (.within _ _ (composed_value read unordered.composed k _ _ _)) fun _ => .pure _

theorem settled_keyStep (all : List (Yaml × Yaml)) (e : Yaml × Yaml) :
    Settled (keyStep read k all e) := by
  have meets (c : Context) :
      Meets (Decoding c) (fun _ => False) (keyStep read k all e) fun _ => True := by
    unfold keyStep
    split
    · exact meets_report_none _ rfl _ trivial
    · split
      · exact Build.meets_bind (fun _ => True)
          (Build.meets_within _ (Build.meets_report _ rfl fun _ => trivial))
          fun _ _ => Build.meets_pure none trivial
      · next p _ =>
        have below := meets_value read (unordered.reads c) k all p e.2
        exact Build.meets_map (Build.meets_within _ below.forget)
  exact Build.settled_of_meets (composed_keyStep unordered k all e).any meets

omit unordered in
theorem name_keyStep (all : List (Yaml × Yaml)) (e : Yaml × Yaml) (c after : Context)
    (f : String × Param.Value) (done : (keyStep read k all e).run c = (.ok (some f), after)) :
    slot? k e = some f.1 := by
  unfold keyStep at done
  unfold slot?
  split at done
  · exact absurd done Build.not_some_of_none
  · next name text =>
    split at done
    · exact absurd done Build.not_some_of_none
    · next p declared =>
      obtain ⟨u, rfl⟩ := Build.some_of_option done
      rw [text, Option.bind_some, declared]
      rfl

theorem tallies_keyStep (es fs : List (Yaml × Yaml)) (h : Yaml.Reordered (.map es) (.map fs))
    (e g : Yaml × Yaml) (key : e.1 = g.1) (related : e.2.Reordered g.2) :
    Tallies (Option.Rel fun x y => x.1 = y.1 ∧ Param.Value.Reordered x.2 y.2) (keyStep read k es e)
      (keyStep read k fs g) := by
  unfold keyStep
  rw [key]
  split
  · exact Build.tallies_report_none _ _ rfl
  · split
    · exact Build.tallies_bind Eq (Build.tallies_within _ (Build.tallies_report _ _ rfl))
        fun _ _ _ => Build.tallies_pure .none
    · next p _ =>
      -- The key beside it that gives the shape may stand elsewhere; it is looked up all the same.
      rw [shapeAt_eq k es fs p h]
      have value_ := tallies_value unordered k p (shapeAt k fs p) e.2 g.2 related
      exact Build.tallies_option (Build.tallies_within _ value_) fun _ _ same => ⟨rfl, same⟩

theorem tallies_keys (es fs : List (Yaml × Yaml)) (h : Yaml.Reordered (.map es) (.map fs)) :
    Tallies Params.Reordered (keys read k es [] es) (keys read k fs [] fs) := by
  obtain ⟨named, gs, pairs, order⟩ := h.entries
  refine tallies_loop (keys_eq read k es) (keys_eq read k fs) (slot? k)
    (fun e c f after => name_keyStep k es e c after f) es gs fs (distinct_slots k es named) ?_ order
    (fun g _ => (composed_keyStep unordered k fs g).any) fun g _ => settled_keyStep unordered k fs g
  exact pairs.imp fun e g related =>
    tallies_keyStep unordered k es fs h e g related.1 related.2

theorem tallies_paramsWith (v w : Yaml) (h : v.Reordered w) :
    Tallies Params.Reordered (paramsWith read k v) (paramsWith read k w) := by
  cases h with
  | map es gs fs named keys_ values order =>
    exact tallies_keys unordered k es fs (.map es gs fs named keys_ values order)
  | seq | tagged => exact Build.tallies_abort _ _ rfl
  | scalar _ scalar =>
    cases v with
    | null => exact Build.tallies_pure .nil
    | seq | map | tagged => simp [Yaml.isScalar] at scalar
    | _ => exact Build.tallies_abort _ _ rfl

end

theorem scalarEntry_eq (k : Kind) (v w : Yaml) (h : v.Reordered w) :
    scalarEntry k v = scalarEntry k w := by
  unfold scalarEntry mismatch
  rw [h.scalarText?_eq, h.describe_eq]

theorem reordered_shorthand (text : String) (ps : Params) (read : shorthand text = .ok ps) :
    Params.Reordered ps ps := by
  have texts : (ps.map Prod.fst).Sublist ["rrdtype", "rrdmin", "rrdmax"] ∧
      ∀ e ∈ ps, e.2.child? = none := by
    unfold shorthand at read
    cases parts : Shorthand.read text with
    | error e => simp [parts, Except.map] at read
    | ok s =>
      rw [parts] at read
      obtain rfl := Except.ok.inj read
      rcases s with ⟨type, _ | least, _ | greatest⟩ <;> simp [Param.Value.child?]
  have distinct : Entries.Distinct ps := List.Nodup.sublist texts.1 (by decide)
  refine .of_pairs distinct (List.forall₂_same.2 fun e member => ?_) (.refl ps)
  exact ⟨rfl, .flat e.2 (texts.2 e member)⟩

theorem tallies_scalarEntry (k : Kind) (v : Yaml) :
    Tallies (Option.Rel Params.Reordered) (scalarEntry k v) (scalarEntry k v) := by
  unfold scalarEntry
  split
  · split
    · exact Build.tallies_report_none _ _ rfl
    · split
      · next ps read => exact Build.tallies_pure (.some (reordered_shorthand _ ps read))
      · exact Build.tallies_report_none _ _ rfl
  · exact Build.tallies_report_none _ _ rfl

theorem tallies_entryWith {read : Kind → Yaml → Build (Option Params)} (unordered : Unordered read)
    (k : Kind) (v w : Yaml) (h : v.Reordered w) :
    Tallies (Option.Rel Params.Reordered) (entryWith read k v) (entryWith read k w) := by
  have params := tallies_paramsWith unordered k v w h
  have whole : Tallies (Option.Rel Params.Reordered) (do return some (← paramsWith read k v))
      (do return some (← paramsWith read k w)) :=
    Build.tallies_map (params.mono fun _ _ related => .some related)
  have scalar : Tallies (Option.Rel Params.Reordered) (scalarEntry k v) (scalarEntry k w) :=
    scalarEntry_eq k v w h ▸ tallies_scalarEntry k v
  cases h with
  | map => exact whole
  | seq | tagged => exact scalar
  | scalar _ flat =>
    cases v with
    | null => exact whole
    | seq | map | tagged => simp [Yaml.isScalar] at flat
    | _ => exact scalar

theorem unordered_none : Unordered fun _ _ => return none :=
  ⟨fun _ _ => .pure none, fun _ _ _ => Build.meets_pure none (by simp), fun _ _ _ _ =>
    Build.tallies_pure .none⟩

theorem unordered_entryAt (depth : Nat) : Unordered (entryAt depth) := by
  refine ⟨composed_entryAt depth, fun start => meets_entryAt depth, ?_⟩
  induction depth with
  | zero => exact tallies_entryWith unordered_none
  | succ depth ih =>
    exact tallies_entryWith ⟨composed_entryAt depth, fun start => meets_entryAt depth, ih⟩

theorem tallies_params (k : Kind) (v w : Yaml) (h : v.Reordered w) :
    Tallies Params.Reordered (params k v) (params k w) := by
  have below : Unordered (entryBelow k.height) := by
    cases k.height with
    | zero => exact unordered_none
    | succ depth => exact unordered_entryAt depth
  exact tallies_paramsWith below k v w h

end Decode

end PackSpec
