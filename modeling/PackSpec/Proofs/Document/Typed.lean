import PackSpec.Document.Decode
import PackSpec.Proofs.Build.Invariant
import PackSpec.Proofs.Param.Every
import PackSpec.Proofs.Relationship.Rereading

set_option autoImplicit false

namespace PackSpec

def Node.Admitted (k : Kind) (ps : Params) : Prop :=
  ∀ e ∈ ps, ∃ p ∈ k.params, p.name = e.1 ∧ (p.shape.accept e.2).isSome = true

/-- What makes a value one that building never stops at. -/
def Param.Value.Sound : Param.Value → Prop
  | .relationship d => d.isOriented = true
  | .relationships ds => ∀ d ∈ ds, d.isOriented = true
  | .specs k cs => ∀ e ∈ cs, Node.Admitted k e.2
  | .groups k gs => ∀ g ∈ gs, ∀ e ∈ g.2, Node.Admitted k e.2
  | _ => True

structure Node.Typed (k : Kind) (ps : Params) : Prop where
  admitted : Node.Admitted k ps
  sound : ps.Every Param.Value.Sound

namespace Node

theorem typed_nil (k : Kind) : Typed k [] :=
  ⟨fun e member => by simp at member, Params.every_nil⟩

theorem typed_put (k : Kind) (ps : Params) (p : Param) (v : Param.Value) (typed : Typed k ps)
    (declared : p ∈ k.params) (accepted : (p.shape.accept v).isSome = true)
    (sound : v.Every Param.Value.Sound) : Typed k (Entries.put ps p.name v) := by
  refine ⟨?_, Params.every_put ps p.name v typed.sound sound⟩
  intro e member
  rcases Entries.mem_put ps p.name v e member with old | rfl
  · exact typed.admitted e old
  · exact ⟨p, declared, rfl, accepted⟩

theorem typed_fill (k : Kind) (own defaults : Params) (ownTyped : Typed k own)
    (defaultsTyped : Typed k defaults) : Typed k (Overlay.fill own defaults) := by
  refine ⟨?_, Params.every_fill own defaults ownTyped.sound defaultsTyped.sound⟩
  intro e member
  rcases List.mem_append.1 member with there | filled
  · exact ownTyped.admitted e there
  · exact defaultsTyped.admitted e (List.mem_filter.1 filled).1

theorem every_specs (k : Kind) (cs : Children) (typed : ∀ e ∈ cs, Typed k e.2) :
    (Param.Value.specs k cs).Every Param.Value.Sound := by
  refine .intro _ (fun e member => (typed e member).admitted) fun ps member => ?_
  obtain ⟨e, there, rfl⟩ := (Param.Value.mem_entries_specs k cs ps).1 member
  exact (typed e there).sound

theorem every_groups (k : Kind) (gs : Groups) (typed : ∀ g ∈ gs, ∀ e ∈ g.2, Typed k e.2) :
    (Param.Value.groups k gs).Every Param.Value.Sound := by
  refine .intro _ (fun g there e member => (typed g there e member).admitted) fun ps member => ?_
  obtain ⟨g, there, e, inside, rfl⟩ := (Param.Value.mem_entries_groups k gs ps).1 member
  exact (typed g there e inside).sound

end Node

namespace Param.Shape

theorem accept_null (s : Shape) : (s.accept .null).isSome = true := by
  cases s <;> rfl

end Param.Shape

namespace Decode

theorem every_untyped (v : Yaml) (w : Param.Value) (read : untyped? v = some w) :
    w.Every Param.Value.Sound := by
  unfold untyped? at read
  split at read
  · rw [← Option.some.inj read]
    exact .flat trivial rfl
  · next n =>
    rw [← Option.some.inj read]
    cases n.int64? <;> exact .flat trivial rfl
  · rw [← Option.some.inj read]
    exact .flat trivial rfl
  · rw [← Option.some.inj read]
    exact .flat trivial rfl
  · obtain ⟨_, _, rfl⟩ := Option.map_eq_some_iff.1 read
    exact .flat trivial rfl
  · simp at read

theorem typed_coerce (s : Param.Shape) (v : Yaml) (w : Param.Value) (read : coerce s v = some w) :
    (s.accept w).isSome = true ∧ w.Every Param.Value.Sound := by
  cases s with
  | bool =>
    cases v with
    | bool b =>
      rw [← Option.some.inj read]
      exact ⟨rfl, .flat trivial rfl⟩
    | str text =>
      simp only [coerce, Option.map_eq_some_iff] at read
      obtain ⟨_, _, rfl⟩ := read
      exact ⟨rfl, .flat trivial rfl⟩
    | _ => simp [coerce] at read
  | int | float | str | strs | classRef | classRefs | severity =>
    simp only [coerce, Option.map_eq_some_iff] at read
    obtain ⟨_, _, rfl⟩ := read
    exact ⟨rfl, .flat trivial rfl⟩
  | typedBy => exact ⟨rfl, every_untyped v w read⟩
  | _ => simp [coerce] at read

theorem shapeAt_cases (k : Kind) (es : List (Yaml × Yaml)) (p : Param) :
    shapeAt k es p = p.shape ∨ ∃ field, p.shape = .typedBy field := by
  unfold shapeAt
  split
  · next field shape => exact .inr ⟨field, shape⟩
  · exact .inl rfl

section

variable {start : Context} {ends : Diagnostic → Prop}

abbrev Decoding (start : Context) : Invariant := Build.recording start fun _ => True

open Build (Meets)

theorem meets_report_none {α : Type} (e : Problem) (recoverable : e.isRecoverable = true)
    (gives : Option α → Prop) (none_ : gives none) :
    Meets (Decoding start) ends (do Build.report e; return none) gives :=
  Build.meets_bind (fun _ => True) (Build.meets_report e recoverable fun _ => trivial) fun _ _ =>
    Build.meets_pure none none_

theorem meets_relationship (v : Yaml) :
    Meets (Decoding start) ends (relationship v) fun r => ∀ d ∈ r, d.isOriented = true := by
  unfold relationship
  split
  · exact meets_report_none _ rfl _ (by simp)
  · split
    · next d accepted =>
      apply Build.meets_pure
      intro e member
      obtain rfl := Option.some.inj member
      exact (Decl.ofText_ok _ _ accepted).1
    · next e refused =>
      exact Build.meets_bind (fun _ => True)
        (Build.meets_reportRelationship e (Decl.ofText_error _ e refused) fun _ => trivial)
        fun _ _ => Build.meets_pure none (by simp)

theorem oriented_append (d : Option Decl) (ds : List Decl) (first : ∀ e ∈ d, e.isOriented = true)
    (rest : ∀ e ∈ ds, e.isOriented = true) : ∀ e ∈ d.toList ++ ds, e.isOriented = true := by
  intro e member
  rcases List.mem_append.1 member with there | later
  · exact first e (by simpa using there)
  · exact rest e later

theorem meets_relationshipItems (i : Nat) (vs : List Yaml) :
    Meets (Decoding start) ends (relationshipItems i vs) fun ds => ∀ d ∈ ds, d.isOriented = true := by
  induction vs generalizing i with
  | nil => exact Build.meets_pure [] (by simp)
  | cons v vs ih =>
    refine Build.meets_bind _ (Build.meets_within _ (meets_relationship v)) fun d first => ?_
    apply Build.meets_map
    exact (ih (i + 1)).mono (fun _ ended => ended) fun ds rest => oriented_append d ds first rest

theorem meets_relationshipLines (i : Nat) (lines : List (List Char)) :
    Meets (Decoding start) ends (relationshipLines i lines) fun ds =>
      ∀ d ∈ ds, d.isOriented = true := by
  induction lines generalizing i with
  | nil => exact Build.meets_pure [] (by simp)
  | cons cs rest ih =>
    have rest_ (d : Option Decl) (first : ∀ e ∈ d, e.isOriented = true) :
        Meets (Decoding start) ends (do return d.toList ++ (← relationshipLines (i + 1) rest))
          fun ds => ∀ d ∈ ds, d.isOriented = true := by
      apply Build.meets_map
      exact (ih (i + 1)).mono (fun _ ended => ended) fun ds later => oriented_append d ds first later
    unfold relationshipLines
    dsimp only
    split
    · exact Build.meets_bind _ (Build.meets_pure none (by simp)) rest_
    · exact Build.meets_bind _ (Build.meets_within _ (meets_relationship _)) rest_

theorem meets_relationships (v : Yaml) :
    Meets (Decoding start) ends (relationships v) fun ds => ∀ d ∈ ds, d.isOriented = true := by
  unfold relationships
  split
  · exact meets_relationshipItems 0 _
  · split
    · exact meets_relationshipLines 0 _
    · apply Build.meets_map
      exact (meets_relationship _).mono (fun _ ended => ended) fun d oriented => by
        simpa using oriented
  · exact Build.meets_bind (fun _ => True) (Build.meets_report _ rfl fun _ => trivial)
      fun _ _ => Build.meets_pure [] (by simp)

theorem meets_mapping (v : Yaml) : Meets (Decoding start) ends (mapping v) fun _ => True := by
  unfold mapping
  split
  · exact Build.meets_pure _ trivial
  · exact meets_report_none _ rfl _ trivial

theorem typed_shorthand (text : String) (ps : Params) (read : shorthand text = .ok ps) :
    Node.Typed .datapoint ps := by
  have texts : ∀ e ∈ ps, e.1 ∈ ["rrdtype", "rrdmin", "rrdmax"] ∧ ∃ s, e.2 = .str s := by
    unfold shorthand at read
    cases parts : Shorthand.read text with
    | error e => simp [parts, Except.map] at read
    | ok s =>
      rw [parts] at read
      obtain rfl := Except.ok.inj read
      intro e member
      simp only [List.mem_append, List.mem_cons, Option.mem_toList, Option.map_eq_some_iff] at member
      rcases member with (rfl | ⟨_, _, rfl⟩) | ⟨_, _, rfl⟩
      · exact ⟨by simp, _, rfl⟩
      · exact ⟨by simp, _, rfl⟩
      · exact ⟨by simp, _, rfl⟩
  constructor
  · intro e member
    obtain ⟨named, s, same⟩ := texts e member
    have declared : ∀ name ∈ ["rrdtype", "rrdmin", "rrdmax"],
        ∃ p ∈ Kind.params .datapoint, p.name = name ∧ p.shape = .str := by decide
    obtain ⟨p, there, name, shape⟩ := declared e.1 named
    exact ⟨p, there, name, by rw [shape, same]; rfl⟩
  · intro e member
    obtain ⟨_, s, same⟩ := texts e member
    rw [same]
    exact .flat trivial rfl

theorem recoverable_shorthand (text : String) (e : Problem) (refused : shorthand text = .error e) :
    e.isRecoverable = true := by
  unfold shorthand Shorthand.read at refused
  split at refused
  · simp [Except.map] at refused
  · rw [← Except.error.inj refused]
    rfl

theorem meets_scalarEntry (k : Kind) (v : Yaml) :
    Meets (Decoding start) ends (scalarEntry k v) fun r => ∀ ps ∈ r, Node.Typed k ps := by
  unfold scalarEntry
  split
  · next shorthand_ =>
    obtain rfl : k = .datapoint := by simpa [Kind.hasShorthand] using shorthand_
    split
    · exact meets_report_none _ rfl _ (by simp)
    · split
      · next ps read =>
        apply Build.meets_pure
        intro qs member
        obtain rfl := Option.some.inj member
        exact typed_shorthand _ _ read
      · next e refused => exact meets_report_none e (recoverable_shorthand _ e refused) _ (by simp)
  · exact meets_report_none _ rfl _ (by simp)

theorem meets_badDefaults (es : List (Yaml × Yaml)) :
    Meets (Decoding start) ends (badDefaults es) fun _ => True := by
  unfold badDefaults
  split
  · exact Build.meets_pure _ trivial
  · exact Build.meets_bind _ (Build.meets_within _ (Build.meets_report _ rfl fun _ => trivial))
      fun _ _ => Build.meets_pure _ trivial

section

variable (k : Kind) (read : Yaml → Build (Option Params))
  (reads : ∀ v, Meets (Decoding start) ends (read v) fun r => ∀ ps ∈ r, Node.Typed k ps)

include reads

theorem meets_entries (skipDefaults : Bool) (acc : Children) (es : List (Yaml × Yaml))
    (typed : ∀ e ∈ acc, Node.Typed k e.2) :
    Meets (Decoding start) ends (entries read skipDefaults acc es) fun cs =>
      ∀ e ∈ cs, Node.Typed k e.2 := by
  induction es generalizing acc with
  | nil => exact Build.meets_pure acc typed
  | cons e es ih =>
    obtain ⟨key, v⟩ := e
    unfold entries
    split
    · exact Build.meets_bind (fun _ => True) (Build.meets_report _ rfl fun _ => trivial)
        fun _ _ => ih acc typed
    · next name _ =>
      split
      · exact ih acc typed
      · refine Build.meets_bind _ (Build.meets_within name (reads v)) fun r typed_ => ?_
        cases r with
        | none => exact ih acc typed
        | some ps =>
          apply ih
          intro e member
          rcases Entries.mem_put acc name ps e member with old | rfl
          · exact typed e old
          · exact typed_ ps rfl

theorem meets_collection (v : Yaml) :
    Meets (Decoding start) ends (collection read v) fun r => ∀ cs ∈ r, ∀ e ∈ cs, Node.Typed k e.2 := by
  refine Build.meets_bind (fun _ => True) (meets_mapping v) fun es _ => ?_
  cases es with
  | none => exact Build.meets_pure none (by simp)
  | some es =>
    refine Build.meets_bind (fun _ => True) (meets_badDefaults es) fun skip _ => ?_
    apply Build.meets_map
    refine (meets_entries k read reads skip [] es (by simp)).mono (fun _ ended => ended) ?_
    intro cs typed ds member
    obtain rfl := Option.some.inj member
    exact typed

end

theorem meets_groups (k : Kind) (read : Yaml → Build (Option Children))
    (reads : ∀ v, Meets (Decoding start) ends (read v) fun r => ∀ cs ∈ r, ∀ e ∈ cs, Node.Typed k e.2)
    (acc : Groups) (es : List (Yaml × Yaml)) (typed : ∀ g ∈ acc, ∀ e ∈ g.2, Node.Typed k e.2) :
    Meets (Decoding start) ends (groups read acc es) fun gs =>
      ∀ g ∈ gs, ∀ e ∈ g.2, Node.Typed k e.2 := by
  induction es generalizing acc with
  | nil => exact Build.meets_pure acc typed
  | cons e es ih =>
    obtain ⟨key, v⟩ := e
    unfold groups
    split
    · exact Build.meets_bind (fun _ => True) (Build.meets_report _ rfl fun _ => trivial)
        fun _ _ => ih acc typed
    · next name _ =>
      refine Build.meets_bind _ (Build.meets_within name (reads v)) fun r typed_ => ?_
      cases r with
      | none => exact ih acc typed
      | some cs =>
        apply ih
        intro g member
        rcases Entries.mem_put acc name cs g member with old | rfl
        · exact typed g old
        · exact typed_ cs rfl

section

variable (read : Kind → Yaml → Build (Option Params))
  (reads : ∀ k v, Meets (Decoding start) ends (read k v) fun r => ∀ ps ∈ r, Node.Typed k ps)

include reads

theorem meets_value (k : Kind) (all : List (Yaml × Yaml)) (p : Param) (v : Yaml) :
    Meets (Decoding start) ends (value read k p (shapeAt k all p) v) fun r =>
      ∀ w ∈ r, (p.shape.accept w).isSome = true ∧ w.Every Param.Value.Sound := by
  -- Whatever shape the value is read by, it is accepted at the parameter.
  have accepts (s : Param.Shape) (w : Param.Value) (same : shapeAt k all p = s)
      (accepted : (s.accept w).isSome = true) : (p.shape.accept w).isSome = true := by
    rcases shapeAt_cases k all p with declared | ⟨field, typedBy⟩
    · rw [← declared, same]
      exact accepted
    · rw [typedBy]
      rfl
  unfold value
  split
  · apply Build.meets_pure
    intro w member
    obtain rfl := Option.some.inj member
    exact ⟨p.shape.accept_null, .flat trivial rfl⟩
  · split
    · next child shape =>
      apply Build.meets_map
      refine (meets_collection child (read child) (reads child) v).mono (fun _ ended => ended) ?_
      intro r typed w member
      obtain ⟨cs, there, rfl⟩ := Option.map_eq_some_iff.1 member
      exact ⟨accepts _ _ shape (by simp [Param.Shape.accept]),
        Node.every_specs child cs (typed cs there)⟩
    · next child shape =>
      refine Build.meets_bind (fun _ => True) (meets_mapping v) fun es _ => ?_
      cases es with
      | none => exact Build.meets_pure none (by simp)
      | some es =>
        apply Build.meets_map
        refine (meets_groups child _ (meets_collection child (read child) (reads child)) [] es
          (by simp)).mono (fun _ ended => ended) ?_
        intro gs typed w member
        obtain rfl := Option.some.inj member
        exact ⟨accepts _ _ shape (by simp [Param.Shape.accept]), Node.every_groups child gs typed⟩
    · next shape =>
      apply Build.meets_map
      refine (meets_mapping v).mono (fun _ ended => ended) fun r _ w member => ?_
      obtain ⟨es, _, rfl⟩ := Option.map_eq_some_iff.1 member
      exact ⟨accepts _ _ shape rfl, .flat trivial rfl⟩
    · next shape =>
      apply Build.meets_map
      refine (meets_relationship v).mono (fun _ ended => ended) fun r oriented w member => ?_
      obtain ⟨d, there, rfl⟩ := Option.map_eq_some_iff.1 member
      exact ⟨accepts _ _ shape rfl, .flat (oriented d there) rfl⟩
    · next shape =>
      apply Build.meets_map
      refine (meets_relationships v).mono (fun _ ended => ended) fun ds oriented w member => ?_
      obtain rfl := Option.some.inj member
      exact ⟨accepts _ _ shape rfl, .flat oriented rfl⟩
    · split
      · next w coerced =>
        apply Build.meets_pure
        intro u member
        obtain rfl := Option.some.inj member
        obtain ⟨accepted, sound⟩ := typed_coerce _ v w coerced
        exact ⟨accepts _ w rfl accepted, sound⟩
      · exact meets_report_none _ rfl _ (by simp)

theorem meets_keys (k : Kind) (all : List (Yaml × Yaml)) (acc : Params) (es : List (Yaml × Yaml))
    (typed : Node.Typed k acc) :
    Meets (Decoding start) ends (keys read k all acc es) (Node.Typed k) := by
  induction es generalizing acc with
  | nil => exact Build.meets_pure acc typed
  | cons e es ih =>
    obtain ⟨key, v⟩ := e
    unfold keys
    split
    · exact Build.meets_bind (fun _ => True) (Build.meets_report _ rfl fun _ => trivial)
        fun _ _ => ih acc typed
    · next name _ =>
      split
      · exact Build.meets_bind (fun _ => True)
          (Build.meets_within name (Build.meets_report _ rfl fun _ => trivial))
          fun _ _ => ih acc typed
      · next p declared =>
        refine Build.meets_bind _ (Build.meets_within name (meets_value read reads k all p v))
          fun r read_ => ?_
        cases r with
        | none => exact ih acc typed
        | some w =>
          obtain ⟨accepted, sound⟩ := read_ w rfl
          exact ih _ (Node.typed_put k acc p w typed
            (k.table.ofExternal?_external name p declared).1 accepted sound)

theorem meets_paramsWith (k : Kind) (v : Yaml) (mapping : v = .null ∨ ∃ es, v = .map es) :
    Meets (Decoding start) ends (paramsWith read k v) (Node.Typed k) := by
  rcases mapping with rfl | ⟨es, rfl⟩
  · exact Build.meets_pure [] (Node.typed_nil k)
  · exact meets_keys read reads k es [] es (Node.typed_nil k)

theorem meets_entryWith (k : Kind) (v : Yaml) :
    Meets (Decoding start) ends (entryWith read k v) fun r => ∀ ps ∈ r, Node.Typed k ps := by
  have mapping (v : Yaml) (mapping : v = .null ∨ ∃ es, v = .map es) :
      Meets (Decoding start) ends (do return some (← paramsWith read k v))
        fun r => ∀ ps ∈ r, Node.Typed k ps := by
    apply Build.meets_map
    refine (meets_paramsWith read reads k v mapping).mono (fun _ ended => ended) ?_
    intro ps typed qs member
    obtain rfl := Option.some.inj member
    exact typed
  unfold entryWith
  split
  · exact mapping .null (.inl rfl)
  · exact mapping _ (.inr ⟨_, rfl⟩)
  · exact meets_scalarEntry k v

end

theorem meets_entryAt (depth : Nat) (k : Kind) (v : Yaml) :
    Meets (Decoding start) ends (entryAt depth k v) fun r => ∀ ps ∈ r, Node.Typed k ps := by
  induction depth generalizing k v with
  | zero => exact meets_entryWith _ (fun _ _ => Build.meets_pure none (by simp)) k v
  | succ depth ih => exact meets_entryWith _ ih k v

theorem meets_params (k : Kind) (v : Yaml) (mapping : v = .null ∨ ∃ es, v = .map es) :
    Meets (Decoding start) ends (params k v) (Node.Typed k) := by
  refine meets_paramsWith _ ?_ k v mapping
  intro child v
  cases k.height with
  | zero => exact Build.meets_pure none (by simp)
  | succ depth => exact meets_entryAt depth child v

end

end Decode

end PackSpec
