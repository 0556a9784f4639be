import PackSpec.Proofs.Document.Typed
import PackSpec.Proofs.Node.Building

set_option autoImplicit false

namespace PackSpec

def Diagnostic.IsCoercion (d : Diagnostic) : Prop :=
  d.level = .error ∧ ∃ subject param expected value,
    d.error = .typeCoercion subject param expected value

namespace Node

theorem defaultValue_isSome (k : Kind) (p : Param) (member : p ∈ k.params)
    (below : k ≠ .zenPack ∨ p.name ≠ "name") : p.defaultValue.isSome = true := by
  revert p
  cases k <;> decide

theorem reads_of_admitted (k : Kind) (params : Params) (p : Param) (member : p ∈ k.params)
    (admitted : Admitted k params)
    (given_ : p.defaultValue.isSome = true ∨ (Params.value params p.name).isNull = false) :
    ∃ v, p.reading k (Entries.get? params p.name) = .ok v := by
  have defaulted (optional : p.defaultValue.isSome = true) (found : Option Param.Value)
      (missing : p.settled found = p.defaultValue) : ∃ v, p.reading k found = .ok v := by
    obtain ⟨d, value⟩ := Option.isSome_iff_exists.1 optional
    have accepted := p.accept_defaultValue d (k.fits_defaults p member) value
    exact ⟨d, by rw [Param.reading, missing, value]; simp only [accepted]⟩
  cases found : Entries.get? params p.name with
  | none =>
    refine defaulted (given_.resolve_right fun present => ?_) none rfl
    simp [Params.value, found, Param.Value.isNull] at present
  | some v =>
    by_cases null : v = .null
    · subst null
      refine defaulted (given_.resolve_right fun present => ?_) (some .null) rfl
      simp [Params.value, found, Param.Value.isNull] at present
    · obtain ⟨q, there, name, accepted⟩ :=
        admitted (p.name, v) (Entries.mem_of_get? params p.name v found)
      obtain rfl : q = p := by
        have one := k.get?_table q there
        rw [name, k.get?_table p member] at one
        exact (Option.some.inj one).symm
      obtain ⟨w, made⟩ := Option.isSome_iff_exists.1 accepted
      exact ⟨w, by rw [Param.reading, q.settled_some v null]; simp only [made]⟩

theorem declared_of_admitted (k : Kind) (params : Params) (admitted : Admitted k params) :
    Declared k params := by
  intro e member
  obtain ⟨p, there, name, _⟩ := admitted e member
  exact ⟨p, there, name⟩

theorem typed_entries (k : Kind) (params : Params) (p : Param) (child : Kind)
    (typed : Typed k params) (collection : p.shape.child? = some child)
    (readable : ∃ v, p.reading k (Entries.get? params p.name) = .ok v) (ps : Params)
    (member : ps ∈ (p.read k (Entries.get? params p.name)).entries) : Typed child ps := by
  have kind := p.child?_read k _ child readable collection
  have every : (p.read k (Entries.get? params p.name)).Every Param.Value.Sound :=
    Params.every_get? params p.name _ typed.sound (p.found_of_entries k _ ps member)
  refine ⟨?_, every.inside ps member⟩
  have here := every.here
  generalize p.read k (Entries.get? params p.name) = v at kind here member
  cases v with
  | specs found cs =>
    obtain rfl := Option.some.inj kind
    obtain ⟨e, there, rfl⟩ := (Param.Value.mem_entries_specs found cs ps).1 member
    exact here e there
  | groups found gs =>
    obtain rfl := Option.some.inj kind
    obtain ⟨g, there, e, inside, rfl⟩ := (Param.Value.mem_entries_groups found gs ps).1 member
    exact here g there e inside
  | _ => simp [Param.Value.child?] at kind

theorem check_error (k : Kind) (name : String) (ps : Params) (e : Problem)
    (refused : check k name ps = .error e) :
    ∃ subject param expected value, e = .typeCoercion subject param expected value := by
  have oneOf (param value : String) (allowed : List String)
      (refused : ensureOneOf name param value allowed = .error e) :
      ∃ subject param expected value, e = .typeCoercion subject param expected value := by
    unfold ensureOneOf at refused
    split at refused
    · simp at refused
    · exact ⟨_, _, _, _, (Except.error.inj refused).symm⟩
  unfold check at refused
  split at refused
  · unfold typeDefault at refused
    dsimp only at refused
    split at refused
    · simp at refused
    · exact ⟨_, _, _, _, (Except.error.inj refused).symm⟩
  · simp only [checkProperty, bind, Except.bind] at refused
    split at refused
    · next first =>
      obtain rfl := Except.error.inj refused
      exact oneOf _ _ _ first
    · split at refused
      · next second =>
        obtain rfl := Except.error.inj refused
        exact oneOf _ _ _ second
      · simp [pure, Except.pure] at refused
  · simp at refused

variable {start : Context}

abbrev Building (start : Context) : Invariant := Build.recording start Diagnostic.IsCoercion

open Build (Meets)

theorem meets_handle_coercion (d : Diagnostic) (coercion : d.IsCoercion) :
    Meets (Building start) (fun _ => False) (Build.handle d) fun _ => True := by
  obtain ⟨_, _, _, _, _, same⟩ := id coercion
  exact Build.meets_handle d (by rw [same]; rfl) coercion

theorem meets_check (k : Kind) (name : String) (ps : Params) :
    Meets (Building start) Diagnostic.IsCoercion (Build.ofExcept (check k name ps))
      fun _ => True := by
  refine Build.meets_ofExcept _ (fun _ _ => trivial) fun e l refused => ?_
  exact ⟨rfl, check_error k name ps e refused⟩

theorem meets_readAll {ends : Diagnostic → Prop} (k : Kind) (params : Params)
    (readable : Readable k params) (declared : Declared k params) :
    Meets (Building start) ends (readAll k params) fun read =>
      read = values k params ∧ Readable k params := by
  intro c held
  rw [run_readAll k params c readable declared]
  exact ⟨held, rfl, readable⟩

theorem meets_typed_value {build : Kind → String → Params → Build Params} (k : Kind)
    (params : Params) (p : Param) (member : p ∈ k.params) (typed : Typed k params)
    (readable : Readable k params)
    (builds : ∀ child name ps, child ≠ .zenPack → Typed child ps →
      Meets (Building start) Diagnostic.IsCoercion (build child name ps) fun _ => True) :
    Meets (Building start) (fun _ => False)
      (buildValue build p (p.read k (Entries.get? params p.name)))
      (BuiltFrom (fun _ _ => True) start.keepsDefaults p
        (p.read k (Entries.get? params p.name))) := by
  refine meets_buildValue meets_handle_coercion
    (fun k own defaults => typed_fill k own defaults) p _ ?_ ?_ ?_
  · intro child collection name ps typed_
    have below : child ≠ .zenPack := fun same =>
      child?_ne_zenPack k p member (same ▸ collection)
    exact builds child name ps below typed_
  · exact fun child collection => p.child?_read k _ child (readable p member) collection
  · exact fun child collection ps inside =>
      typed_entries k params p child typed collection (readable p member) ps inside

theorem readable_of_typed (k : Kind) (params : Params) (typed : Typed k params)
    (named : k ≠ .zenPack ∨ (Params.value params "name").isNull = false) : Readable k params := by
  intro p member
  refine reads_of_admitted k params p member typed.admitted ?_
  rcases named with below | present
  · exact .inl (defaultValue_isSome k p member (.inl below))
  · by_cases same : p.name = "name"
    · exact .inr (by rw [same]; exact present)
    · exact .inl (defaultValue_isSome k p member (.inr same))

theorem meets_typed_entry {build : Kind → String → Params → Build Params} (k : Kind) (name : String)
    (params : Params) (below : k ≠ .zenPack) (typed : Typed k params)
    (builds : ∀ child name ps, child ≠ .zenPack → Typed child ps →
      Meets (Building start) Diagnostic.IsCoercion (build child name ps) fun _ => True) :
    Meets (Building start) Diagnostic.IsCoercion (buildWith build k name params) fun _ => True := by
  have readable := readable_of_typed k params typed (.inl below)
  refine meets_buildWith
    (meets_readAll k params readable (declared_of_admitted k params typed.admitted)) ?_
    (fun _ p member => (meets_typed_value k params p member typed readable builds).mono
      (fun _ => False.elim) fun _ made => made) fun _ out _ => meets_check k name out
  intro _
  cases k with
  | zenPack => exact absurd rfl below
  | _ => exact Build.meets_pure () trivial

theorem meets_buildAt (depth : Nat) (k : Kind) (name : String) (params : Params)
    (below : k ≠ .zenPack) (typed : Typed k params) :
    Meets (Building start) Diagnostic.IsCoercion (buildAt depth k name params) fun _ => True := by
  induction depth generalizing k name params with
  | zero =>
    exact meets_typed_entry k name params below typed fun _ _ _ _ _ => Build.meets_pure [] trivial
  | succ depth ih => exact meets_typed_entry k name params below typed ih

theorem oriented_read (params : Params) (typed : Typed .zenPack params)
    (readable : Readable .zenPack params) (d : Decl) (ds : List Decl)
    (read : relationshipsParam.read .zenPack (Entries.get? params "class_relationships") =
      .relationships ds)
    (member : d ∈ ds) : d.isOriented = true := by
  obtain ⟨w, reads⟩ := readable relationshipsParam (by decide)
  have same := (relationshipsParam.read_of_reading .zenPack _ w reads).symm.trans read
  obtain ⟨v, settled, accepted⟩ := relationshipsParam.reading_ok .zenPack _ w reads
  rw [same] at accepted
  -- Nothing is read from no relationships, whether they are left out or null.
  have nothing (given_ : v = .relationships []) : d.isOriented = true := by
    rw [given_] at accepted
    have empty := Param.Value.relationships.inj (Option.some.inj accepted)
    simp [← empty] at member
  cases found : Entries.get? params relationshipsParam.name with
  | none =>
    rw [found] at settled
    exact nothing (Option.some.inj settled).symm
  | some u =>
    rw [found] at settled
    by_cases null : u = .null
    · rw [null] at settled
      exact nothing (Option.some.inj settled).symm
    · rw [relationshipsParam.settled_some u null] at settled
      obtain rfl := Option.some.inj settled
      have sound := (Params.every_get? params _ u typed.sound found).here
      cases u with
      | relationships ds_ =>
        obtain rfl := Param.Value.relationships.inj (Option.some.inj accepted)
        exact sound d member
      | relationship e =>
        obtain rfl := Param.Value.relationships.inj (Option.some.inj accepted)
        rw [List.mem_singleton.1 member]
        exact sound
      | null => exact absurd rfl null
      | _ => simp [relationshipsParam, Param.of, Param.Shape.accept] at accepted

theorem run_root (params : Params) (c : Context) (lenient : c.diagnostics.mode = .lenient)
    (typed : Typed .zenPack params) (named : (Params.value params "name").isNull = false) :
    ∃ root after, (buildParams .zenPack "" params).run c = (.ok root, after) ∧
      after.ns = Params.str root "name" ∧
      (∀ d ∈ Params.relationships root "class_relationships", d.isOriented = true) ∧
      ∃ new, after.diagnostics.items = c.diagnostics.items ++ new ∧ ∀ d ∈ new, d.IsCoercion := by
  have readable := readable_of_typed .zenPack params typed (.inr named)
  have declared := declared_of_admitted .zenPack params typed.admitted
  let c_ : Context := { c with ns := Params.str (values .zenPack params) "name" }
  have builds : Build.Meets (Building c_) (fun _ => False)
      (buildValues (buildAt 3) (values .zenPack params) (Kind.params .zenPack)) fun out =>
        List.Forall₂ (fun p e => e.1 = p.name ∧ BuiltFrom (fun _ _ => True) c.keepsDefaults p
          (p.read .zenPack (Entries.get? params p.name)) e.2) (Kind.params .zenPack) out := by
    refine meets_buildValues _ _ fun p member => ?_
    rw [value_values .zenPack params p member]
    exact meets_typed_value .zenPack params p member typed readable (meets_buildAt 3)
  have ran := builds c_ (Build.holds_start lenient)
  have run := run_buildParams_root params c readable declared
  generalize (buildValues (buildAt 3) (values .zenPack params) (Kind.params .zenPack)).run c_ =
    result at ran run
  rcases result with ⟨d | root, after⟩
  · exact ran.2.elim
  · obtain ⟨⟨_, ns, _, new, items, coercions⟩, made⟩ := ran
    have flat (p : Param) (member : p ∈ Kind.params .zenPack) (flat : p.shape.child? = none) :
        Params.value root p.name = p.read .zenPack (Entries.get? params p.name) :=
      builtFrom_flat _ _ p _ _ flat
        (value_of_forall₂ _ root made (Kind.nodup_names .zenPack) p member).2
    refine ⟨root, after, run, ns.trans (name_of_made params root made), ?_, new, items, coercions⟩
    · intro d member
      have same := flat relationshipsParam (by decide) rfl
      unfold Params.relationships at member
      split at member
      · next ds value =>
        exact oriented_read params typed readable d ds (same.symm.trans value) member
      · simp at member

theorem run_root_nameless (params : Params) (c : Context)
    (nameless : (Params.value params "name").isNull = true) :
    (buildParams .zenPack "" params).run c =
      (.error ⟨.error, c.diagnostics.locate c.location, nameParam.missing .zenPack⟩, c) := by
  have missing : nameParam.reading .zenPack (Entries.get? params nameParam.name) =
      .error (nameParam.missing .zenPack) := by
    have settled : nameParam.settled (Entries.get? params nameParam.name) = none := by
      cases found : Entries.get? params nameParam.name with
      | none => rfl
      | some v =>
        have named : Entries.get? params "name" = some v := found
        rw [Params.value, named] at nameless
        cases v with
        | null => rfl
        | _ => simp [Param.Value.isNull] at nameless
    rw [Param.reading, settled]
  -- The name is the first parameter that is read.
  have outcome := Reader.outcome_mapM_cons .zenPack (Reader.ofKind .zenPack params) nameParam
    (Kind.params .zenPack).tail rfl (by decide)
  have order : readingOrder .zenPack = nameParam :: (Kind.params .zenPack).tail := rfl
  have read : Reader.outcome ((readingOrder .zenPack).mapM Reader.named)
      (Reader.ofKind .zenPack params) =
      (.error (nameParam.missing .zenPack), (Reader.ofKind .zenPack params).without "name") := by
    rw [order, outcome]
    have found : (Reader.ofKind .zenPack params).params = params := rfl
    rw [found, missing]
    rfl
  have opened : buildParams .zenPack "" params = buildWith (buildAt 3) .zenPack "" params := rfl
  rw [opened, buildWith, Build.run_bind, run_readAll_eq, read]
  rfl

end Node

end PackSpec
