import PackSpec.Proofs.Param.Declared

set_option autoImplicit false

namespace PackSpec

namespace Param.Default

inductive Fits : Default → Shape → Prop
  | required (s : Shape) : Fits .required s
  | empty (s : Shape) : Fits .empty s
  | bool (b : Bool) : Fits (.bool b) .bool
  | int (n : Int64) : Fits (.int n) .int
  | number (n : Int64) : Fits (.int n) .float
  | float (x : Decimal.Binary64) : Fits (.float x) .float
  | str (text : String) : Fits (.str text) .str
  | typed (text field : String) : Fits (.str text) (.typedBy field)
  | strs (texts : List String) : Fits (.strs texts) .strs
  | classRefs (tokens : List String) : Fits (.classRefs tokens) .classRefs

theorem fits_iff (d : Default) (s : Shape) : d.fits s = true ↔ d.Fits s := by
  constructor
  · intro fits
    cases d with
    | required => exact .required s
    | empty => exact .empty s
    | _ => cases s <;> first | constructor | cases fits
  · rintro ⟨⟩ <;> rfl

end Param.Default

/-- No name stands for two parameters, every default fits its parameter, and the parameter that
gives the type of another is a string. -/
structure Consistent (ps : List Param) : Prop where
  names : (ps.map Param.name).Nodup
  externals : (ps.map Param.external).Nodup
  defaults : ∀ p ∈ ps, p.default.Fits p.shape
  types : ∀ p ∈ ps, ∀ field, p.shape = .typedBy field → ∃ q ∈ ps, q.name = field ∧ q.shape = .str

namespace Places

theorem nodup_snoc (key : Param → String) (before : List Param) (p : Param)
    (distinct : (before.map key).Nodup) (fresh : key p ∉ before.map key) :
    ((before ++ [p]).map key).Nodup := by
  rw [List.map_append, List.map_singleton]
  exact List.nodup_append.2 ⟨distinct, List.nodup_singleton _, by simpa using fresh⟩

theorem fresh_of_nodup (key : Param → String) (before rest : List Param) (p : Param)
    (distinct : ((before ++ p :: rest).map key).Nodup) : key p ∉ before.map key := by
  rw [List.map_append, List.map_cons] at distinct
  exact fun old => (List.nodup_append.1 distinct).2.2 _ old _ (List.mem_cons_self ..) rfl

theorem enterAll_iff (before ps : List Param) (names : (before.map Param.name).Nodup)
    (externals : (before.map Param.external).Nodup) :
    (∃ places, enterAll (of before) before.length ps = .ok places) ↔
      ((before ++ ps).map Param.name).Nodup ∧ ((before ++ ps).map Param.external).Nodup ∧
        ∀ p ∈ ps, p.default.fits p.shape = true := by
  induction ps generalizing before with
  | nil => simp [enterAll, names, externals]
  | cons p rest ih =>
    cases entered : enter (of before) before.length p with
    | error reason =>
      have refused : ¬(p.name ∉ before.map Param.name ∧ p.external ∉ before.map Param.external ∧
          p.default.fits p.shape = true) := fun free => by
        rw [(enter_eq_ok_iff before p _).2 ⟨free, rfl⟩] at entered
        cases entered
      constructor
      · rintro ⟨places, made⟩
        rw [enterAll, entered] at made
        cases made
      · rintro ⟨names_, externals_, fits⟩
        exact absurd ⟨fresh_of_nodup _ before rest p names_, fresh_of_nodup _ before rest p externals_,
          fits p (List.mem_cons_self ..)⟩ refused
    | ok more =>
      obtain ⟨⟨name, external, fits⟩, rfl⟩ := (enter_eq_ok_iff before p more).1 entered
      have later := ih (before ++ [p]) (nodup_snoc _ before p names name)
        (nodup_snoc _ before p externals external)
      rw [List.length_append, List.append_assoc] at later
      simp only [enterAll, entered]
      rw [List.forall_mem_cons, and_iff_right fits]
      exact later

end Places

namespace Table

theorem typeFault_eq_none_iff (ps : List Param) (p : Param) (distinct : (ps.map Param.name).Nodup) :
    typeFault ps (.of ps) p = none ↔
      ∀ field, p.shape = .typedBy field → ∃ q ∈ ps, q.name = field ∧ q.shape = .str := by
  cases shape : p.shape with
  | typedBy field =>
    have found : ((Entries.get? (Places.of ps).names field).bind fun place => ps[place]?) =
        ps.find? fun q => q.name == field := at_place Param.name ps field
    simp only [typeFault, shape, found]
    cases there : ps.find? fun q => q.name == field with
    | none =>
      have absent := List.find?_eq_none.1 there
      simp only [reduceCtorEq, false_iff]
      intro given_
      obtain ⟨q, member, name, _⟩ := given_ field rfl
      exact absent q member (by simpa using name)
    | some q =>
      have member := List.mem_of_find?_eq_some there
      have name : q.name = field := by simpa using List.find?_some there
      simp only [ite_eq_left_iff, reduceCtorEq, imp_false, not_not]
      constructor
      · rintro str _ ⟨⟩
        exact ⟨q, member, name, str⟩
      · intro given_
        obtain ⟨r, member_, name_, str⟩ := given_ field rfl
        obtain rfl := List.inj_on_of_nodup_map distinct member member_ (name.trans name_.symm)
        exact str
  | _ => simp [typeFault, shape]

theorem ofParams_cases (kind : Kind) (ps : List Param) :
    (∃ t, ofParams kind ps = .ok t ∧ t.kind = kind ∧ t.params = ps ∧ Consistent ps) ∨
      ∃ reason, ofParams kind ps = .error (.configuration kind.title reason) ∧ ¬ Consistent ps := by
  have taken := Places.enterAll_iff [] ps List.nodup_nil List.nodup_nil
  have typed (distinct : (ps.map Param.name).Nodup) : ps.findSome? (typeFault ps (.of ps)) = none ↔
      ∀ p ∈ ps, ∀ field, p.shape = .typedBy field → ∃ q ∈ ps, q.name = field ∧ q.shape = .str := by
    simp only [List.findSome?_eq_none_iff, typeFault_eq_none_iff ps _ distinct]
  unfold ofParams
  split
  · next reason refused =>
    refine .inr ⟨reason, rfl, fun consistent => ?_⟩
    obtain ⟨places, entered⟩ := taken.2 ⟨consistent.names, consistent.externals,
      fun p member => (Param.Default.fits_iff _ _).2 (consistent.defaults p member)⟩
    exact absurd (entered.symm.trans refused) (by simp)
  · next places entered =>
    obtain ⟨names, externals, fits⟩ := taken.1 ⟨places, entered⟩
    obtain rfl := Places.enterAll_ok [] ps places entered
    split
    · next reason fault =>
      refine .inr ⟨reason, rfl, fun consistent => ?_⟩
      exact absurd (((typed names).2 consistent.types).symm.trans fault) (by simp)
    · next sound =>
      have defaults (p : Param) (member : p ∈ ps) : p.default.Fits p.shape :=
        (Param.Default.fits_iff _ _).1 (fits p member)
      exact .inl ⟨_, rfl, rfl, rfl, names, externals, defaults, (typed names).1 sound⟩

def Finds (look : String → Option Param) (key : Param → String) (ps : List Param) : Prop :=
  ∀ name, (∀ p, look name = some p ↔ p ∈ ps ∧ key p = name) ∧
    (look name = none ↔ ∀ p ∈ ps, key p ≠ name)

theorem finds_of_nodup (look : String → Option Param) (key : Param → String) (ps : List Param)
    (looks : ∀ name, look name = ps.find? fun p => key p == name) (distinct : (ps.map key).Nodup) :
    Finds look key ps := by
  refine fun name => ⟨fun p => ⟨fun found => ?_, ?_⟩, ?_⟩
  · rw [looks] at found
    exact ⟨List.mem_of_find?_eq_some found, by simpa using List.find?_some found⟩
  · rintro ⟨member, rfl⟩
    rw [looks]
    exact find?_of_nodup key ps p distinct member
  · rw [looks, List.find?_eq_none]
    simp

/-- There is a table of parameters exactly if they are consistent. It holds them as they were given,
finds each by its name and by its external name, and either name leads to the other. Any others are
refused as a fault of the configuration. -/
theorem accepts_consistent (kind : Kind) (ps : List Param) :
    ((∃ t, ofParams kind ps = .ok t) ↔ Consistent ps) ∧
    match ofParams kind ps with
    | .ok t => t.kind = kind ∧ t.params = ps ∧
        Finds t.get? Param.name ps ∧ Finds t.ofExternal? Param.external ps ∧
        (∀ name p, t.get? name = some p → t.ofExternal? p.external = some p) ∧
        ∀ external p, t.ofExternal? external = some p → t.get? p.name = some p
    | .error e => ∃ reason, e = .configuration kind.title reason := by
  obtain ⟨t, made, here, rfl, consistent⟩ | ⟨reason, refused, faulty⟩ := ofParams_cases kind ps
  · have named := finds_of_nodup t.get? Param.name t.params t.get?_eq_find? consistent.names
    have external :=
      finds_of_nodup t.ofExternal? Param.external t.params t.ofExternal?_eq_find? consistent.externals
    rw [made]
    refine ⟨⟨fun _ => consistent, fun _ => ⟨t, rfl⟩⟩, here, rfl, named, external, ?_, ?_⟩
    · intro name p found
      exact ((external p.external).1 p).2 ⟨(((named name).1 p).1 found).1, rfl⟩
    · intro name p found
      exact ((named p.name).1 p).2 ⟨(((external name).1 p).1 found).1, rfl⟩
  · rw [refused]
    exact ⟨⟨fun ⟨_, made⟩ => (by cases made), fun consistent => absurd consistent faulty⟩, reason, rfl⟩

-- Names may cross: one parameter has the name that another has in documents.
example :
    let p := (Param.of "kind" .str).called "type"
    let q := (Param.of "type" (.typedBy "kind")).called "kind"
    (ofParams .zProperty [q, p]).toOption.map (fun t => (t.get? "kind", t.ofExternal? "kind")) =
      some (some p, some q) := by
  decide +kernel

end Table

theorem Kind.consistent (k : Kind) : Consistent k.params := by
  obtain ⟨_, _, _, _, consistent⟩ | ⟨reason, refused, _⟩ := Table.ofParams_cases k k.params
  · exact consistent
  · rw [k.ofParams_params] at refused
    cases refused

end PackSpec
