import PackSpec.Proofs.Document.Refilled

set_option autoImplicit false

namespace PackSpec

namespace Document

open Build (Yields)
open Node (Restores Restoring)

theorem accept_of_holds (s : Param.Shape) (v : Param.Value) (held : s.holds v = true) :
    s.accept v = some v := by
  cases s <;> cases v <;> simp_all [Param.Shape.holds, Param.Shape.accept]

section

variable {keeps : Bool} {build : Kind → String → Params → Build Params} {k : Kind} {p : Param}

theorem reading_of_holds (r : Param.Value) (held : p.shape.holds r = true) :
    p.reading k (some r) = .ok r := by
  have filled : r ≠ .null := by
    rintro rfl
    cases shape : p.shape <;> simp_all [Param.Shape.holds]
  rw [Param.reading, p.settled_some r filled]
  simp only [accept_of_holds p.shape r held]

theorem restores_flat (r v : Param.Value) (held : p.shape.holds r = true)
    (flat : p.shape.child? = none) (restored : r.Restored v) :
    Restores keeps build k p (some r) v := by
  refine ⟨r, reading_of_holds r held, r, ?_, restored⟩
  unfold Node.buildValue
  cases shape : p.shape with
  | specs | groups => simp [shape, Param.Shape.child?] at flat
  | _ => exact Build.yields_pure r

theorem restores_null (member : p ∈ k.params) (v : Param.Value) (null : v = .null)
    (fits : p.Fits v) : Restores keeps build k p (some .null) v := by
  subst null
  have default : p.defaultValue = some .null := by
    rcases fits with ⟨_, given_⟩ | held
    · exact given_
    · cases shape : p.shape <;> simp [shape, Param.Shape.holds] at held
  have again : Restores keeps build k p none .null :=
    Node.restores_default build k p member .null .null default (by simp [Param.Value.same])
  exact again

end

section

variable {keeps : Bool} {write : Kind → Option Params → Params → Except Problem (List (Yaml × Yaml))}
  {read : Kind → Yaml → Build (Option Params)} {build : Kind → String → Params → Build Params}
  {child : Kind}
  (below : ∀ ps defaults m, Node.Built keeps child ps → ps.Every Param.Value.Carried →
    write child defaults ps = .ok m →
    ∃ own, Yields (fun _ => True) (read child (.map m)) (some own) ∧
      Kept keeps build child defaults ps own)

include below

theorem reread_collection (cs : Children) (m : List (Yaml × Yaml))
    (distinct : Entries.Distinct cs) (built : ∀ e ∈ cs, Node.Built keeps child e.2)
    (carried : ∀ e ∈ cs, Params.Every Param.Value.Carried e.2)
    (written : Encode.collection (write child) cs = .ok m) :
    ∃ again, Yields (fun _ => True) (Decode.collection (read child) (.map m)) (some again) ∧
      List.Forall₂ (fun e f => f.1 = e.1 ∧ Kept keeps build child (Encode.beside cs e.1) e.2 f.2)
        (Encode.order cs) again := by
  have perm := Encode.perm_order cs distinct
  have inside : ∀ e ∈ Encode.order cs, e ∈ cs := fun e member => perm.mem_iff.1 member
  have each := (List.forall₂_and_left _ _).2 ⟨inside, Encode.collection_ok (write child) cs m written⟩
  refine Decode.yields_collection (read child) (Encode.order cs) m
    (Encode.distinct_order cs distinct) (each.imp ?_)
  rintro e y ⟨there, w, made, rfl⟩
  obtain ⟨own, reads, kept⟩ := below e.2 _ w (built e there) (carried e there) made
  exact ⟨w, own, rfl, reads, kept⟩

variable {outer : Kind → String → Params → Build Params} {k : Kind} {p : Param}
  (builds : outer child = Node.buildWith build child) (root : child ≠ .zenPack)

include builds root

theorem restored_specs (v : Param.Value) (y : Yaml) (shape : p.shape = .specs child)
    (fits : p.Fits v) (every : v.Every (Param.Value.Settled keeps))
    (carried : v.Every Param.Value.Carried) (written : Encode.value write k p v = .ok y) :
    ∃ r, Yields (fun _ => True) (Decode.value read k p p.shape y) (some r) ∧
      Restores keeps outer k p (some r) v := by
  obtain ⟨cs, rfl⟩ := p.specs_of_fits v child shape fits
  rw [Encode.value_specs write k p child shape] at written
  obtain ⟨m, made, rfl⟩ := Encode.ok_of_map written
  obtain ⟨again, reads, each⟩ := reread_collection below cs m every.here.distinct
    (Node.built_of_below keeps child cs every)
    (fun e there => carried.inside e.2 ((Param.Value.mem_entries_specs child cs e.2).2
      ⟨e, there, rfl⟩)) made
  obtain ⟨out, yields, same⟩ := restored_collection every.here each root p.name
  refine ⟨.specs child again, ?_, .specs child again, ?_, .specs child out, ?_, .inl ?_⟩
  · rw [shape]
    exact Build.yields_map (f := fun cs : Option Children => cs.map (Param.Value.specs child)) reads
  · exact reading_of_holds _ (by simp [shape, Param.Shape.holds])
  · unfold Node.buildValue
    rw [shape]
    rw [← builds] at yields
    exact Build.yields_map (f := Param.Value.specs child) yields
  · rw [Param.Value.same_specs]
    exact same

theorem restored_group (cs : Children) (m : List (Yaml × Yaml))
    (gathered : Node.Gathered keeps child cs) (built : ∀ e ∈ cs, Node.Built keeps child e.2)
    (carried : ∀ e ∈ cs, Params.Every Param.Value.Carried e.2)
    (written : Encode.collection (write child) cs = .ok m) :
    ∃ again, Yields (fun _ => True) (Decode.collection (read child) (.map m)) (some again) ∧
      ∀ segment, ∃ out, Yields (· = keeps) (Node.buildCollection (outer child) segment again) out ∧
        Param.Value.childrenSame out cs = true := by
  obtain ⟨again, reads, each⟩ := reread_collection below cs m gathered.distinct built carried written
  refine ⟨again, reads, fun segment => ?_⟩
  rw [builds]
  exact restored_collection gathered each root segment

theorem restored_groups (v : Param.Value) (y : Yaml) (shape : p.shape = .groups child)
    (fits : p.Fits v) (every : v.Every (Param.Value.Settled keeps))
    (carried : v.Every Param.Value.Carried) (written : Encode.value write k p v = .ok y) :
    ∃ r, Yields (fun _ => True) (Decode.value read k p p.shape y) (some r) ∧
      Restores keeps outer k p (some r) v := by
  obtain ⟨gs, rfl⟩ := p.groups_of_fits v child shape fits
  obtain ⟨distinct, gathered⟩ := every.here
  rw [Encode.value_groups write k p child shape] at written
  obtain ⟨es, made, rfl⟩ := Encode.ok_of_map written
  -- Each group is read from its line, and restored at whatever place it is built.
  have each := Encode.forall₂_of_mapM (Encode.line (Encode.collection (write child)))
    (fun g y => ∃ w cs, y = (.str g.1, .map w) ∧
      Yields (fun _ => True) (Decode.collection (read child) (.map w)) (some cs) ∧
      ∀ segment, ∃ out, Yields (· = keeps) (Node.buildCollection (outer child) segment cs) out ∧
        Param.Value.childrenSame out g.2 = true) gs es (fun g member y line => by
      obtain ⟨m, inner, rfl⟩ := Encode.line_ok _ g y line
      obtain ⟨again, reads, rest⟩ := restored_group below builds root g.2 m (gathered g member)
        (Node.built_of_groups keeps child gs every g member)
        (fun e there => carried.inside e.2 ((Param.Value.mem_entries_groups child gs e.2).2
          ⟨g, member, e, there, rfl⟩)) inner
      exact ⟨m, again, rfl, reads, rest⟩) made
  obtain ⟨again, reads, all⟩ := Decode.yields_groups (Decode.collection (read child)) gs es []
    distinct (by simp [Entries.names]) each
  obtain ⟨out, yields, same⟩ := Node.yields_buildGroups gs again
    (all.imp fun g h both => ⟨both.1, both.2 h.1⟩)
  refine ⟨.groups child again, ?_, .groups child again, ?_, .groups child out, ?_, .inl ?_⟩
  · rw [shape]
    refine Build.yields_bind (a := some es) (Build.yields_pure _) ?_
    exact Build.yields_map (f := fun hs => some (Param.Value.groups child hs)) reads
  · exact reading_of_holds _ (by simp [shape, Param.Shape.holds])
  · unfold Node.buildValue
    rw [shape]
    exact Build.yields_map (f := Param.Value.groups child) (Build.yields_within p.name yields)
  · exact Node.groupsSame_of_forall₂ child gs out distinct same

end

theorem eq_typeParam (p : Param) (member : p ∈ Kind.params .zProperty)
    (external : p.external = "type") : p = Node.typeParam := by
  revert p
  decide

theorem type_of_written
    (write : Kind → Option Params → Params → Except Problem (List (Yaml × Yaml)))
    (defaults : Option Params) (ps : Params) (whole : Node.Whole .zProperty ps) (y : Yaml)
    (type : String)
    (there : Encode.written write .zProperty defaults ps Node.typeParam = some y)
    (text : y.text? = some type) : type = Params.str ps "type_" := by
  have member : Node.typeParam ∈ Kind.params .zProperty := by decide
  have found := Node.get?_of_names .zProperty ps whole.names Node.typeParam member
  rcases Encode.entry_some write .zProperty defaults ps Node.typeParam _ y found
    (Encode.entry_of_written write .zProperty defaults ps Node.typeParam y there) with
    ⟨_, rfl⟩ | ⟨filled, made⟩
  · simp [Yaml.text?, Yaml.untagged] at text
  · have held := (whole.fits Node.typeParam member).resolve_left fun null => filled null.1
    rw [Encode.value_flat write .zProperty Node.typeParam _ rfl] at made
    rw [Params.str, Params.str?]
    have name : Node.typeParam.name = "type_" := rfl
    rw [name] at held made
    generalize Params.value ps "type_" = v at held made
    cases v with
    | str s =>
      obtain rfl := Except.ok.inj made
      exact (Option.some.inj text).symm
    | _ => simp [Node.typeParam, Param.orElse, Param.called, Param.of, Param.Shape.holds] at held

theorem shapeAt_default (es : List (Yaml × Yaml)) :
    Decode.shapeAt .zProperty es Node.defaultParam =
      match (Yaml.get? es "type").bind Yaml.text? with
      | some type => Kind.typed .zProperty (some type)
      | none => Node.defaultParam.shape := by
  have table : (Kind.table .zProperty).get? "type_" = some Node.typeParam := by rfl
  unfold Decode.shapeAt
  simp only [Node.defaultParam, Param.of, table, Option.bind_some]
  rfl

theorem shapeAt_written
    (write : Kind → Option Params → Params → Except Problem (List (Yaml × Yaml))) (k : Kind)
    (defaults : Option Params) (ps : Params) (whole : Node.Whole k ps) (p : Param)
    (member : p ∈ k.params) :
    let shape := Decode.shapeAt k (Encode.lines write k defaults ps k.params) p
    shape = p.shape ∨ ∃ field, p.shape = .typedBy field ∧
      Coerce.retyped shape (Params.value ps p.name) = Params.value ps p.name ∧
      Coerce.fits shape (Params.value ps p.name) = true := by
  intro shape
  -- Only the default of a configuration property is read by what another parameter says.
  rcases Node.plain_or_default k p member with plain | ⟨rfl, rfl⟩
  · left
    show Decode.shapeAt _ _ _ = _
    unfold Decode.shapeAt
    split
    · next typed => simp [typed, Param.Shape.isPlain] at plain
    · rfl
  · have opened : shape = _ :=
      shapeAt_default (Encode.lines write .zProperty defaults ps (Kind.params .zProperty))
    cases found : (Yaml.get? (Encode.lines write .zProperty defaults ps
        (Kind.params .zProperty)) "type").bind Yaml.text? with
    | none =>
      rw [found] at opened
      exact .inl opened
    | some type =>
      rw [found] at opened
      obtain ⟨y, there, text⟩ := Option.bind_eq_some_iff.1 found
      obtain ⟨line, first, rfl⟩ := Option.map_eq_some_iff.1 there
      obtain ⟨q, declared, made⟩ := List.mem_filterMap.1 (List.mem_of_find?_eq_some first)
      obtain ⟨z, written, rfl⟩ := Option.map_eq_some_iff.1 made
      have external : q.external = "type" := by
        have same := List.find?_some first
        simpa [Yaml.same] using same
      obtain rfl := eq_typeParam q declared external
      obtain rfl := type_of_written write defaults ps whole z type written text
      obtain ⟨retyped, fits⟩ := Node.default_of_whole ps whole
      rw [opened]
      exact .inr ⟨"type_", rfl, retyped, fits⟩

section

variable {keeps : Bool} {write : Kind → Option Params → Params → Except Problem (List (Yaml × Yaml))}
  {read : Kind → Yaml → Build (Option Params)} {build outer : Kind → String → Params → Build Params}
  {k : Kind}
  (below : ∀ p ∈ k.params, ∀ child, p.shape.child? = some child → ∀ ps defaults m,
    Node.Built keeps child ps → ps.Every Param.Value.Carried → write child defaults ps = .ok m →
    ∃ own, Yields (fun _ => True) (read child (.map m)) (some own) ∧
      Kept keeps build child defaults ps own)
  (builds : ∀ p ∈ k.params, ∀ child, p.shape.child? = some child →
    outer child = Node.buildWith build child)

include below builds

theorem restored_value (p : Param) (member : p ∈ k.params) (v : Param.Value) (y : Yaml)
    (shape : Param.Shape) (fits : p.Fits v) (filled : v ≠ .null)
    (every : v.Every (Param.Value.Settled keeps)) (carried : v.Every Param.Value.Carried)
    (written : Encode.value write k p v = .ok y)
    (reads : shape = p.shape ∨ ∃ field, p.shape = .typedBy field ∧
      Coerce.retyped shape v = v ∧ Coerce.fits shape v = true) :
    ∃ r, Yields (fun _ => True) (Decode.value read k p shape y) (some r) ∧
      Restores keeps outer k p (some r) v := by
  -- Collections are read and built entry by entry, any other value at once.
  cases collection : p.shape.child? with
  | none =>
    have held := fits.resolve_left fun null => filled null.1
    rw [Encode.value_flat write k p v collection] at written
    obtain ⟨r, yields, kept⟩ := Decode.yields_scalar read k p v y shape held carried.here every.here
      collection (Encode.shape_ne_relationship k p member) written reads
    refine ⟨r, yields, ?_⟩
    rcases kept with rfl | ⟨ds, rfl, rfl⟩
    · refine restores_flat r r held collection (.inl ?_)
      refine Param.Value.same_flat r ((Param.child?_of_holds _ r held).trans collection) ?_
      rintro x rfl
      exact carried.here
    · refine restores_flat _ _ ?_ collection (.inr ⟨ds, rfl, rfl⟩)
      cases declared : p.shape <;> simp_all [Param.Shape.holds]
  | some child =>
    have root : child ≠ .zenPack := fun same =>
      Node.child?_ne_zenPack k p member (same ▸ collection)
    have own : shape = p.shape := by
      rcases reads with same | ⟨field, typed, _⟩
      · exact same
      · simp [typed, Param.Shape.child?] at collection
    rw [own]
    cases declared : p.shape with
    | specs kind =>
      obtain rfl : kind = child := by rw [declared] at collection; exact Option.some.inj collection
      rw [← declared]
      exact restored_specs (below p member kind collection) (builds p member kind collection) root
        v y declared fits every carried written
    | groups kind =>
      obtain rfl : kind = child := by rw [declared] at collection; exact Option.some.inj collection
      rw [← declared]
      exact restored_groups (below p member kind collection) (builds p member kind collection) root
        v y declared fits every carried written
    | _ => rw [declared] at collection; simp [Param.Shape.child?] at collection

theorem restored_line (defaults : Option Params) (ps : Params) (built : Node.Built keeps k ps)
    (carried : ps.Every Param.Value.Carried) (p : Param) (member : p ∈ k.params) (y : Yaml)
    (there : Encode.written write k defaults ps p = some y) :
    ∃ r, Yields (fun _ => True) (Decode.value read k p
        (Decode.shapeAt k (Encode.lines write k defaults ps k.params) p) y) (some r) ∧
      Restores keeps outer k p (some r) (Params.value ps p.name) := by
  have found := Node.get?_of_names k ps built.whole.names p member
  have fits := built.whole.fits p member
  rcases Encode.entry_some write k defaults ps p _ y found
    (Encode.entry_of_written write k defaults ps p y there) with ⟨null, rfl⟩ | ⟨filled, value⟩
  · exact ⟨.null, Build.yields_pure _, restores_null member _ null fits⟩
  · exact restored_value below builds p member _ y _ fits filled
      (Params.every_get? ps p.name _ built.below found)
      (Params.every_get? ps p.name _ carried found) value
      (shapeAt_written write k defaults ps built.whole p member)

theorem restored_or_none (defaults : Option Params) (ps : Params) (built : Node.Built keeps k ps)
    (carried : ps.Every Param.Value.Carried) (p : Param) :
    ∃ again : Option Param.Value, p ∈ k.params →
      (Encode.written write k defaults ps p = none → again = none) ∧
      ∀ y, Encode.written write k defaults ps p = some y → ∃ r, again = some r ∧
        Yields (fun _ => True) (Decode.value read k p
          (Decode.shapeAt k (Encode.lines write k defaults ps k.params) p) y) (some r) ∧
        Restores keeps outer k p (some r) (Params.value ps p.name) := by
  by_cases member : p ∈ k.params
  · cases there : Encode.written write k defaults ps p with
    | none => exact ⟨none, fun _ => ⟨fun _ => rfl, by simp⟩⟩
    | some y =>
      obtain ⟨r, yields, restores⟩ :=
        restored_line below builds defaults ps built carried p member y there
      refine ⟨some r, fun _ => ⟨by simp, fun z same => ?_⟩⟩
      obtain rfl := Option.some.inj same
      exact ⟨r, rfl, yields, restores⟩
  · exact ⟨none, fun there => absurd there member⟩

theorem kept_of_written (defaults : Option Params) (ps : Params) (m : List (Yaml × Yaml))
    (built : Node.Built keeps k ps) (carried : ps.Every Param.Value.Carried)
    (made : Encode.keys write k defaults ps k.params = .ok m) :
    ∃ own, Yields (fun _ => True) (Decode.keys read k m [] m) own ∧
      Kept keeps outer k defaults ps own := by
  obtain ⟨rfl, entries⟩ := Encode.keys_ok write k defaults ps k.params m made
  -- One value for each parameter that was written, and none for the others.
  have each := restored_or_none below builds defaults ps built carried
  choose again fine using each
  have kept (p : Param) (member : p ∈ k.params) :
      Entries.get? (Entries.ofParams k.params again) p.name = again p :=
    Entries.get?_ofParams k.params again p k.nodup_names member
  refine ⟨Entries.ofParams k.params again, ?_, ?_, ?_, ?_⟩
  · refine Decode.yields_keys read k _ (Encode.written write k defaults ps) again k.params []
      (fun _ member => member) k.nodup_names (by simp [Entries.names])
      (fun p member => (fine p member).1) fun p member y there => ?_
    obtain ⟨r, same, yields, _⟩ := (fine p member).2 y there
    exact ⟨r, same, yields⟩
  · intro e member
    have named := Entries.mem_names_ofParams k.params again e.1 (List.mem_map.2 ⟨e, member, rfl⟩)
    obtain ⟨p, there, same⟩ := List.mem_map.1 named
    exact ⟨p, there, same⟩
  · intro p member r there
    rw [kept p member] at there
    cases line : Encode.written write k defaults ps p with
    | none =>
      rw [(fine p member).1 line] at there
      simp at there
    | some y =>
      obtain ⟨s, same, _, restores⟩ := (fine p member).2 y line
      rw [same] at there
      obtain rfl := Option.some.inj there
      exact restores
  · intro p member there
    rw [kept p member] at there
    cases line : Encode.written write k defaults ps p with
    | none =>
      have made := entries p member
      rw [line] at made
      exact Encode.entry_none write k defaults ps p _
        (Node.get?_of_names k ps built.whole.names p member) (built.whole.fits p member) made
    | some y =>
      obtain ⟨s, same, _⟩ := (fine p member).2 y line
      rw [same] at there
      simp at there

end

def buildBelow : Nat → Kind → String → Params → Build Params
  | 0 => fun _ _ _ => return []
  | depth + 1 => Node.buildAt depth

theorem buildAt_eq (depth : Nat) : Node.buildAt depth = Node.buildWith (buildBelow depth) := by
  cases depth <;> rfl

theorem entryAt_eq (depth : Nat) :
    Decode.entryAt depth = Decode.entryWith (Decode.entryBelow depth) := by
  cases depth <;> rfl

theorem kept_at (keeps : Bool) (depth : Nat) (k : Kind) (defaults : Option Params) (ps : Params)
    (m : List (Yaml × Yaml)) (built : Node.Built keeps k ps)
    (carried : ps.Every Param.Value.Carried) (height : k.height ≤ depth)
    (made : Encode.paramsAt depth k defaults ps = .ok m) :
    ∃ own, Yields (fun _ => True) (Decode.paramsWith (Decode.entryBelow depth) k (.map m)) own ∧
      Kept keeps (buildBelow depth) k defaults ps own := by
  -- By induction on the depth, which bounds the levels below: at zero there are no collections.
  induction depth generalizing k defaults ps m with
  | zero =>
    have flat (p : Param) (member : p ∈ k.params) (child : Kind)
        (collection : p.shape.child? = some child) : False := by
      have lower := k.height_child p member child collection
      omega
    have builds (p : Param) (member : p ∈ k.params) (child : Kind)
        (collection : p.shape.child? = some child) :
        buildBelow 0 child = Node.buildWith (buildBelow 0) child :=
      (flat p member child collection).elim
    exact kept_of_written (fun p member child collection => (flat p member child collection).elim)
      builds defaults ps m built carried made
  | succ depth ih =>
    refine kept_of_written (fun p member child collection qs defaults w below carried made => ?_)
      (fun _ _ _ _ => by rw [buildBelow, buildAt_eq]) defaults ps m built carried made
    have lower := k.height_child p member child collection
    obtain ⟨own, reads, kept⟩ := ih child defaults qs w below carried (by omega) made
    refine ⟨own, ?_, kept⟩
    rw [Decode.entryBelow, entryAt_eq]
    exact Build.yields_map (f := some) reads

end Document

end PackSpec
