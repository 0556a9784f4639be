import PackSpec.Proofs.Node.Building
import PackSpec.Proofs.Node.Checked
import PackSpec.Proofs.Node.Whole

set_option autoImplicit false

namespace PackSpec

namespace Node

theorem fits_builtFrom (good : Kind → Params → Prop) (keeps : Bool) (p : Param)
    (v w : Param.Value) (fits : p.Fits v) (built : BuiltFrom good keeps p v w) : p.Fits w := by
  unfold BuiltFrom at built
  split at built
  · next shape =>
    obtain ⟨out, rfl, _⟩ := built
    rcases fits with ⟨null, _⟩ | held
    · simp at null
    · exact .inr (by rw [shape] at held ⊢; exact held)
  · next shape =>
    obtain ⟨out, rfl, _⟩ := built
    rcases fits with ⟨null, _⟩ | held
    · simp at null
    · exact .inr (by rw [shape] at held ⊢; exact held)
  · rw [built]
    exact fits

theorem gathered_of_collected (keeps : Bool) (k : Kind) (cs out : Children)
    (distinct : Entries.Distinct cs) (collected : Collected (Built keeps k) keeps cs out) :
    Entries.Distinct out ∧ (keeps = false → defaultsName ∉ Entries.names out) := by
  refine ⟨(Overlay.nodup_kept keeps cs distinct).sublist collected.names, ?_⟩
  rintro rfl member
  exact Overlay.absent_kept cs (collected.names.subset member)

theorem names_of_related {α β : Type} {R : String × α → String × β → Prop} (gs : Entries α)
    (out : Entries β) (all : List.Forall₂ (fun g h => h.1 = g.1 ∧ R g h) gs out) :
    Entries.names out = Entries.names gs := by
  induction all with
  | nil => rfl
  | cons first _ ih => exact congrArg₂ List.cons first.1 ih

theorem settled_builtFrom (keeps : Bool) (p : Param) (v w : Param.Value) (distinct : v.Distinct)
    (fits : p.Fits v) (other : p.shape ≠ .relationships)
    (built : BuiltFrom (Built keeps) keeps p v w) : w.Every (Param.Value.Settled keeps) := by
  cases shape : p.shape with
  | specs child =>
    obtain ⟨cs, rfl⟩ := p.specs_of_fits v child shape fits
    simp only [BuiltFrom, shape] at built
    obtain ⟨out, rfl, collected⟩ := built
    obtain ⟨names, defaults⟩ := gathered_of_collected keeps child cs out distinct.1 collected
    exact settled_specs keeps child out names defaults collected.all
  | groups child =>
    obtain ⟨gs, rfl⟩ := p.groups_of_fits v child shape fits
    simp only [BuiltFrom, shape] at built
    obtain ⟨out, rfl, all⟩ := built
    have names := names_of_related gs out all
    refine settled_groups keeps child out (by rw [Entries.Distinct, names]; exact distinct.1) ?_
    intro h there
    obtain ⟨g, inside, _, collected⟩ := exists_of_forall₂ gs out all h there
    obtain ⟨names_, defaults⟩ :=
      gathered_of_collected keeps child g.2 h.2 (distinct.2 g inside).1 collected
    exact ⟨names_, defaults, collected.all⟩
  | _ =>
    have flat : p.shape.child? = none := by rw [shape]; rfl
    rw [builtFrom_flat _ keeps p v w flat built]
    exact settled_flat keeps v (p.child?_of_fits v fits flat)
      (p.ne_relationships_of_fits v fits other)

theorem distinct_read (k : Kind) (params : Params) (p : Param) (member : p ∈ k.params)
    (readable : Readable k params) (distinct : params.Every Param.Value.Distinct)
    (fits : p.Fits (p.read k (Entries.get? params p.name))) :
    (p.read k (Entries.get? params p.name)).Distinct := by
  cases collection : p.shape.child? with
  | none =>
    have flat := p.child?_of_fits _ fits collection
    generalize p.read k (Entries.get? params p.name) = v at flat
    cases v <;> simp_all [Param.Value.child?, Param.Value.Distinct]
  | some child =>
    rcases p.read_collection k _ child member collection (readable p member) with found | empty
    · exact (Params.every_get? params p.name _ distinct found).here
    · rw [empty]
      cases shape : p.shape <;> simp_all [Param.Shape.emptyValue, Param.Value.Distinct,
        Entries.Distinct, Entries.names]

section

variable {keeps : Bool} {k : Kind} {name : String} {params out built : Params}
  (readable : Readable k params) (distinct : params.Every Param.Value.Distinct)
  (made : List.Forall₂ (fun p e => e.1 = p.name ∧ BuiltFrom (Built keeps) keeps p
    (p.read k (Entries.get? params p.name)) e.2) k.params out)
  (done : check k name out = .ok built)

include readable distinct made

theorem fits_made (p : Param) (member : p ∈ k.params) (plain : p.shape.isPlain = true) :
    p.Fits (Params.value out p.name) ∧
      (p.shape ≠ .relationships → (Params.value out p.name).Every (Param.Value.Settled keeps)) := by
  have fits := p.fits_read k (Entries.get? params p.name) plain (readable p member)
  have from_ := (value_of_forall₂ k.params out made k.nodup_names p member).2
  refine ⟨fits_builtFrom _ keeps p _ _ fits from_, fun other => ?_⟩
  exact settled_builtFrom keeps p _ _ (distinct_read k params p member readable distinct fits) fits
    other from_

include done

theorem whole_made : Whole k built ∧ ∀ p ∈ k.params, p.shape ≠ .relationships →
    (Params.value built p.name).Every (Param.Value.Settled keeps) := by
  have names := names_of_forall₂ k.params out made
  have once : Entries.Distinct out := by
    rw [Entries.Distinct, names]
    exact k.nodup_names
  have checked := checked_again k name out built once done
  -- A check changes at most the default of a configuration property, into one that fits.
  rcases check_ok k name out built done with ⟨other, rfl⟩ | ⟨rfl, d, rfl, fits⟩
  · have all (p : Param) (member : p ∈ k.params) :=
      fits_made readable distinct made p member
        ((plain_or_default k p member).resolve_right fun typed => other typed.1)
    exact ⟨⟨names, fun p member => (all p member).1, checked⟩, fun p member => (all p member).2⟩
  · have present : Entries.has out "default" = true :=
      (Entries.has_iff out "default").2 (names ▸ by decide)
    have all (p : Param) (member : p ∈ Kind.params .zProperty) :
        p.Fits (Params.value (Entries.put out "default" d) p.name) ∧ (p.shape ≠ .relationships →
          (Params.value (Entries.put out "default" d) p.name).Every
            (Param.Value.Settled keeps)) := by
      rw [Params.value, Entries.get?_put]
      by_cases same : p.name = "default"
      · rw [if_pos same]
        obtain rfl := eq_defaultParam p member same
        exact ⟨fits, fun other => settled_flat keeps d (Param.child?_of_fits _ d fits rfl)
          (Param.ne_relationships_of_fits _ d fits other)⟩
      · rw [if_neg same]
        have plain : p.shape.isPlain = true :=
          (plain_or_default _ p member).resolve_right fun typed => same (typed.2 ▸ rfl)
        exact fits_made readable distinct made p member plain
    refine ⟨⟨?_, fun p member => (all p member).1, checked⟩, fun p member => (all p member).2⟩
    rw [Entries.names_put_of_has out _ _ present, names]

end

open Build (Meets)

theorem meets_reads (keeps : Bool) (ns : String) (k : Kind) (params : Params) :
    Meets (Build.steady keeps ns) (fun _ => True) (readAll k params) fun read =>
      read = values k params ∧ Readable k params :=
  Build.meets_steady keeps ns (composed_readAll false k params) _ fun c read after ran =>
    (readAll_ok k params read c after ran).symm

theorem shape_ne_relationships (k : Kind) (below : k ≠ .zenPack) (p : Param)
    (member : p ∈ k.params) : p.shape ≠ .relationships := by
  revert p
  cases k <;> first | decide | exact absurd rfl below

section

variable {build : Kind → String → Params → Build Params} {keeps : Bool} {ns : String} {k : Kind}
  {params : Params} (distinct : params.Every Param.Value.Distinct)
  (builds : ∀ p ∈ k.params, ∀ child, p.shape.child? = some child → ∀ name ps,
    Params.Every Param.Value.Distinct ps →
    Meets (Build.steady keeps ns) (fun _ => True) (build child name ps) (Built keeps child))

include distinct builds

theorem meets_built_value (readable : Readable k params) (p : Param) (member : p ∈ k.params) :
    Meets (Build.steady keeps ns) (fun _ => True)
      (buildValue build p (p.read k (Entries.get? params p.name)))
      (BuiltFrom (Built keeps) keeps p (p.read k (Entries.get? params p.name))) := by
  refine meets_buildValue (fun d _ => Build.meets_steady_handle keeps ns d)
    (fun _ own defaults => Params.every_fill own defaults) p _ (builds p member)
    (fun child collection => p.child?_read k _ child (readable p member) collection) ?_
  intro child collection ps inside
  have every := Params.every_get? params p.name _ distinct (p.found_of_entries k _ ps inside)
  exact every.inside ps inside

theorem meets_built_below (name : String) (below : k ≠ .zenPack) :
    Meets (Build.steady keeps ns) (fun _ => True) (buildWith build k name params)
      (Built keeps k) := by
  have enters : Meets (Build.steady keeps ns) (fun _ => True) (enterNamespace k (values k params))
      fun _ => True := by
    cases k with
    | zenPack => exact absurd rfl below
    | _ => exact Build.meets_pure () trivial
  refine meets_buildWith (meets_reads keeps ns k params) (fun _ => enters)
    (meets_built_value distinct builds) fun readable out made => ?_
  refine Build.meets_ofExcept _ (fun built done => ?_) fun _ _ _ => trivial
  obtain ⟨whole, every⟩ := whole_made readable distinct made done
  refine ⟨whole, every_of_values _ k built whole.names fun p member => ?_⟩
  exact every p member (shape_ne_relationships k below p member)

end

theorem meets_built_at (keeps : Bool) (ns : String) (depth : Nat) (k : Kind) (name : String)
    (params : Params) (below : k ≠ .zenPack) (height : k.height ≤ depth)
    (distinct : params.Every Param.Value.Distinct) :
    Meets (Build.steady keeps ns) (fun _ => True) (buildAt depth k name params)
      (Built keeps k) := by
  induction depth generalizing k name params with
  | zero =>
    refine meets_built_below distinct (fun p member child collection => ?_) name below
    have lower := k.height_child p member child collection
    omega
  | succ depth ih =>
    refine meets_built_below distinct (fun p member child collection => ?_) name below
    intro name ps distinct_
    have lower := k.height_child p member child collection
    have below_ : child ≠ .zenPack := fun same => child?_ne_zenPack k p member (same ▸ collection)
    exact ih child name ps below_ (by omega) distinct_

structure Rooted (keeps : Bool) (root : Params) (built : Context) : Prop where
  ns : built.ns = Params.str root "name"
  keepsDefaults : built.keepsDefaults = keeps
  whole : Whole .zenPack root
  below : ∀ p ∈ Kind.params .zenPack, p.shape ≠ .relationships →
    (Params.value root p.name).Every (Param.Value.Settled keeps)

section

variable {given_ good : Kind → Params → Prop}
  (filled : ∀ k own defaults, given_ k own → given_ k defaults →
    given_ k (Overlay.fill own defaults))
  (params root : Params) (c built : Context)
  (done : (buildParams .zenPack "" params).run c = (.ok root, built))
  (builds : ∀ ns, ∀ child ≠ .zenPack, child.height ≤ 3 → ∀ name ps, given_ child ps →
    Meets (Build.steady c.keepsDefaults ns) (fun _ => True) (buildAt 3 child name ps) (good child))
  (all : Readable .zenPack params → ∀ p ∈ Kind.params .zenPack, ∀ child,
    p.shape.child? = some child →
    ∀ ps ∈ (p.read .zenPack (Entries.get? params p.name)).entries, given_ child ps)

include filled done builds all

theorem made_of_root :
    Readable .zenPack params ∧ built.ns = Params.str (values .zenPack params) "name" ∧
      built.keepsDefaults = c.keepsDefaults ∧
      List.Forall₂ (fun p e => e.1 = p.name ∧ BuiltFrom good c.keepsDefaults p
        (p.read .zenPack (Entries.get? params p.name)) e.2) (Kind.params .zenPack) root := by
  have read := (meets_reads c.keepsDefaults c.ns .zenPack params) c ⟨rfl, rfl⟩
  -- The parts of the build are run one by one; one that fails contradicts `done`.
  have opened : buildParams .zenPack "" params = buildWith (buildAt 3) .zenPack "" params := rfl
  rw [opened, buildWith, Build.run_bind] at done
  generalize (readAll .zenPack params).run c = ran at read done
  rcases ran with ⟨_ | found, after⟩
  · simp at done
  · obtain ⟨⟨keeps, _⟩, rfl, readable⟩ := read
    let c_ : Context := { after with ns := Params.str (values .zenPack params) "name" }
    have entered : (enterNamespace .zenPack (values .zenPack params)).run after = (.ok (), c_) := rfl
    have made : Meets (Build.steady c.keepsDefaults c_.ns) (fun _ => True)
        (buildValues (buildAt 3) (values .zenPack params) (Kind.params .zenPack)) fun out =>
        List.Forall₂ (fun p e => e.1 = p.name ∧ BuiltFrom good c.keepsDefaults p
          (p.read .zenPack (Entries.get? params p.name)) e.2) (Kind.params .zenPack) out := by
      refine meets_buildValues _ _ fun p member => ?_
      rw [value_values .zenPack params p member]
      refine meets_buildValue (fun d _ => Build.meets_steady_handle _ _ d) filled p _
        (fun child collection => builds c_.ns child
          (fun same => child?_ne_zenPack .zenPack p member (same ▸ collection))
          (Nat.le_of_lt_succ (Kind.height_child .zenPack p member child collection)))
        (fun child collection => p.child?_read .zenPack _ child (readable p member) collection)
        (all readable p member)
    have ends := made c_ ⟨keeps, rfl⟩
    dsimp only at done
    rw [Build.run_bind, entered] at done
    dsimp only at done
    rw [Build.run_bind] at done
    generalize (buildValues (buildAt 3) (values .zenPack params) (Kind.params .zenPack)).run c_ =
      ran at ends done
    rcases ran with ⟨_ | out, last⟩
    · simp at done
    · obtain ⟨⟨keeps_, ns⟩, each⟩ := ends
      obtain ⟨same, rfl⟩ := Prod.mk.inj (show (Except.ok out, last) = (.ok root, built) from done)
      obtain rfl := Except.ok.inj same
      exact ⟨readable, ns, keeps_, each⟩

end

theorem rooted_of_built (params root : Params) (c built : Context)
    (distinct : params.Every Param.Value.Distinct)
    (done : (buildParams .zenPack "" params).run c = (.ok root, built)) :
    Rooted c.keepsDefaults root built := by
  obtain ⟨readable, ns, keeps, each⟩ := @made_of_root
    (fun _ => Params.Every Param.Value.Distinct) (Built c.keepsDefaults)
    (fun _ own defaults => Params.every_fill own defaults) params root c built done
    (fun ns child below height name ps distinct_ =>
      meets_built_at c.keepsDefaults ns 3 child name ps below height distinct_)
    fun readable p member child collection ps inside =>
      (Params.every_get? params p.name _ distinct (p.found_of_entries .zenPack _ ps inside)).inside
        ps inside
  have passed : check .zenPack "" root = .ok root := rfl
  obtain ⟨whole, every⟩ := whole_made readable distinct each passed
  exact ⟨ns.trans (name_of_made params root each), keeps, whole, every⟩

end Node

end PackSpec
