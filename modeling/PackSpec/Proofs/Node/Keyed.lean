import PackSpec.Proofs.Param.Keyed
import PackSpec.Proofs.Specification.Rebuilt

set_option autoImplicit false

namespace PackSpec

open Param.Value (Keyed)

namespace Param

theorem keyed_accept (s : Shape) (v w : Param.Value) (accepted : s.accept v = some w)
    (keyed : v.Keyed) : w.Keyed := by
  cases s with
  | classRef | relationship | typedBy => exact Option.some.inj accepted ▸ keyed
  | dict =>
    cases v with
    | null => exact Option.some.inj accepted ▸ .map [] .nil (by simp) (by simp)
    | dict => exact Option.some.inj accepted ▸ keyed
    | _ => simp [Shape.accept] at accepted
  | severity =>
    cases v with
    | null | severity => exact Option.some.inj accepted ▸ trivial
    | int n =>
      obtain ⟨level, _, rfl⟩ := Option.map_eq_some_iff.1 accepted
      trivial
    | _ => simp [Shape.accept] at accepted
  | specs child | groups child =>
    have collection := child?_accept _ v w accepted child rfl
    cases w with
    | specs | groups => trivial
    | _ => simp [Param.Value.child?] at collection
  | _ =>
    cases v <;> first
      | exact Option.some.inj accepted ▸ trivial
      | simp [Shape.accept] at accepted

theorem keyed_defaultValue (p : Param) (d : Param.Value) (given_ : p.defaultValue = some d) :
    d.Keyed := by
  unfold defaultValue at given_
  cases made : p.default with
  | required => simp [made] at given_
  | empty =>
    rw [made] at given_
    rw [← Option.some.inj given_]
    cases p.shape with
    | dict => exact .map [] .nil (by simp) (by simp)
    | _ => trivial
  | int n =>
    rw [made] at given_
    rw [← Option.some.inj given_]
    split <;> trivial
  | _ =>
    rw [made] at given_
    rw [← Option.some.inj given_]
    trivial

theorem keyed_read (k : Kind) (p : Param) (found : Option Param.Value)
    (keyed : ∀ v, found = some v → v.Every Keyed) : (p.read k found).Every Keyed := by
  have inside (ps : Params) (there : ps ∈ (p.read k found).entries) :
      ∀ e ∈ ps, e.2.Every Keyed :=
    (keyed _ (p.found_of_entries k found ps there)).inside ps there
  refine .intro _ ?_ inside
  unfold read
  split
  · next w reads =>
    obtain ⟨v, settled_, accepted⟩ := p.reading_ok k found w reads
    refine keyed_accept p.shape v w accepted ?_
    cases found with
    | none => exact p.keyed_defaultValue v settled_
    | some u =>
      by_cases null : u = .null
      · rw [null] at settled_
        exact p.keyed_defaultValue v settled_
      · obtain rfl := Option.some.inj ((p.settled_some u null).symm.trans settled_)
        exact (keyed u rfl).here
  · trivial

end Param

theorem Coerce.keyed_retyped (shape : Param.Shape) (v : Param.Value) (keyed : v.Every Keyed) :
    (Coerce.retyped shape v).Every Keyed := by
  have changed : Coerce.retyped shape v = v ∨ (Coerce.retyped shape v).entries = [] ∧
      (Coerce.retyped shape v).Keyed := by
    unfold Coerce.retyped
    split
    · next s => cases Coerce.boolOf? s <;> exact .inr ⟨rfl, trivial⟩
    · next s => cases Coerce.intOf? s <;> exact .inr ⟨rfl, trivial⟩
    · next x => split <;> exact .inr ⟨rfl, trivial⟩
    · next s => cases Coerce.floatOf? s <;> exact .inr ⟨rfl, trivial⟩
    all_goals first
      | exact .inr ⟨rfl, trivial⟩
      | exact .inl rfl
  rcases changed with same | ⟨flat, here⟩
  · rw [same]
    exact keyed
  · exact .flat here flat

namespace Build

def setting (keeps : Bool) : Invariant where
  holds c := c.keepsDefaults = keeps
  keeps := keeps
  known _ held := held
  entered _ _ held := held
  left _ held := held

theorem framed_setting (keeps : Bool) (c after : Context) (framed : Framed true c after)
    (held : (setting keeps).holds c) : (setting keeps).holds after :=
  framed.keepsDefaults.trans held

theorem meets_setting {α : Type} {b : Build α} (keeps : Bool) (composed : Composed true b)
    (gives : α → Prop) (given_ : ∀ c a after, b.run c = (.ok a, after) → gives a) :
    Meets (setting keeps) (fun _ => True) b gives :=
  meets_framed composed (framed_setting keeps) gives given_

theorem meets_setting_handle (keeps : Bool) (d : Diagnostic) :
    Meets (setting keeps) (fun _ => True) (handle d) fun _ => True :=
  meets_framed_handle d (framed_setting keeps)

end Build

namespace Node

open Build (Meets)

theorem keyed_builtFrom (keeps : Bool) (p : Param) (v w : Param.Value) (keyed : v.Every Keyed)
    (built : BuiltFrom (fun _ ps => ps.Every Keyed) keeps p v w) : w.Every Keyed := by
  unfold BuiltFrom at built
  split at built
  · obtain ⟨out, rfl, collected⟩ := built
    refine .intro _ trivial fun ps there => ?_
    obtain ⟨e, member, rfl⟩ := (Param.Value.mem_entries_specs _ out ps).1 there
    exact collected.all e member
  · obtain ⟨out, rfl, all⟩ := built
    refine .intro _ trivial fun ps there => ?_
    obtain ⟨h, inside, e, member, rfl⟩ := (Param.Value.mem_entries_groups _ out ps).1 there
    obtain ⟨_, _, _, collected⟩ := exists_of_forall₂ _ out all h inside
    exact collected.all e member
  · exact built ▸ keyed

theorem keyed_check (k : Kind) (name : String) (ps built : Params) (keyed : ps.Every Keyed)
    (done : check k name ps = .ok built) : built.Every Keyed := by
  cases k with
  | zProperty =>
    obtain ⟨_, rfl⟩ := typeDefault_ok ps built done
    refine Params.every_put ps "default" _ keyed (Coerce.keyed_retyped _ _ ?_)
    rw [Params.value]
    cases found : Entries.get? ps "default" with
    | none => exact .flat trivial rfl
    | some v => exact Params.every_get? ps "default" v keyed found
  | classProperty => exact (checkProperty_ok name ps built done).1 ▸ keyed
  | _ => exact Except.ok.inj done ▸ keyed

section

variable {build : Kind → String → Params → Build Params} {keeps : Bool} {k : Kind}

theorem meets_keyed_with
    (builds : ∀ p ∈ k.params, ∀ child, p.shape.child? = some child → ∀ name ps,
      ps.Every Keyed → Meets (Build.setting keeps) (fun _ => True) (build child name ps)
        fun out => out.Every Keyed)
    (name : String) (params : Params) (keyed : params.Every Keyed) :
    Meets (Build.setting keeps) (fun _ => True) (buildWith build k name params)
      fun out => out.Every Keyed := by
  have reads := Build.meets_setting keeps (composed_readAll true k params)
    (fun read => read = values k params ∧ Readable k params) fun c read after ran =>
      (readAll_ok k params read c after ran).symm
  have enters := Build.meets_setting keeps (composed_enterNamespace k (values k params))
    (fun _ => True) fun _ _ _ _ => trivial
  have found (p : Param) : (p.read k (Entries.get? params p.name)).Every Keyed :=
    p.keyed_read k _ fun v there => Params.every_get? params p.name v keyed there
  have made (readable : Readable k params) (p : Param) (member : p ∈ k.params) :
      Meets (Build.setting keeps) (fun _ => True)
        (buildValue build p (p.read k (Entries.get? params p.name))) fun v => v.Every Keyed := by
    have builds_ := meets_buildValue (fun d _ => Build.meets_setting_handle keeps d)
      (fun _ own defaults => Params.every_fill own defaults) p _ (builds p member)
      (fun child collection => p.child?_read k _ child (readable p member) collection)
      fun _ _ ps there => (found p).inside ps there
    exact builds_.mono (fun _ ended => ended) fun v => keyed_builtFrom keeps p _ v (found p)
  refine meets_buildWith reads (fun _ => enters) made fun readable out all => ?_
  refine Build.meets_ofExcept _ (fun built done => ?_) fun _ _ _ => trivial
  refine keyed_check k name out built (fun e member => ?_) done
  obtain ⟨_, _, _, every⟩ := exists_of_forall₂ _ out all e member
  exact every

theorem meets_keyed_at (keeps : Bool) (depth : Nat) (k : Kind) (name : String) (params : Params)
    (keyed : params.Every Keyed) :
    Meets (Build.setting keeps) (fun _ => True) (buildAt depth k name params)
      fun out => out.Every Keyed := by
  induction depth generalizing k name params with
  | zero =>
    exact meets_keyed_with (fun _ _ _ _ _ _ _ => Build.meets_pure [] Params.every_nil) name params
      keyed
  | succ depth ih => exact meets_keyed_with (fun _ _ child _ => ih child) name params keyed

end

theorem meets_keyed (keeps : Bool) (k : Kind) (name : String) (params : Params)
    (keyed : params.Every Keyed) :
    Meets (Build.setting keeps) (fun _ => True) (buildParams k name params)
      fun out => out.Every Keyed :=
  meets_keyed_at keeps k.height k name params keyed

end Node

namespace Specification

open Build (Meets)

theorem meets_keyed (keeps : Bool) (params : Params) (keyed : params.Every Keyed) :
    Meets (Build.setting keeps) (fun _ => True) (build params) fun s => s.params.Every Keyed := by
  have resolves (ns : String) (ds : List Decl) :=
    Build.meets_setting keeps (.within declarations _ (composed_resolveAll true ns 0 ds))
      (fun _ => True) fun _ _ _ _ => trivial
  have links (root : Params) (schemas : List Schema) :=
    Build.meets_setting keeps (Links.composed_build true (Params.children root "classes") schemas)
      (fun _ => True) fun _ _ _ _ => trivial
  refine Build.meets_bind _ (Node.meets_keyed keeps .zenPack "" params keyed) fun root every => ?_
  refine Build.meets_bind _ (resolves _ _) fun schemas _ => ?_
  refine Build.meets_bind _ (links root schemas) fun _ _ => Build.meets_pure _ ?_
  exact Params.every_put root declarations _ every (.flat trivial rfl)

theorem keyed_build (params : Params) (c after : Context) (s : Specification)
    (keyed : params.Every Keyed) (done : (build params).run c = (.ok s, after)) :
    s.params.Every Keyed := by
  have meets := meets_keyed c.keepsDefaults params keyed c rfl
  rw [done] at meets
  exact meets.2

end Specification

end PackSpec
