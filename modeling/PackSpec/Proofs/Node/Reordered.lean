import PackSpec.Proofs.Build.Gathered
import PackSpec.Proofs.Node.Typed
import PackSpec.Proofs.Param.Reordered

set_option autoImplicit false

namespace PackSpec

open Build (Composed Meets Settled Tallies gather)
open Param.Value (Reordered)

namespace Coerce

theorem flat_retyped (shape : Param.Shape) (v : Param.Value) (flat : v.child? = none) :
    (retyped shape v).child? = none := by
  unfold retyped
  split
  · next s => cases boolOf? s <;> rfl
  · next s => cases intOf? s <;> rfl
  · split <;> rfl
  · next s => cases floatOf? s <;> rfl
  all_goals first
    | rfl
    | exact flat

theorem reordered_retyped (shape : Param.Shape) (v w : Param.Value) (h : v.Reordered w) :
    (retyped shape v).Reordered (retyped shape w) := by
  -- Nothing but scalars and lists is read as a value of another shape.
  cases h with
  | flat _ flat => exact .flat _ (flat_retyped shape v flat)
  | dict es fs entries => cases shape <;> exact .dict es fs entries
  | specs k cs ds entries => cases shape <;> exact .specs k cs ds entries
  | groups k gs hs entries => cases shape <;> exact .groups k gs hs entries

theorem fits_eq (shape : Param.Shape) (v w : Param.Value) (h : v.Reordered w) :
    fits shape v = fits shape w := by
  cases h with
  | flat => rfl
  | dict | specs | groups => cases shape <;> rfl

end Coerce

theorem Build.tallies_entries {α β γ δ : Type} {R : α → β → Prop} {S : γ → δ → Prop}
    {step : String × α → Build (Option (String × γ))}
    {step' : String × β → Build (Option (String × δ))}
    (named : ∀ e c f after, (step e).run c = (.ok (some f), after) → some e.1 = some f.1)
    (cs : Entries α) (ds : Entries β) (h : Entries.Reordered R cs ds)
    (tallies : ∀ e ∈ cs, ∀ g ∈ ds, e.1 = g.1 → R e.2 g.2 →
      Tallies (Option.Rel fun x y => x.1 = y.1 ∧ S x.2 y.2) (step e) (step' g))
    (composed : ∀ g ∈ ds, Composed true (step' g)) (settled : ∀ g ∈ ds, Settled (step' g)) :
    Tallies (Entries.Reordered S) (gather step cs) (gather step' ds) := by
  obtain ⟨gs, pairs, order⟩ := h.pairs
  have inside (g : String × β) (member : g ∈ gs) : g ∈ ds := order.mem_iff.1 member
  -- What is paired off is an entry of the one and of the other.
  have first := (List.forall₂_and_left cs gs).2 ⟨fun _ member => member, pairs⟩
  have both := (List.forall₂_and_left gs cs).2 ⟨inside, first.flip⟩
  have gathered := (Build.tallies_gather cs gs ds
    (both.flip.imp fun e g ⟨there, here, name, related⟩ => tallies e here g there name related) order
    (fun g member => composed g (inside g member))
    fun g member => settled g (inside g member)).knowing
    (fun c xs after _ => Build.names_gather (fun e => some e.1) named cs c xs after)
    (fun _ _ _ _ _ => trivial)
  refine gathered.mono ?_
  rintro xs zs ⟨⟨ys, related, perm⟩, names, _⟩
  have keys : cs.filterMap (fun e => some e.1) = Entries.names cs :=
    congrFun List.filterMap_eq_map cs
  exact .of_pairs (h.distinct.sublist (keys ▸ names)) related perm

namespace Node

def entryStep (build : String → Params → Build Params) (e : String × Params) :
    Build (Option (String × Params)) :=
  Build.recover (Build.within e.1 (build e.1 e.2)) (fun built => return some (e.1, built))
    (return none)

def groupStep (build : String → Params → Build Params) (g : String × Children) :
    Build (Option (String × Children)) := do
  return some (g.1, ← buildCollection build g.1 g.2)

theorem buildEntries_eq (build : String → Params → Build Params) (cs : Children) :
    buildEntries build cs = gather (entryStep build) cs := by
  induction cs with
  | nil => rfl
  | cons e cs ih =>
    obtain ⟨name, ps⟩ := e
    rw [buildEntries_cons, gather, entryStep, ih, Build.recover, Build.recover, bind_assoc]
    congr 1
    funext r
    cases r <;> simp only [bind_assoc, pure_bind] <;> simp

theorem buildGroups_eq (build : String → Params → Build Params) (gs : Groups) :
    buildGroups build gs = gather (groupStep build) gs := by
  induction gs with
  | nil => rfl
  | cons g gs ih =>
    obtain ⟨name, cs⟩ := g
    simp only [buildGroups, gather, groupStep, ih, bind_assoc, pure_bind]
    rfl

theorem name_entryStep (build : String → Params → Build Params) (e : String × Params)
    (c : Context) (f : String × Params) (after : Context)
    (done : (entryStep build e).run c = (.ok (some f), after)) : some e.1 = some f.1 := by
  rw [entryStep, Build.run_recover] at done
  generalize (Build.within e.1 (build e.1 e.2)).run c = result at done
  obtain ⟨d | built, _⟩ := result
  · dsimp only at done
    generalize (Build.handle d).run _ = result at done
    obtain ⟨_ | _, _⟩ := result <;> simp [Build.run_pure] at done
  · rw [← Option.some.inj (Except.ok.inj (Prod.mk.inj done).1)]

theorem name_groupStep (build : String → Params → Build Params) (g : String × Children)
    (c : Context) (f : String × Children) (after : Context)
    (done : (groupStep build g).run c = (.ok (some f), after)) : some g.1 = some f.1 := by
  rw [groupStep, Build.run_bind] at done
  generalize (buildCollection build g.1 g.2).run c = result at done
  obtain ⟨_ | built, _⟩ := result
  · simp at done
  · rw [← Option.some.inj (Except.ok.inj (Prod.mk.inj done).1)]

structure Unordered (build : Kind → String → Params → Build Params) : Prop where
  composed : ∀ k name ps, Composed true (build k name ps)
  builds : ∀ start k name ps, k ≠ .zenPack → Typed k ps →
    Meets (Building start) Diagnostic.IsCoercion (build k name ps) fun _ => True
  tallies : ∀ k name ps qs, k ≠ .zenPack → Typed k ps → Typed k qs → ps.Reordered qs →
    Tallies Params.Reordered (build k name ps) (build k name qs)

section

variable {build : Kind → String → Params → Build Params} (unordered : Unordered build)

include unordered

theorem composed_entryStep (child : Kind) (e : String × Params) :
    Composed true (entryStep (build child) e) :=
  .recover _ _ _ (.within _ _ (unordered.composed child e.1 e.2)) (fun _ => .pure _) (.pure none)

theorem composed_groupStep (child : Kind) (g : String × Children) :
    Composed true (groupStep (build child) g) :=
  .bind _ _ (composed_buildCollection true (build child) (unordered.composed child) g.1 g.2)
    fun _ => .pure _

variable {child : Kind} (below : child ≠ .zenPack)

include below

theorem settled_entryStep (e : String × Params) (typed : Typed child e.2) :
    Settled (entryStep (build child) e) :=
  Build.settled_of_meets (composed_entryStep unordered child e) fun start =>
    Build.meets_recover (fun _ => True)
      (Build.meets_within e.1 (unordered.builds start child e.1 e.2 below typed))
      meets_handle_coercion (fun _ _ => Build.meets_pure _ trivial) (Build.meets_pure none trivial)

theorem tallies_entryStep (e g : String × Params) (name : e.1 = g.1) (typed : Typed child e.2)
    (typed_ : Typed child g.2) (related : Params.Reordered e.2 g.2) :
    Tallies (Option.Rel fun x y => x.1 = y.1 ∧ Params.Reordered x.2 y.2) (entryStep (build child) e)
      (entryStep (build child) g) := by
  unfold entryStep
  rw [name]
  refine Build.tallies_recover (Build.tallies_within _
    (unordered.tallies child g.1 e.2 g.2 below typed typed_ related)) ?_ (Build.tallies_pure .none)
  exact fun built built_ same => Build.tallies_pure (.some ⟨rfl, same⟩)

theorem tallies_buildCollection (segment : String) (cs ds : Children)
    (typed : ∀ e ∈ cs, Typed child e.2) (typed_ : ∀ e ∈ ds, Typed child e.2)
    (h : Entries.Reordered Params.Reordered cs ds) :
    Tallies (Entries.Reordered Params.Reordered) (buildCollection (build child) segment cs)
      (buildCollection (build child) segment ds) := by
  rw [buildCollection_asking, buildCollection_asking]
  refine Build.tallies_asking fun keeps _ => Build.tallies_within segment ?_
  -- The defaults are laid under all entries before any of them is built.
  have filled := Overlay.all_apply keeps cs (typed_fill child) typed
  have filled_ := Overlay.all_apply keeps ds (typed_fill child) typed_
  rw [buildEntries_eq, buildEntries_eq]
  refine Build.tallies_entries (name_entryStep (build child)) _ _ (h.apply keeps) ?_
    (fun g _ => composed_entryStep unordered child g)
    fun g member => settled_entryStep unordered below g (filled_ g member)
  exact fun e first g second name related =>
    tallies_entryStep unordered below e g name (filled e first) (filled_ g second) related

theorem settled_groupStep (g : String × Children) (typed : ∀ e ∈ g.2, Typed child e.2) :
    Settled (groupStep (build child) g) := by
  have collected (start : Context) : Meets (Building start) (fun _ => False)
      (buildCollection (build child) g.1 g.2)
      (Collected (fun _ => True) start.keepsDefaults g.2) :=
    meets_buildCollection meets_handle_coercion (typed_fill child)
      (fun name ps given_ => unordered.builds start child name ps below given_) g.1 g.2 typed
  exact Build.settled_of_meets (composed_groupStep unordered child g) fun start =>
    Build.meets_map (collected start).forget

theorem tallies_buildGroups (gs hs : Groups) (typed : ∀ g ∈ gs, ∀ e ∈ g.2, Typed child e.2)
    (typed_ : ∀ g ∈ hs, ∀ e ∈ g.2, Typed child e.2)
    (h : Entries.Reordered (Entries.Reordered Params.Reordered) gs hs) :
    Tallies (Entries.Reordered (Entries.Reordered Params.Reordered)) (buildGroups (build child) gs)
      (buildGroups (build child) hs) := by
  rw [buildGroups_eq, buildGroups_eq]
  refine Build.tallies_entries (name_groupStep (build child)) gs hs h ?_
    (fun g _ => composed_groupStep unordered child g)
    fun g member => settled_groupStep unordered below g (typed_ g member)
  intro g first k second name related
  unfold groupStep
  rw [name]
  exact Build.tallies_map ((tallies_buildCollection unordered below k.1 g.2 k.2 (typed g first)
    (typed_ k second) related).mono fun _ _ same => .some ⟨rfl, same⟩)

end

section

variable {build : Kind → String → Params → Build Params} (unordered : Unordered build) (k : Kind)
  (p : Param) (member : p ∈ k.params) (v w : Param.Value)

include unordered member

theorem tallies_buildValue
    (fits : ∀ child, p.shape.child? = some child → v.child? = some child)
    (typed : ∀ child, p.shape.child? = some child → ∀ ps ∈ v.entries, Typed child ps)
    (typed_ : ∀ child, p.shape.child? = some child → ∀ ps ∈ w.entries, Typed child ps)
    (h : v.Reordered w) : Tallies Reordered (buildValue build p v) (buildValue build p w) := by
  have below (child : Kind) (collection : p.shape.child? = some child) : child ≠ .zenPack :=
    fun same => child?_ne_zenPack k p member (same ▸ collection)
  unfold buildValue
  cases shape : p.shape with
  | specs declared =>
    have collection : p.shape.child? = some declared := by rw [shape]; rfl
    have kind := fits declared collection
    cases h with
    | flat _ flat => simp [flat] at kind
    | dict => simp [Param.Value.child?] at kind
    | groups => exact Build.tallies_pure (.groups _ _ _ ‹_›)
    | specs found cs ds entries =>
      obtain rfl : found = declared := Option.some.inj kind
      refine Build.tallies_map ((tallies_buildCollection unordered (below found collection) p.name
        cs ds ?_ ?_ entries).mono fun _ _ same => .specs found _ _ same)
      · exact fun e there => typed found collection e.2
          ((Param.Value.mem_entries_specs found cs e.2).2 ⟨e, there, rfl⟩)
      · exact fun e there => typed_ found collection e.2
          ((Param.Value.mem_entries_specs found ds e.2).2 ⟨e, there, rfl⟩)
  | groups declared =>
    have collection : p.shape.child? = some declared := by rw [shape]; rfl
    have kind := fits declared collection
    cases h with
    | flat _ flat => simp [flat] at kind
    | dict => simp [Param.Value.child?] at kind
    | specs => exact Build.tallies_pure (.specs _ _ _ ‹_›)
    | groups found gs hs entries =>
      obtain rfl : found = declared := Option.some.inj kind
      refine Build.tallies_map (Build.tallies_within p.name ((tallies_buildGroups unordered
        (below found collection) gs hs ?_ ?_ entries).mono fun _ _ same => .groups found _ _ same))
      · exact fun g there e inside => typed found collection e.2
          ((Param.Value.mem_entries_groups found gs e.2).2 ⟨g, there, e, inside, rfl⟩)
      · exact fun g there e inside => typed_ found collection e.2
          ((Param.Value.mem_entries_groups found hs e.2).2 ⟨g, there, e, inside, rfl⟩)
  | _ => exact Build.tallies_pure h

end

theorem tallies_buildValues {build : Kind → String → Params → Build Params} (values values_ : Params)
    (ps : List Param)
    (builds : ∀ p ∈ ps, Tallies Reordered (buildValue build p (Params.value values p.name))
      (buildValue build p (Params.value values_ p.name))) :
    Tallies (fun out out_ => Entries.names out = ps.map Param.name ∧
      List.Forall₂ (fun x y => x.1 = y.1 ∧ Reordered x.2 y.2) out out_)
      (buildValues build values ps) (buildValues build values_ ps) := by
  induction ps with
  | nil => exact Build.tallies_pure ⟨rfl, .nil⟩
  | cons p ps ih =>
    refine Build.tallies_bind Reordered (builds p (by simp)) fun built built_ same => ?_
    refine Build.tallies_map ((ih fun q member => builds q (by simp [member])).mono ?_)
    exact fun out out_ ⟨names, all⟩ => ⟨congrArg (p.name :: ·) names, .cons ⟨rfl, same⟩ all⟩

theorem reordered_typeDefault (ps qs : Params) (h : ps.Reordered qs) :
    Build.Agreed Params.Reordered (typeDefault ps) (typeDefault qs) := by
  -- The type is read from the same text on both sides, so both defaults are read as one shape.
  have value := h.value "default"
  unfold typeDefault
  rw [Params.Reordered.str_eq h]
  dsimp only
  generalize Kind.typed .zProperty _ = shape
  have retyped := Coerce.reordered_retyped shape _ _ value
  rw [Coerce.fits_eq shape _ _ retyped]
  split
  · exact h.put "default" retyped
  · rfl

theorem reordered_checkProperty (name : String) (ps qs : Params) (h : ps.Reordered qs) :
    Build.Agreed Params.Reordered (checkProperty name ps) (checkProperty name qs) := by
  have backends_ : backend ps = backend qs := by
    rw [backend, Params.Reordered.str?_eq h, Params.Reordered.str_eq h, backend]
  unfold checkProperty
  rw [backends_, Params.Reordered.str_eq h]
  simp only [bind, Except.bind]
  split
  · rfl
  · split
    · rfl
    · exact h

theorem reordered_check (k : Kind) (name : String) (ps qs : Params) (h : ps.Reordered qs) :
    Build.Agreed Params.Reordered (check k name ps) (check k name qs) := by
  cases k with
  | zProperty => exact reordered_typeDefault ps qs h
  | classProperty => exact reordered_checkProperty name ps qs h
  | _ => exact h

theorem reordered_values (k : Kind) (ps qs : Params) (h : ps.Reordered qs) :
    Params.Reordered (values k ps) (values k qs) := by
  have distinct : Entries.Distinct (values k ps) := by
    rw [Entries.Distinct, Entries.names, values, List.map_map]
    exact k.nodup_names
  have pairs : List.Forall₂ (fun e f => e.1 = f.1 ∧ e.2.Reordered f.2) (values k ps) (values k qs) := by
    rw [values, values, List.forall₂_map_left_iff, List.forall₂_map_right_iff]
    exact List.forall₂_same.2 fun p _ => ⟨rfl, p.reordered_read k _ _ (h.get? p.name)⟩
  exact .of_pairs distinct pairs (.refl _)

theorem enterNamespace_eq (k : Kind) (ps qs : Params) (h : ps.Reordered qs) :
    enterNamespace k ps = enterNamespace k qs := by
  unfold enterNamespace
  rw [Params.Reordered.str_eq h]

theorem tallies_readAll (k : Kind) (ps qs : Params) (readable : Readable k ps)
    (readable_ : Readable k qs) (typed : Typed k ps) (typed_ : Typed k qs) :
    Tallies (fun x y => x = values k ps ∧ y = values k qs) (readAll k ps) (readAll k qs) := by
  -- Typed parameters are all read, so none is left over whose place could matter.
  intro c c' beside
  rw [run_readAll k ps c readable (declared_of_admitted k ps typed.admitted),
    run_readAll k qs c' readable_ (declared_of_admitted k qs typed_.admitted)]
  exact .stay beside ⟨rfl, rfl⟩

theorem tallies_buildWith {build : Kind → String → Params → Build Params}
    (unordered : Unordered build) (k : Kind) (name : String) (ps qs : Params)
    (readable : Readable k ps) (readable_ : Readable k qs) (typed : Typed k ps)
    (typed_ : Typed k qs) (h : ps.Reordered qs) :
    Tallies Params.Reordered (buildWith build k name ps) (buildWith build k name qs) := by
  refine Build.tallies_bind _ (tallies_readAll k ps qs readable readable_ typed typed_) ?_
  rintro _ _ ⟨rfl, rfl⟩
  -- From here on both sides go through the parameters in the order of the table.
  have values_ := reordered_values k ps qs h
  rw [enterNamespace_eq k _ _ values_]
  refine Build.tallies_bind Eq (Build.tallies_self (composed_enterNamespace k _)) fun _ _ _ => ?_
  refine Build.tallies_bind _ (tallies_buildValues _ _ k.params ?_) ?_
  · intro p member
    rw [value_values k ps p member, value_values k qs p member]
    refine tallies_buildValue unordered k p member _ _ ?_ ?_ ?_ (p.reordered_read k _ _ (h.get? p.name))
    · exact fun child collection => p.child?_read k _ child (readable p member) collection
    · exact fun child collection => typed_entries k ps p child typed collection (readable p member)
    · exact fun child collection => typed_entries k qs p child typed_ collection (readable_ p member)
  · rintro out out_ ⟨names, all⟩
    have distinct : Entries.Distinct out := by
      rw [Entries.Distinct, names]
      exact k.nodup_names
    exact Build.tallies_ofExcept
      (reordered_check k name out out_ (.of_pairs distinct all (.refl out_)))

theorem unordered_none : Unordered fun _ _ _ => return [] :=
  ⟨fun _ _ _ => .pure [], fun _ _ _ _ _ _ => Build.meets_pure [] trivial,
    fun _ _ _ _ _ _ _ _ => Build.tallies_pure .nil⟩

theorem unordered_buildAt (depth : Nat) : Unordered (buildAt depth) := by
  have builds (depth : Nat) (start : Context) (k : Kind) (name : String) (ps : Params)
      (below : k ≠ .zenPack) (typed : Typed k ps) :
      Meets (Building start) Diagnostic.IsCoercion (buildAt depth k name ps) fun _ => True :=
    meets_buildAt depth k name ps below typed
  -- Below the root everything typed can be read.
  have step (build : Kind → String → Params → Build Params) (unordered : Unordered build) (k : Kind)
      (name : String) (ps qs : Params) (below : k ≠ .zenPack) (typed : Typed k ps)
      (typed_ : Typed k qs) (h : ps.Reordered qs) :
      Tallies Params.Reordered (buildWith build k name ps) (buildWith build k name qs) :=
    tallies_buildWith unordered k name ps qs (readable_of_typed k ps typed (.inl below))
      (readable_of_typed k qs typed_ (.inl below)) typed typed_ h
  refine ⟨composed_buildAt depth, builds depth, ?_⟩
  induction depth with
  | zero => exact step _ unordered_none
  | succ depth ih => exact step _ ⟨composed_buildAt depth, builds depth, ih⟩

theorem tallies_root (ps qs : Params) (typed : Typed .zenPack ps) (typed_ : Typed .zenPack qs)
    (named : (Params.value ps "name").isNull = false) (h : ps.Reordered qs) :
    Tallies Params.Reordered (buildParams .zenPack "" ps) (buildParams .zenPack "" qs) := by
  have named_ : (Params.value qs "name").isNull = false :=
    (Params.Reordered.isNull_eq h "name").symm.trans named
  exact tallies_buildWith (unordered_buildAt 3) .zenPack "" ps qs
    (readable_of_typed .zenPack ps typed (.inr named))
    (readable_of_typed .zenPack qs typed_ (.inr named_)) typed typed_ h

end Node

end PackSpec
