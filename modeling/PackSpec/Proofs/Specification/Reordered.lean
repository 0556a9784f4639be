import PackSpec.Proofs.Node.Reordered
import PackSpec.Proofs.Specification.Placing
import PackSpec.Proofs.Specification.Rebuilt

set_option autoImplicit false

namespace PackSpec

open Build (Composed Settled Tallies gather)

namespace Build

theorem settled_of_records {said : Diagnostic → Prop} {b : Build Unit} (records : Records said b) :
    Settled b := by
  intro c _
  obtain ⟨ds, ran, _⟩ := records c
  exact ⟨(), ds, ran⟩

section

variable {ε ζ : Type} {step : ε → Build Unit} {step' : ζ → Build Unit}
  {loop : List ε → Build Unit} {loop' : List ζ → Build Unit}

theorem each_eq_gather (ends : loop [] = pure ())
    (steps : ∀ e es, loop (e :: es) = step e >>= fun _ => loop es) (es : List ε) :
    loop es = (do
      let _ ← gather (fun e => do step e; return (none : Option Unit)) es
      return ()) := by
  induction es with
  | nil => rw [ends, gather, pure_bind]
  | cons e es ih => simp only [steps, ih, gather, bind_assoc, pure_bind]

theorem tallies_each (ends : loop [] = pure ())
    (steps : ∀ e es, loop (e :: es) = step e >>= fun _ => loop es) (ends' : loop' [] = pure ())
    (steps' : ∀ e es, loop' (e :: es) = step' e >>= fun _ => loop' es) (es : List ε) (gs fs : List ζ)
    (pairs : List.Forall₂ (fun e g => Tallies Eq (step e) (step' g)) es gs) (order : gs.Perm fs)
    (composed : ∀ g, Composed true (step' g)) (settled : ∀ g, Settled (step' g)) :
    Tallies Eq (loop es) (loop' fs) := by
  rw [each_eq_gather ends steps, each_eq_gather ends' steps']
  have quiet (g : ζ) : Settled (do step' g; return (none : Option Unit)) := by
    intro c lenient
    obtain ⟨_, ds, ran⟩ := settled g c lenient
    exact ⟨none, ds, by rw [run_bind, ran]; rfl⟩
  have related : List.Forall₂ (fun e g => Tallies (Option.Rel Eq)
      (do step e; return (none : Option Unit)) (do step' g; return (none : Option Unit))) es gs :=
    pairs.imp fun _ _ same => tallies_bind Eq same fun _ _ _ => tallies_pure .none
  exact tallies_map ((tallies_gather es gs fs related order
    (fun g _ => .bind _ _ (composed g) fun _ => .pure none) fun g _ => quiet g).mono
      fun _ _ _ => rfl)

end

end Build

namespace Links

variable (t : Links) (classes : Children)

def classStep (e : String × Params) : Build Unit :=
  if e.1 != defaultsName then checkClass t classes e.1 e.2 else return ()

theorem warnOfClasses_cons (e : String × Params) (es : Children) :
    warnOfClasses t classes (e :: es) =
      classStep t classes e >>= fun _ => warnOfClasses t classes es := by
  obtain ⟨name, ps⟩ := e
  rw [warnOfClasses, classStep]
  dsimp only
  split
  · rfl
  · rw [pure_bind]

theorem classStep_eq (e : String × Params) : warnOfClasses t classes [e] = classStep t classes e := by
  rw [warnOfClasses_cons, warnOfClasses, bind_pure_unit]

end Links

section

variable {cs ds : Children} (h : Entries.Reordered Params.Reordered cs ds)

include h

namespace Lineage

theorem ownBases_eq (name : String) : ownBases cs name = ownBases ds name := by
  have found := h.get? name
  unfold ownBases
  generalize Entries.get? cs name = r, Entries.get? ds name = r_ at found
  cases found with
  | none => rfl
  | some related => dsimp only; rw [Params.Reordered.classRefs_eq related]

theorem work_eq (fuel : Nat) (stack order : List String) :
    work cs fuel stack order = work ds fuel stack order := by
  induction fuel generalizing stack order with
  | zero => rfl
  | succ fuel ih =>
    cases stack with
    | nil => rfl
    | cons current stack => simp only [work, ownBases_eq h, h.has_eq, ih]

theorem lineage_eq (name : String) : lineage cs name = lineage ds name := by
  rw [lineage, h.length_eq, work_eq h, lineage]

end Lineage

namespace Links

theorem place_eq (ns : String) (v : View) : place ns cs v = place ns ds v := by
  simp only [place, localClass?, h.has_eq]

theorem linkViews_eq (ns : String) (t : Links) (views : List View) :
    linkViews ns cs t views = linkViews ns ds t views := by
  have link_ (t : Links) (v : View) : link ns cs t v = link ns ds t v := by
    rw [link, place_eq h, link]
  induction views generalizing t with
  | nil => rfl
  | cons v views ih => simp only [linkViews, link_, ih]

theorem linkSchemas_eq (ns : String) (t : Links) (i : Nat) (schemas : List Schema) :
    linkSchemas ns cs t i schemas = linkSchemas ns ds t i schemas := by
  induction schemas generalizing t i with
  | nil => rfl
  | cons s schemas ih => simp only [linkSchemas, linkViews_eq h, ih]

theorem undefinedBases_eq (name : String) : undefinedBases cs name = undefinedBases ds name := by
  simp only [undefinedBases, Lineage.ownBases_eq h, h.has_eq]

theorem perm_undeclaredNames (t : Links) (name : String) (ps qs : Params) (related : ps.Reordered qs) :
    (undeclaredNames t cs name ps).Perm (undeclaredNames t ds name qs) := by
  unfold undeclaredNames
  rw [Lineage.lineage_eq h]
  exact (Params.Reordered.children related "relationships").perm_names.filter _

omit h in
theorem tallies_warnEach (error : String → Problem) (names names_ : List String)
    (order : names.Perm names_) : Tallies Eq (warnEach error names) (warnEach error names_) := by
  have composed (name : String) : Composed true (Build.within name (Build.warn (error name))) :=
    .within _ _ (.warn _)
  have records (name : String) :
      Build.Records (fun _ => True) (Build.within name (Build.warn (error name))) :=
    Build.records_within name (Build.records_warn _ fun _ => trivial)
  refine Build.tallies_each rfl (fun _ _ => rfl) rfl (fun _ _ => rfl) names names names_ ?_ order
    composed fun name => Build.settled_of_records (records name)
  exact List.forall₂_same.2 fun name _ => Build.tallies_self (composed name)

theorem tallies_checkClass (t : Links) (name : String) (ps qs : Params) (related : ps.Reordered qs) :
    Tallies Eq (checkClass t cs name ps) (checkClass t ds name qs) := by
  unfold checkClass
  rw [undefinedBases_eq h]
  refine Build.tallies_within name (Build.tallies_bind Eq
    (Build.tallies_self (composed_warnAll true _)) fun _ _ _ => Build.tallies_within _ ?_)
  exact tallies_warnEach _ _ _ (perm_undeclaredNames h t name ps qs related)

theorem tallies_warnOfClasses (t : Links) :
    Tallies Eq (warnOfClasses t cs cs) (warnOfClasses t ds ds) := by
  obtain ⟨gs, pairs, order⟩ := h.pairs
  -- The warnings of a class are its own, so the classes may be looked at in any order.
  refine Build.tallies_each rfl (warnOfClasses_cons t cs) rfl (warnOfClasses_cons t ds) cs gs ds
    (pairs.imp ?_) order ?_ ?_
  · rintro ⟨name, ps⟩ ⟨_, qs⟩ ⟨rfl, related⟩
    unfold classStep
    split
    · exact tallies_checkClass h t name ps qs related
    · exact Build.tallies_pure rfl
  · exact fun e => classStep_eq t ds e ▸ composed_warnOfClasses true t ds [e]
  · exact fun e =>
      Build.settled_of_records (classStep_eq t ds e ▸ records_warnOfClasses ds t [e])

theorem tallies_build (schemas : List Schema) :
    Tallies Eq (build cs schemas) (build ds schemas) := by
  rw [build_asking, build_asking]
  refine Build.tallies_asking fun _ ns => ?_
  -- Links are made in the order of the declarations, in which the classes play no part.
  rw [linkSchemas_eq h]
  refine Build.tallies_bind Eq (Build.tallies_within _
    (Build.tallies_self (composed_linkSchemas true ns ds empty 0 schemas))) ?_
  rintro t _ rfl
  exact Build.tallies_bind Eq (Build.tallies_within _ (tallies_warnOfClasses h t))
    fun _ _ _ => Build.tallies_pure rfl

end Links

end

theorem Params.same_of_reordered (ps qs : Params) (h : ps.Reordered qs)
    (each : ∀ e ∈ ps, ∀ w, e.2.Reordered w → e.2.same w = true) : Params.same ps qs = true := by
  refine (Params.same_iff ps qs).2 ⟨h.length_eq, fun e member => ?_⟩
  have found := h.get? e.1
  rw [Entries.get?_of_mem ps e h.distinct member] at found
  generalize looked : Entries.get? qs e.1 = r at found
  cases found with
  | some related => exact ⟨_, rfl, each e member _ related⟩

namespace Param.Value

theorem childrenSame_of_reordered (cs ds : Children) (h : Entries.Reordered Params.Reordered cs ds)
    (each : ∀ e ∈ cs, ∀ f ∈ e.2, ∀ w, f.2.Reordered w → f.2.same w = true) :
    childrenSame cs ds = true := by
  rw [childrenSame, Bool.and_eq_true, beq_iff_eq, childrenIn_iff]
  refine ⟨h.length_eq, fun e member => ?_⟩
  have found := h.get? e.1
  rw [Entries.get?_of_mem cs e h.distinct member] at found
  generalize looked : Entries.get? ds e.1 = r at found
  cases found with
  | some related => exact ⟨_, rfl, Params.same_of_reordered e.2 _ related (each e member)⟩

theorem same_of_reordered (v : Param.Value) (numbers : v.Every Number) :
    ∀ w, v.Reordered w → v.same w = true := by
  induction numbers with
  | intro v here _ ih =>
    intro w h
    cases h with
    | flat _ flat => exact same_of_number v flat here
    | dict es fs entries =>
      rw [same_dict]
      exact Yaml.same_of_reordered _ _ entries
    | specs k cs ds entries =>
      rw [same_specs]
      exact childrenSame_of_reordered cs ds entries fun e member =>
        ih e.2 ((mem_entries_specs k cs e.2).2 ⟨e, member, rfl⟩)
    | groups k gs hs entries =>
      rw [same_groups, Bool.and_eq_true, beq_iff_eq, groupsIn_iff]
      refine ⟨entries.length_eq, fun g member => ?_⟩
      have found := entries.get? g.1
      rw [Entries.get?_of_mem gs g entries.distinct member] at found
      generalize looked : Entries.get? hs g.1 = r at found
      cases found with
      | some related =>
        exact ⟨_, rfl, childrenSame_of_reordered g.2 _ related fun e inside =>
          ih e.2 ((mem_entries_groups k gs e.2).2 ⟨g, member, e, inside, rfl⟩)⟩

end Param.Value

namespace Specification

/-- Specifications that are equal but for the order of entries, with the same links. -/
structure Reordered (s t : Specification) : Prop where
  params : Params.Reordered s.params t.params
  schemas : s.schemas = t.schemas
  links : s.links = t.links

theorem Reordered.same {s t : Specification} (h : s.Reordered t)
    (numbers : s.params.Every Param.Value.Number) : s.same t = true := by
  have params := Params.same_of_reordered _ _ h.params fun e member =>
    e.2.same_of_reordered (numbers e member)
  simp [Specification.same, Node.same, root, name, params, Params.Reordered.str_eq h.params]

theorem tallies_build (ps qs : Params)
    (root : Tallies Params.Reordered (Node.buildParams .zenPack "" ps)
      (Node.buildParams .zenPack "" qs)) : Tallies Reordered (build ps) (build qs) := by
  refine Build.tallies_bind _ root fun built built_ h => ?_
  rw [Params.Reordered.str_eq h, Params.Reordered.relationships_eq h]
  refine Build.tallies_bind Eq (Build.tallies_within _
    (Build.tallies_self (composed_resolveAll true _ 0 _))) ?_
  rintro schemas _ rfl
  refine Build.tallies_bind Eq (Links.tallies_build (Params.Reordered.children h "classes") schemas) ?_
  rintro links _ rfl
  refine Build.tallies_pure ⟨?_, rfl, rfl⟩
  exact h.put declarations (.flat _ rfl)

end Specification

end PackSpec
