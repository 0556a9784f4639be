import PackSpec.Proofs.Build.Gathered
import PackSpec.Proofs.Document.Accounted
import PackSpec.Proofs.Param.Reordered

set_option autoImplicit false

namespace PackSpec

open Build (Composed Meets Settled Tallies gather)

namespace Decode

section

variable {ε α β : Type} {step : ε → Build (Option (String × α))}

theorem loop_eq_gather {loop : Entries α → List ε → Build (Entries α)}
    (ends : ∀ acc, loop acc [] = pure acc)
    (steps : ∀ acc e es, loop acc (e :: es) = step e >>= fun found =>
      loop (found.elim acc fun f => Entries.put acc f.1 f.2) es) (acc : Entries α) (es : List ε) :
    loop acc es =
      (do return (← gather step es).foldl (fun acc f => Entries.put acc f.1 f.2) acc) := by
  induction es generalizing acc with
  | nil => exact ends acc
  | cons e es ih =>
    rw [steps]
    simp only [gather, bind_assoc, pure_bind, ih]
    congr 1
    funext found
    cases found <;> rfl

variable {ζ : Type} {step' : ζ → Build (Option (String × β))} {R : α → β → Prop}

theorem tallies_loop {loop : Entries α → List ε → Build (Entries α)}
    {loop' : Entries β → List ζ → Build (Entries β)}
    (opened : ∀ es, loop [] es = (do return Entries.ofList (← gather step es)))
    (opened' : ∀ es, loop' [] es = (do return Entries.ofList (← gather step' es)))
    (key : ε → Option String)
    (named : ∀ e c f after, (step e).run c = (.ok (some f), after) → key e = some f.1)
    (es : List ε) (gs fs : List ζ) (distinct : (es.filterMap key).Nodup)
    (pairs : List.Forall₂
      (fun e g => Tallies (Option.Rel fun x y => x.1 = y.1 ∧ R x.2 y.2) (step e) (step' g)) es gs)
    (order : gs.Perm fs) (steps : ∀ g ∈ gs, Composed true (step' g))
    (settled : ∀ g ∈ gs, Settled (step' g)) :
    Tallies (Entries.Reordered R) (loop [] es) (loop' [] fs) := by
  rw [opened, opened']
  have gathered := (Build.tallies_gather es gs fs pairs order steps settled).knowing
    (fun c xs after _ => Build.names_gather key named es c xs after) (fun _ _ _ _ _ => trivial)
  refine Build.tallies_map (gathered.mono ?_)
  rintro xs zs ⟨⟨ys, related, perm⟩, names, _⟩
  -- The names that come out are among those of the items, so nothing is put over anything.
  have first : Entries.Distinct xs := distinct.sublist names
  have reordered := Entries.Reordered.of_pairs first related perm
  rw [Entries.ofList_of_distinct xs first, Entries.ofList_of_distinct zs reordered.distinct_right]
  exact reordered

end

def namedStep {α : Type} (what : String) (skips : String → Bool) (read : Yaml → Build (Option α))
    (e : Yaml × Yaml) : Build (Option (String × α)) := do
  match scalarText? e.1 with
  | none =>
    Build.report (mismatch what e.1)
    return none
  | some name =>
    if skips name then return none
    else return (← Build.within name (read e.2)).map fun a => (name, a)

theorem entries_eq (read : Yaml → Build (Option Params)) (skip : Bool) (es : List (Yaml × Yaml)) :
    entries read skip [] es = (do return Entries.ofList (← gather
      (namedStep "an entry name" (fun name => skip && name == defaultsName) read) es)) := by
  refine loop_eq_gather (fun _ => rfl) (fun acc e es => ?_) [] es
  obtain ⟨key, v⟩ := e
  rw [entries, namedStep]
  cases scalarText? key with
  | none => simp only [bind_assoc, pure_bind, Option.elim_none]
  | some name =>
    dsimp only
    split
    · simp only [pure_bind, Option.elim_none]
    · simp only [bind_assoc, pure_bind]
      congr 1
      funext found
      cases found <;> rfl

theorem groups_eq (read : Yaml → Build (Option Children)) (es : List (Yaml × Yaml)) :
    groups read [] es = (do return Entries.ofList (← gather
      (namedStep "a group name" (fun _ => false) read) es)) := by
  refine loop_eq_gather (fun _ => rfl) (fun acc e es => ?_) [] es
  obtain ⟨key, v⟩ := e
  rw [groups, namedStep]
  cases scalarText? key with
  | none => simp only [bind_assoc, pure_bind, Option.elim_none]
  | some name =>
    simp only [Bool.false_eq_true, if_false, bind_assoc, pure_bind]
    congr 1
    funext found
    cases found <;> rfl

section

variable {α : Type} (what : String) (skips : String → Bool) (read : Yaml → Build (Option α))

theorem composed_namedStep (composed : ∀ v, Composed false (read v)) (e : Yaml × Yaml) :
    Composed false (namedStep what skips read e) := by
  unfold namedStep
  split
  · exact .bind _ _ (.report _) fun _ => .pure none
  · split
    · exact .pure none
    · exact .bind _ _ (.within _ _ (composed e.2)) fun _ => .pure _

theorem settled_namedStep (composed : ∀ v, Composed false (read v))
    (reads : ∀ start v, Meets (Decoding start) (fun _ => False) (read v) fun _ => True)
    (e : Yaml × Yaml) : Settled (namedStep what skips read e) := by
  have meets (c : Context) :
      Meets (Decoding c) (fun _ => False) (namedStep what skips read e) fun _ => True := by
    unfold namedStep
    split
    · exact meets_report_none _ rfl _ trivial
    · split
      · exact Build.meets_pure none trivial
      · exact Build.meets_map (Build.meets_within _ (reads c e.2))
  exact Build.settled_of_meets (composed_namedStep what skips read composed e).any meets

theorem name_namedStep (e : Yaml × Yaml) (c after : Context) (f : String × α)
    (done : (namedStep what skips read e).run c = (.ok (some f), after)) :
    scalarText? e.1 = some f.1 := by
  unfold namedStep at done
  split at done
  · exact absurd done Build.not_some_of_none
  · next name text =>
    split at done
    · simp [Build.run_pure] at done
    · obtain ⟨a, rfl⟩ := Build.some_of_option done
      exact text

theorem tallies_namedStep {β : Type} {R : α → β → Prop} (read' : Yaml → Build (Option β))
    (e g : Yaml × Yaml) (key : e.1 = g.1)
    (tallies : Tallies (Option.Rel R) (read e.2) (read' g.2)) :
    Tallies (Option.Rel fun x y => x.1 = y.1 ∧ R x.2 y.2) (namedStep what skips read e)
      (namedStep what skips read' g) := by
  unfold namedStep
  rw [key]
  split
  · exact Build.tallies_report_none _ _ rfl
  · split
    · exact Build.tallies_pure .none
    · exact Build.tallies_option (Build.tallies_within _ tallies) fun _ _ related => ⟨rfl, related⟩

end

theorem tallies_mapping (v w : Yaml) (h : v.Reordered w) :
    Tallies (Option.Rel fun es fs => Yaml.Reordered (.map es) (.map fs)) (mapping v) (mapping w) := by
  cases h with
  | map es gs fs named keys values order =>
    exact Build.tallies_pure (.some (.map es gs fs named keys values order))
  | seq | tagged => exact Build.tallies_report_none _ _ rfl
  | scalar _ scalar =>
    cases v with
    | seq | map | tagged => simp [Yaml.isScalar] at scalar
    | _ => exact Build.tallies_report_none _ _ rfl

theorem badDefaults_eq (es fs : List (Yaml × Yaml)) (h : Yaml.Reordered (.map es) (.map fs)) :
    badDefaults es = badDefaults fs := by
  -- The defaults are looked up by their name, wherever they stand.
  have found := h.get? defaultsName
  unfold badDefaults Overlay.ofDocument
  generalize Yaml.get? es defaultsName = r, Yaml.get? fs defaultsName = r_ at found
  cases found with
  | none => rfl
  | some related => cases related <;> rfl

section

variable {α β : Type} {R : α → β → Prop} (what : String) (skips : String → Bool)
  (read : Yaml → Build (Option α)) (read' : Yaml → Build (Option β))

theorem tallies_named {loop : Entries α → List (Yaml × Yaml) → Build (Entries α)}
    {loop' : Entries β → List (Yaml × Yaml) → Build (Entries β)}
    (opened : ∀ es, loop [] es =
      (do return Entries.ofList (← gather (namedStep what skips read) es)))
    (opened' : ∀ es, loop' [] es =
      (do return Entries.ofList (← gather (namedStep what skips read') es)))
    (composed : ∀ v, Composed false (read' v))
    (reads : ∀ start v, Meets (Decoding start) (fun _ => False) (read' v) fun _ => True)
    (tallies : ∀ v w, v.Reordered w → Tallies (Option.Rel R) (read v) (read' w))
    (es fs : List (Yaml × Yaml)) (h : Yaml.Reordered (.map es) (.map fs)) :
    Tallies (Entries.Reordered R) (loop [] es) (loop' [] fs) := by
  obtain ⟨named, gs, pairs, order⟩ := h.entries
  refine tallies_loop opened opened' (fun e => scalarText? e.1)
    (fun e c f after => name_namedStep what skips read e c after f) es gs fs named.distinct ?_ order
    (fun g _ => (composed_namedStep what skips read' composed g).any)
    fun g _ => settled_namedStep what skips read' composed reads g
  exact pairs.imp fun e g related =>
    tallies_namedStep what skips read read' e g related.1 (tallies e.2 g.2 related.2)

end

end Decode

end PackSpec
