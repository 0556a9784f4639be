import Mathlib.Data.List.Forall2
import PackSpec.Entries
import PackSpec.Proofs.Build.Invariant
import PackSpec.Proofs.Build.Tallied

set_option autoImplicit false

namespace PackSpec

namespace Build

variable {α β γ δ : Type}

def Settled (b : Build α) : Prop :=
  ∀ c, c.diagnostics.mode = .lenient → ∃ a ds, b.run c = (.ok a, c.record ds)

theorem settled_of_meets {b : Build α} {records : Diagnostic → Prop} (composed : Composed true b)
    (meets : ∀ c, Meets (recording c records) (fun _ => False) b fun _ => True) : Settled b := by
  intro c lenient
  have framed := framed_run composed c
  have ran := meets c c (holds_start lenient)
  generalize b.run c = result at framed ran
  obtain ⟨_ | a, after⟩ := result
  · exact ran.2.elim
  · have steady : Framed false c after :=
      ⟨framed.mode, framed.index, framed.location, framed.keepsDefaults, framed.items,
        fun _ => ran.1.2.1⟩
    obtain ⟨ds, rfl⟩ := record_of_framed steady
    exact ⟨a, ds, rfl⟩

theorem Settled.pair {b : Build α} (settled : Settled b) (self : Tallies Eq b b) {c c' : Context}
    (beside : c.Beside c') : ∃ a ds ds', b.run c = (.ok a, c.record ds) ∧
      b.run c' = (.ok a, c'.record ds') ∧ (ds.map Diagnostic.mark).Perm (ds'.map Diagnostic.mark) := by
  obtain ⟨a, ds, ran⟩ := settled c beside.here
  obtain ⟨a', ds', ran'⟩ := settled c' beside.there
  obtain ⟨ends, _, new, new', items, items', marks⟩ := self c c' beside
  rw [ran, ran'] at ends
  rw [ran] at items
  rw [ran'] at items'
  obtain rfl : a = a' := ends
  obtain rfl : ds = new := List.append_cancel_left items
  obtain rfl : ds' = new' := List.append_cancel_left items'
  exact ⟨a, ds, ds', ran, ran', marks⟩

theorem tallies_swap {first : Build α} {second : Build β} {f : α → β → Build γ}
    {f' : α → β → Build δ} {S : γ → δ → Prop} (settled : Settled first) (settled_ : Settled second)
    (self : Tallies Eq first first) (self_ : Tallies Eq second second)
    (next : ∀ a b, Tallies S (f a b) (f' a b)) :
    Tallies S (first >>= fun a => second >>= fun b => f a b)
      (second >>= fun b => first >>= fun a => f' a b) := by
  intro c c' beside
  -- Each of them runs with the other one after it here, and before it there.
  obtain ⟨_, early', there⟩ := settled_ c' beside.there
  have apart : c.Beside (c'.record early') := c.record_nil ▸ beside.record [] early'
  obtain ⟨a, early, late', ran, ran', marks⟩ := settled.pair self apart
  have apart_ : (c.record early).Beside c' := c'.record_nil ▸ beside.record early []
  obtain ⟨b, late, again, ran_, ran_', marks_⟩ := settled_.pair self_ apart_
  rw [there] at ran_'
  obtain ⟨_, same⟩ := Prod.mk.inj ran_'
  obtain rfl : early' = again :=
    List.append_cancel_left (congrArg (fun c => c.diagnostics.items) same)
  rw [ran_'] at there
  have whole : Tally Eq c c' (.ok (), (c.record early).record late)
      (.ok (), (c'.record early').record late') := by
    refine ⟨rfl, (beside.record early early').record late late', early ++ late, early' ++ late', ?_,
      ?_, ?_⟩
    · rw [c.record_record]
      rfl
    · rw [c'.record_record]
      rfl
    · rw [List.map_append, List.map_append]
      exact (marks.append marks_).trans List.perm_append_comm
  rw [run_bind, ran]
  dsimp only
  rw [run_bind, ran_, run_bind, there]
  dsimp only
  rw [run_bind, ran']
  exact whole.after rfl rfl (next a b _ _ whole.beside)

def gather {ε : Type} (step : ε → Build (Option β)) : List ε → Build (List β)
  | [] => return []
  | e :: es => do
    let found ← step e
    return found.toList ++ (← gather step es)

section

variable {ε ζ : Type} {step : ε → Build (Option α)} {step' : ζ → Build (Option β)}

theorem gather_two (e f : ε) (es : List ε) :
    gather step (e :: f :: es) = step e >>= fun x => step f >>= fun y => do
      return x.toList ++ (y.toList ++ (← gather step es)) := by
  simp only [gather, bind_assoc, pure_bind]

theorem composed_gather {renames : Bool} (es : List ε)
    (steps : ∀ e ∈ es, Composed renames (step e)) : Composed renames (gather step es) := by
  induction es with
  | nil => exact .pure []
  | cons e es ih =>
    exact .bind _ _ (steps e (by simp)) fun _ =>
      .bind _ _ (ih fun f member => steps f (by simp [member])) fun _ => .pure _

theorem tallies_gather_pairs {R : α → β → Prop} (es : List ε) (gs : List ζ)
    (pairs : List.Forall₂ (fun e g => Tallies (Option.Rel R) (step e) (step' g)) es gs) :
    Tallies (List.Forall₂ R) (gather step es) (gather step' gs) := by
  induction pairs with
  | nil => exact tallies_pure .nil
  | cons first _ ih =>
    refine tallies_bind (Option.Rel R) first fun found found' related => ?_
    refine tallies_map (ih.mono fun rest rest' all => ?_)
    cases related with
    | some here => exact .cons here all
    | none => exact all

theorem tallies_gather_perm (es fs : List ε) (order : es.Perm fs)
    (steps : ∀ e ∈ es, Composed true (step e)) (settled : ∀ e ∈ es, Settled (step e)) :
    Tallies List.Perm (gather step es) (gather step fs) := by
  -- Only where two items change places must their steps be settled.
  induction order with
  | nil => exact tallies_pure .nil
  | cons e _ ih =>
    have rest := ih (fun f member => steps f (by simp [member]))
      fun f member => settled f (by simp [member])
    refine tallies_bind Eq (tallies_self (steps e (by simp))) ?_
    rintro found _ rfl
    exact tallies_map (rest.mono fun _ _ perm => perm.append_left _)
  | swap e f es =>
    rw [gather_two, gather_two]
    refine tallies_swap (settled f (by simp)) (settled e (by simp)) (tallies_self (steps f (by simp)))
      (tallies_self (steps e (by simp))) fun x y => ?_
    have rest := composed_gather es fun g member => steps g (by simp [member])
    refine tallies_map ((tallies_self rest).mono ?_)
    rintro found _ rfl
    rw [← List.append_assoc, ← List.append_assoc]
    exact List.perm_append_comm.append_right found
  | trans first _ ih ih_ =>
    have steps_ := fun e member => steps e (first.mem_iff.2 member)
    have both := tallies_trans (ih steps settled)
      (ih_ steps_ fun e member => settled e (first.mem_iff.2 member))
    exact both.mono fun _ _ ⟨_, perm, perm_⟩ => perm.trans perm_

theorem tallies_gather {R : α → β → Prop} (es : List ε) (gs fs : List ζ)
    (pairs : List.Forall₂ (fun e g => Tallies (Option.Rel R) (step e) (step' g)) es gs)
    (order : gs.Perm fs) (steps : ∀ g ∈ gs, Composed true (step' g))
    (settled : ∀ g ∈ gs, Settled (step' g)) :
    Tallies (fun xs zs => ∃ ys, List.Forall₂ R xs ys ∧ ys.Perm zs) (gather step es)
      (gather step' fs) :=
  tallies_trans (tallies_gather_pairs es gs pairs) (tallies_gather_perm gs fs order steps settled)

theorem not_some_of_none {b : Build β} {c after : Context} {a : α} :
    ¬ (b >>= fun _ => (return none : Build (Option α))).run c = (.ok (some a), after) := by
  rw [run_bind]
  rcases b.run c with ⟨_ | _, _⟩ <;> simp [run_pure]

theorem some_of_option {b : Build (Option β)} {f : β → α} {c after : Context} {a : α}
    (done : (do return (← b).map f : Build (Option α)).run c = (.ok (some a), after)) :
    ∃ x, f x = a := by
  rw [run_bind] at done
  generalize b.run c = result at done
  obtain ⟨_ | found, _⟩ := result
  · simp at done
  · obtain ⟨x, _, same⟩ := Option.map_eq_some_iff.1 (Except.ok.inj (Prod.mk.inj done).1)
    exact ⟨x, same⟩

theorem names_gather {step : ε → Build (Option (String × α))} (key : ε → Option String)
    (named : ∀ e c f after, (step e).run c = (.ok (some f), after) → key e = some f.1)
    (es : List ε) (c : Context) (xs : List (String × α)) (after : Context)
    (done : (gather step es).run c = (.ok xs, after)) :
    (Entries.names xs).Sublist (es.filterMap key) := by
  induction es generalizing c xs with
  | nil =>
    obtain rfl := Except.ok.inj (Prod.mk.inj done).1
    exact .slnil
  | cons e es ih =>
    rw [gather, Build.run_bind] at done
    generalize first : (step e).run c = result at done
    obtain ⟨_ | found, middle⟩ := result
    · simp at done
    dsimp only at done
    rw [Build.run_bind] at done
    generalize next : (gather step es).run middle = result at done
    obtain ⟨_ | rest, last⟩ := result
    · simp at done
    obtain ⟨same, rfl⟩ := Prod.mk.inj done
    obtain rfl := Except.ok.inj same
    have below := ih middle rest next
    cases found with
    | none =>
      rw [List.filterMap_cons]
      split
      · exact below
      · exact below.cons _
    | some f =>
      rw [List.filterMap_cons, named e c f middle first]
      exact below.cons_cons f.1

end

end Build

end PackSpec
