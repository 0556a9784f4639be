import PackSpec.Proofs.Yaml.Keyed
import PackSpec.Yaml.Document

set_option autoImplicit false

namespace PackSpec.Yaml

namespace Document

section

variable {α β γ : Type} {P : α → Prop} {Q : β → Prop}

-- Whatever number of aliases were followed before.
def Yields (b : Build α) (P : α → Prop) : Prop :=
  ∀ n a m, b.run n = .ok (a, m) → P a

theorem yields_any (b : Build α) : Yields b fun _ => True :=
  fun _ _ _ _ => trivial

theorem yields_pure (a : α) (holds : P a) : Yields (pure a : Build α) P := by
  intro n b m ran
  obtain ⟨rfl, -⟩ := Prod.mk.inj (Except.ok.inj ran)
  exact holds

theorem yields_throw (f : Fault) : Yields (throw f : Build α) P := by
  intro n a m ran
  cases ran

theorem yields_bind {b : Build α} {f : α → Build β} (first : Yields b P)
    (next : ∀ a, P a → Yields (f a) Q) : Yields (b >>= f) Q := by
  intro n c m ran
  rw [StateT.run_bind] at ran
  cases made : b.run n with
  | error e =>
    rw [made] at ran
    cases ran
  | ok found =>
    rw [made] at ran
    exact next found.1 (first n found.1 found.2 made) found.2 c m ran

theorem yields_mapM (f : γ → Build α) (each : ∀ x, Yields (f x) P) (xs : List γ) :
    Yields (xs.mapM f) fun vs => ∀ v ∈ vs, P v := by
  induction xs with
  | nil => exact yields_pure [] (by simp)
  | cons x xs ih =>
    rw [List.mapM_cons]
    refine yields_bind (each x) fun v holds => yields_bind ih fun vs all => ?_
    exact yields_pure (v :: vs) (List.forall_mem_cons.2 ⟨holds, all⟩)

theorem yields_foldlM (f : α → γ → Build α) (each : ∀ a x, P a → Yields (f a x) P) (xs : List γ)
    (a : α) (holds : P a) : Yields (xs.foldlM f a) P := by
  induction xs generalizing a with
  | nil => exact yields_pure a holds
  | cons x xs ih =>
    rw [List.foldlM_cons]
    exact yields_bind (each a x holds) ih

end

theorem keyed_map {α : Type} {f : α → Yaml} (r : Except String α) (v : Yaml)
    (keyed : ∀ a, r = .ok a → (f a).Keyed) (made : r.map f = .ok v) : v.Keyed := by
  cases r with
  | error e => cases made
  | ok a => exact Except.ok.inj made ▸ keyed a rfl

theorem keyed_ofPlain (text : String) (v : Yaml) (made : ofPlain text = some v) : v.Keyed := by
  have number (x : Option Decimal.Binary64) : ((x.map Yaml.float).getD (.str text)).Keyed := by
    cases x with
    | none => exact .str text
    | some x => exact .float x
  unfold ofPlain at made
  split at made
  · exact Option.some.inj made ▸ .null
  split at made
  · exact Option.some.inj made ▸ .bool _
  split at made
  · split at made
    · exact Option.some.inj made ▸ .int _
    split at made
    · cases made
    · exact Option.some.inj made ▸ number _
  · split at made
    · exact Option.some.inj made ▸ .str text
    · exact Option.some.inj made ▸ number _

theorem keyed_untagged (form : Form) (text : String) (v : Yaml)
    (made : untagged form text = .ok v) : v.Keyed := by
  unfold untagged at made
  split at made
  · split at made
    · next plain => exact keyed_ofPlain text v (Except.ok.inj made ▸ plain)
    · cases made
    · exact Except.ok.inj made ▸ .str text
  · exact Except.ok.inj made ▸ .str text

theorem keyed_integer (text : String) (v : Yaml) (made : integer text = .ok v) : v.Keyed := by
  unfold integer at made
  cases read : expected "an integer" text (Plain.int? text) with
  | error e =>
    rw [read] at made
    cases made
  | ok n =>
    rw [read] at made
    cases fits : Integer.ofInt? n with
    | some i =>
      simp only [fits, bind, Except.bind] at made
      exact Except.ok.inj made ▸ .int i
    | none =>
      simp only [fits, bind, Except.bind] at made
      split at made <;> cases made

theorem keyed_standardScalar (tag : TagText) (text : String) (v : Yaml)
    (made : standardScalar tag text = .ok v) : v.Keyed := by
  unfold standardScalar at made
  split at made
  · exact keyed_map _ v (fun b _ => .bool b) made
  split at made
  · exact keyed_integer text v made
  split at made
  · exact keyed_map _ v (fun x _ => .float x) made
  split at made
  · split at made
    · exact Except.ok.inj made ▸ .null
    · cases made
  · exact Except.ok.inj made ▸ .str text

theorem keyed_scalar (tag : Option TagText) (form : Form) (text : String) (v : Yaml)
    (made : scalar tag form text = .ok v) : v.Keyed := by
  unfold scalar at made
  split at made
  · exact keyed_untagged form text v made
  split at made
  · split at made
    · next name _ =>
      exact keyed_map _ v
        (fun inside read => .tagged name inside (keyed_untagged form text inside read)) made
    · exact keyed_untagged form text v made
  · exact keyed_standardScalar _ text v made

theorem keyed_withTag (tag : Option String) (v : Yaml) (keyed : v.Keyed) : (withTag tag v).Keyed := by
  cases tag with
  | none => exact keyed
  | some name => exact .tagged name v keyed

theorem keyed_append (es : List (Yaml × Yaml)) (key v : Yaml) (keyed : Keyed (.map es))
    (fresh : hasKey es key = false) (keyed_ : key.Keyed) (value : v.Keyed) :
    Keyed (.map (es ++ [(key, v)])) := by
  obtain _ | _ | _ | _ | _ | _ | ⟨_, once, keys, values⟩ := keyed
  refine .map _ (List.pairwise_append.2 ⟨once, List.pairwise_singleton _ _, ?_⟩) ?_ ?_
  · intro e member f last
    rw [List.mem_singleton.1 last]
    exact Bool.eq_false_iff.2 (List.any_eq_false.1 fresh e member)
  · exact List.forall_mem_append.2 ⟨keys, List.forall_mem_singleton.2 keyed_⟩
  · exact List.forall_mem_append.2 ⟨values, List.forall_mem_singleton.2 value⟩

theorem keyed_buildNode (s : Source) (inside : Option Builder)
    (below : ∀ b, inside = some b → ∀ path ignoreTag node, Yields (b path ignoreTag node) Keyed)
    (path : Path) (ignoreTag : Bool) (node : Node) :
    Yields (buildNode s inside path ignoreTag node) Keyed := by
  have deeper_ (m : Mark) : Yields (deeper m inside)
      fun b => ∀ path ignoreTag node, Yields (b path ignoreTag node) Keyed := by
    cases inside with
    | none => exact yields_throw _
    | some b => exact yields_pure b (below b rfl)
  refine yields_bind (yields_any _) fun ⟨ignoreTag, node⟩ _ => ?_
  cases node with
  | scalar m p form text =>
    dsimp only
    generalize (if ignoreTag then none else p.tag) = tag
    unfold buildScalar
    cases made : scalar tag form text with
    | ok v => exact yields_pure v (keyed_scalar tag form text v made)
    | error problem => exact yields_throw _
  | seq m p items =>
    refine yields_bind (deeper_ m) fun b below => ?_
    refine yields_bind (yields_mapM _ (fun _ => below _ _ _) _) fun vs all => ?_
    exact yields_pure _ (keyed_withTag _ _ (.seq vs all))
  | map m p entries =>
    refine yields_bind (deeper_ m) fun b below => ?_
    have entry (ignoreTag : Bool) (before : List (Yaml × Yaml)) (e : Node × Node)
        (keyed : Keyed (.map before)) :
        Yields (buildEntry b path m ignoreTag before e) fun es => Keyed (.map es) := by
      refine yields_bind (below _ _ e.1) fun key keyed_ => ?_
      cases fresh : hasKey before key with
      | true => exact yields_throw _
      | false =>
        refine yields_bind (below _ _ e.2) fun v value => ?_
        exact yields_pure _ (keyed_append before key v keyed fresh keyed_ value)
    refine yields_bind (yields_foldlM _ (entry _) entries [] (.map [] .nil (by simp) (by simp)))
      fun es keyed => ?_
    exact yields_pure _ (keyed_withTag _ _ keyed)
  | _ => exact yields_throw _

theorem keyed_build (s : Source) (nesting : Nat) (path : Path) (ignoreTag : Bool) (node : Node) :
    Yields (build s nesting path ignoreTag node) Keyed := by
  induction nesting generalizing path ignoreTag node with
  | zero => exact keyed_buildNode s none (fun b none_ => by cases none_) path ignoreTag node
  | succ nesting ih =>
    refine keyed_buildNode s _ (fun b same => ?_) path ignoreTag node
    obtain rfl := Option.some.inj same
    exact ih

theorem keyed_ofNode (root : Node) (v : Yaml) (made : ofNode root = .ok v) : v.Keyed := by
  unfold ofNode at made
  dsimp only at made
  generalize ran : (build ⟨root.anchored, 100 * root.parts⟩ mostNesting none false root).run 0 =
    result at made
  rcases result with _ | ⟨found, followed⟩
  · cases made
  · exact Except.ok.inj made ▸ keyed_build _ _ _ _ root 0 found followed ran

theorem hasRepeatedKey_eq_false (es : List (Yaml × Yaml)) (keys : ∀ e ∈ es, e.1.Keyed)
    (once : es.Pairwise fun e f => same e.1 f.1 = false) : hasRepeatedKey es = false := by
  induction es with
  | nil => rfl
  | cons e es ih =>
    obtain ⟨fresh, later⟩ := List.pairwise_cons.1 once
    obtain ⟨first, rest⟩ := List.forall_mem_cons.1 keys
    rw [hasRepeatedKey, ih rest later, Bool.or_false]
    refine List.any_eq_false.2 fun f member same_ => ?_
    have back := same_symm f.1 e.1 (rest f member) first same_
    simp [fresh f member] at back

end Document

/-- A document that can be read has each key of a mapping once, at every depth. -/
theorem keyed_read (text : String) (v : Yaml) (done : read text = .ok v) : v.Keyed := by
  have keyed : ∀ w, valueOf (parse text).root = .ok w → w.Keyed := by
    cases (parse text).root with
    | none => exact fun w made => Except.ok.inj made ▸ .null
    | some root => exact Document.keyed_ofNode root
  unfold read at done
  split at done
  · cases done
  · cases done
  · next made _ => exact keyed v (Except.ok.inj done ▸ made)

theorem Keyed.hasRepeatedKey {es : List (Yaml × Yaml)} (keyed : Keyed (.map es)) :
    Document.hasRepeatedKey es = false := by
  obtain _ | _ | _ | _ | _ | _ | ⟨_, once, keys, _⟩ := keyed
  exact Document.hasRepeatedKey_eq_false es keys once

end PackSpec.Yaml
