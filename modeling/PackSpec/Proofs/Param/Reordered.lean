import PackSpec.Proofs.Document.Reordered

set_option autoImplicit false

namespace PackSpec

namespace Entries

variable {α β γ δ : Type} {R : α → β → Prop} {S : γ → δ → Prop}

/-- The same names with related values, in another order. -/
inductive Reordered (R : α → β → Prop) : Entries α → Entries β → Prop where
  | intro (gs : Entries β) (es : Entries α) (fs : Entries β) (distinct : Distinct es)
      (names : es.map Prod.fst = gs.map Prod.fst)
      (values : List.Forall₂ R (es.map Prod.snd) (gs.map Prod.snd)) (order : gs.Perm fs) :
      Reordered R es fs

namespace Reordered

variable {es : Entries α} {fs : Entries β}

theorem nil : Reordered R [] [] := .intro [] [] [] List.nodup_nil rfl .nil (.refl _)

theorem of_pairs {gs : Entries β} (distinct : Distinct es)
    (pairs : List.Forall₂ (fun e g => e.1 = g.1 ∧ R e.2 g.2) es gs) (order : gs.Perm fs) :
    Reordered R es fs := by
  obtain ⟨names, values⟩ := (forall₂_pairs_iff es gs).1 pairs
  exact .intro gs es fs distinct names values order

theorem pairs (h : Reordered R es fs) :
    ∃ gs, List.Forall₂ (fun e g => e.1 = g.1 ∧ R e.2 g.2) es gs ∧ gs.Perm fs := by
  obtain ⟨gs, _, _, _, names, values, order⟩ := h
  exact ⟨gs, (forall₂_pairs_iff es gs).2 ⟨names, values⟩, order⟩

theorem distinct (h : Reordered R es fs) : Distinct es := by
  obtain ⟨_, _, _, distinct, _, _, _⟩ := h
  exact distinct

theorem perm_names (h : Reordered R es fs) : (names es).Perm (names fs) := by
  obtain ⟨gs, _, _, _, names_, _, order⟩ := h
  rw [names, names_]
  exact order.map _

theorem distinct_right (h : Reordered R es fs) : Distinct fs := h.perm_names.nodup_iff.1 h.distinct

theorem length_eq (h : Reordered R es fs) : es.length = fs.length := by
  simpa [names] using h.perm_names.length_eq

theorem has_eq (h : Reordered R es fs) (name : String) : has es name = has fs name := by
  rw [Bool.eq_iff_iff, has_iff, has_iff, h.perm_names.mem_iff]

theorem get? (h : Reordered R es fs) (name : String) :
    Option.Rel R (Entries.get? es name) (Entries.get? fs name) := by
  obtain ⟨gs, pairs, order⟩ := h.pairs
  cases here : Entries.get? es name with
  | some a =>
    have member := mem_of_get? es name a here
    obtain ⟨⟨_, b⟩, there, rfl, related⟩ := Node.exists_of_forall₂ _ _ pairs.flip _ member
    rw [get?_of_mem fs (name, b) h.distinct_right (order.mem_iff.1 there)]
    exact .some related
  | none =>
    have absent : Entries.get? fs name = none := by
      have has_ := h.has_eq name
      rw [has_eq_isSome, has_eq_isSome, here] at has_
      simpa using has_.symm
    rw [absent]
    exact .none

theorem of_found (distinct : Distinct es) (distinct_ : Distinct fs)
    (found : ∀ name, Option.Rel R (Entries.get? es name) (Entries.get? fs name)) :
    Reordered R es fs := by
  -- The entries of the second list in the order of the first one.
  let gs : Entries β := es.filterMap fun e => (Entries.get? fs e.1).map fun b => (e.1, b)
  have pairs (part : Entries α) (inside : ∀ e ∈ part, Entries.get? es e.1 = some e.2) :
      List.Forall₂ (fun e g => e.1 = g.1 ∧ R e.2 g.2) part
        (part.filterMap fun e => (Entries.get? fs e.1).map fun b => (e.1, b)) := by
    induction part with
    | nil => exact .nil
    | cons e part ih =>
      have here := found e.1
      rw [inside e (by simp)] at here
      rw [List.filterMap_cons]
      generalize Entries.get? fs e.1 = r at here
      cases here with
      | some related => exact .cons ⟨rfl, related⟩ (ih fun f member => inside f (by simp [member]))
  have all := pairs es fun e member => get?_of_mem es e distinct member
  have names_ : names es = names gs := ((forall₂_pairs_iff es gs).1 all).1
  have order : gs.Perm fs := by
    -- Neither list has a name twice, so it is enough that they have the same entries.
    have distinctGs : Distinct gs := by
      rw [Distinct, ← names_]
      exact distinct
    refine (List.perm_ext_iff_of_nodup (.of_map Prod.fst distinctGs)
      (.of_map Prod.fst distinct_)).2 fun g => ?_
    rw [List.mem_filterMap]
    constructor
    · rintro ⟨e, _, made⟩
      obtain ⟨b, there, rfl⟩ := Option.map_eq_some_iff.1 made
      exact mem_of_get? fs e.1 b there
    · intro member
      have there := get?_of_mem fs g distinct_ member
      have here := found g.1
      rw [there] at here
      generalize looked : Entries.get? es g.1 = r at here
      cases here with
      | some => exact ⟨_, mem_of_get? es g.1 _ looked, by rw [there]; rfl⟩
  exact of_pairs distinct all order

theorem put {a : α} {b : β} (h : Reordered R es fs) (name : String) (related : R a b) :
    Reordered R (Entries.put es name a) (Entries.put fs name b) := by
  refine of_found (distinct_put es name a h.distinct) (distinct_put fs name b h.distinct_right) ?_
  intro other
  rw [get?_put, get?_put]
  split
  · exact .some related
  · exact h.get? other

theorem erase (h : Reordered R es fs) (name : String) :
    Reordered R (Entries.erase es name) (Entries.erase fs name) := by
  refine of_found (distinct_erase es name h.distinct) (distinct_erase fs name h.distinct_right) ?_
  intro other
  rw [get?_erase, get?_erase]
  split
  · exact .none
  · exact h.get? other

theorem map {f : String × α → γ} {g : String × β → δ} (h : Reordered R es fs)
    (related : ∀ name a b, R a b → S (f (name, a)) (g (name, b))) :
    Reordered S (es.map fun e => (e.1, f e)) (fs.map fun e => (e.1, g e)) := by
  obtain ⟨gs, pairs, order⟩ := h.pairs
  have distinct : Distinct (es.map fun e => (e.1, f e)) := by
    rw [Distinct, names, List.map_map]
    exact h.distinct
  have changed : List.Forall₂ (fun e k => e.1 = k.1 ∧ S e.2 k.2) (es.map fun e => (e.1, f e))
      (gs.map fun e => (e.1, g e)) := by
    rw [List.forall₂_map_left_iff, List.forall₂_map_right_iff]
    refine pairs.imp fun e k same => ?_
    obtain ⟨name, a⟩ := e
    obtain ⟨_, b⟩ := k
    obtain ⟨rfl, related_⟩ := same
    exact ⟨rfl, related name a b related_⟩
  exact of_pairs distinct changed (order.map _)

end Reordered

theorem distinct_fill (own defaults : Entries α) (distinct : Distinct own)
    (distinct_ : Distinct defaults) : Distinct (Overlay.fill own defaults) := by
  rw [Distinct, names, Overlay.fill, List.map_append]
  refine List.nodup_append.2 ⟨distinct, distinct_.sublist (List.filter_sublist.map _), ?_⟩
  intro name first other second same
  obtain ⟨e, filled, rfl⟩ := List.mem_map.1 second
  -- Only fields that are not set are filled in.
  have unset := (List.mem_filter.1 filled).2
  have set_ : has own e.1 = true := (has_iff own e.1).2 (same ▸ first)
  simp [set_] at unset

theorem Reordered.fill {own defaults : Entries α} {own_ defaults_ : Entries β}
    (h : Reordered R own own_) (below : Reordered R defaults defaults_) :
    Reordered R (Overlay.fill own defaults) (Overlay.fill own_ defaults_) := by
  refine of_found (distinct_fill _ _ h.distinct below.distinct)
    (distinct_fill _ _ h.distinct_right below.distinct_right) ?_
  intro name
  rw [Overlay.get?_fill, Overlay.get?_fill]
  have here := h.get? name
  generalize Entries.get? own name = r, Entries.get? own_ name = r_ at here
  cases here with
  | some related => exact .some related
  | none => exact below.get? name

theorem Reordered.apply {cs : Entries (Entries α)} {ds : Entries (Entries β)}
    (h : Reordered (Reordered R) cs ds) (keeps : Bool) :
    Reordered (Reordered R) (Overlay.apply keeps cs) (Overlay.apply keeps ds) := by
  -- Wherever the defaults stand in a collection, they are laid under the same siblings.
  have kept : Reordered (Reordered R) (Overlay.kept keeps cs) (Overlay.kept keeps ds) := by
    cases keeps with
    | true => exact h
    | false => exact h.erase defaultsName
  have defaults := h.get? defaultsName
  unfold Overlay.apply
  generalize Entries.get? cs defaultsName = r, Entries.get? ds defaultsName = r_ at defaults
  cases defaults with
  | none => exact h
  | @some a b below =>
    have named {ε : Type} (under : Entries ε) : Overlay.fillUnlessDefaults under =
        fun e => (e.1, if e.1 == defaultsName then e.2 else Overlay.fill e.2 under) := by
      funext e
      rw [Overlay.fillUnlessDefaults]
      split <;> rfl
    dsimp only
    rw [named a, named b]
    refine kept.map (f := fun e => if e.1 == defaultsName then e.2 else Overlay.fill e.2 a)
      (g := fun e => if e.1 == defaultsName then e.2 else Overlay.fill e.2 b) ?_
    intro name own own_ related
    dsimp only
    split
    · exact related
    · exact related.fill below

end Entries

namespace Param

inductive Value.Reordered : Param.Value → Param.Value → Prop where
  | flat (v : Param.Value) (flat : v.child? = none) : Reordered v v
  | dict (es fs : List (Yaml × Yaml)) (entries : Yaml.Reordered (.map es) (.map fs)) :
      Reordered (.dict es) (.dict fs)
  | specs (k : Kind) (cs ds : Children)
      (entries : Entries.Reordered (Entries.Reordered Reordered) cs ds) :
      Reordered (.specs k cs) (.specs k ds)
  | groups (k : Kind) (gs hs : Groups)
      (entries : Entries.Reordered (Entries.Reordered (Entries.Reordered Reordered)) gs hs) :
      Reordered (.groups k gs) (.groups k hs)

end Param

abbrev Params.Reordered : Params → Params → Prop := Entries.Reordered Param.Value.Reordered

namespace Params

open Param.Value (Reordered)

variable {ps qs : Params} (h : Params.Reordered ps qs) (name : String)

include h

theorem Reordered.value : (Params.value ps name).Reordered (Params.value qs name) := by
  have found := h.get? name
  unfold Params.value
  generalize Entries.get? ps name = r, Entries.get? qs name = r_ at found
  cases found with
  | some related => exact related
  | none => exact .flat .null rfl

theorem Reordered.isNull_eq : (Params.value ps name).isNull = (Params.value qs name).isNull := by
  have value := Reordered.value h name
  generalize Params.value ps name = v, Params.value qs name = w at value
  cases value <;> rfl

theorem Reordered.str?_eq : Params.str? ps name = Params.str? qs name := by
  have value := Reordered.value h name
  unfold Params.str?
  generalize Params.value ps name = v, Params.value qs name = w at value
  cases value <;> rfl

theorem Reordered.str_eq : Params.str ps name = Params.str qs name := by
  rw [Params.str, Reordered.str?_eq h, Params.str]

theorem Reordered.classRefs_eq : Params.classRefs ps name = Params.classRefs qs name := by
  have value := Reordered.value h name
  unfold Params.classRefs
  generalize Params.value ps name = v, Params.value qs name = w at value
  cases value <;> rfl

theorem Reordered.relationships_eq : Params.relationships ps name = Params.relationships qs name := by
  have value := Reordered.value h name
  unfold Params.relationships
  generalize Params.value ps name = v, Params.value qs name = w at value
  cases value <;> rfl

theorem Reordered.children : Entries.Reordered Params.Reordered (Params.children ps name)
    (Params.children qs name) := by
  have value := Reordered.value h name
  unfold Params.children
  generalize Params.value ps name = v, Params.value qs name = w at value
  cases value with
  | specs _ _ _ entries => exact entries
  | dict | groups => exact .nil
  | flat _ flat =>
    cases v with
    | specs => simp [Param.Value.child?] at flat
    | _ => exact .nil

end Params

namespace Param

theorem Value.reordered_emptyValue (s : Shape) : s.emptyValue.Reordered s.emptyValue := by
  cases s with
  | specs child => exact .specs child [] [] .nil
  | groups child => exact .groups child [] [] .nil
  | _ => exact .flat _ rfl

theorem reordered_defaultValue (p : Param) (d : Param.Value) (given_ : p.defaultValue = some d) :
    d.Reordered d := by
  unfold defaultValue at given_
  cases made : p.default with
  | required => simp [made] at given_
  | empty =>
    rw [made] at given_
    exact Option.some.inj given_ ▸ Value.reordered_emptyValue p.shape
  | int n =>
    rw [made] at given_
    rw [← Option.some.inj given_]
    split <;> exact .flat _ rfl
  | _ =>
    rw [made] at given_
    exact Option.some.inj given_ ▸ .flat _ rfl

theorem reordered_accept_flat (s : Shape) (v u : Param.Value) (flat : v.child? = none)
    (accepted : s.accept v = some u) : u.Reordered u := by
  -- Only an empty collection is read from a value that is not one, and that of a null.
  cases s with
  | classRef | relationship | typedBy => exact Option.some.inj accepted ▸ .flat v flat
  | specs child =>
    cases v with
    | null => exact Option.some.inj accepted ▸ .specs child [] [] .nil
    | specs => simp [Value.child?] at flat
    | _ => simp [Shape.accept] at accepted
  | groups child =>
    cases v with
    | null => exact Option.some.inj accepted ▸ .groups child [] [] .nil
    | groups => simp [Value.child?] at flat
    | _ => simp [Shape.accept] at accepted
  | severity =>
    cases v with
    | null | severity => exact Option.some.inj accepted ▸ .flat _ rfl
    | int n =>
      obtain ⟨level, _, rfl⟩ := Option.map_eq_some_iff.1 accepted
      exact .flat _ rfl
    | _ => simp [Shape.accept] at accepted
  | _ =>
    cases v <;> first
      | exact Option.some.inj accepted ▸ .flat _ rfl
      | simp [Shape.accept] at accepted

theorem reordered_accept (s : Shape) (v w : Param.Value) (h : v.Reordered w) :
    Option.Rel Value.Reordered (s.accept v) (s.accept w) := by
  cases h with
  | flat _ flat =>
    cases accepted : s.accept v with
    | none => exact .none
    | some u => exact .some (reordered_accept_flat s v u flat accepted)
  | dict es fs entries =>
    cases s <;> first
      | exact .none
      | exact .some (.dict es fs entries)
  | specs k cs ds entries =>
    cases s with
    | specs child =>
      simp only [Shape.accept]
      split
      · next same => exact .some (same ▸ .specs k cs ds entries)
      · exact .none
    | classRef | relationship | typedBy => exact .some (.specs k cs ds entries)
    | _ => exact .none
  | groups k gs hs entries =>
    cases s with
    | groups child =>
      simp only [Shape.accept]
      split
      · next same => exact .some (same ▸ .groups k gs hs entries)
      · exact .none
    | classRef | relationship | typedBy => exact .some (.groups k gs hs entries)
    | _ => exact .none

theorem reordered_settled (p : Param) (found found_ : Option Param.Value)
    (h : Option.Rel Value.Reordered found found_) :
    Option.Rel Value.Reordered (p.settled found) (p.settled found_) := by
  have default : Option.Rel Value.Reordered p.defaultValue p.defaultValue := by
    cases given_ : p.defaultValue with
    | none => exact .none
    | some d => exact .some (p.reordered_defaultValue d given_)
  cases h with
  | none => exact default
  | @some v w related =>
    -- A null is the same as nothing, on both sides.
    by_cases null : v = .null
    · subst null
      cases related
      exact default
    · have null_ : w ≠ .null := by
        cases related with
        | flat => exact null
        | _ => simp
      rw [p.settled_some v null, p.settled_some w null_]
      exact .some related

theorem reordered_read (k : Kind) (p : Param) (found found_ : Option Param.Value)
    (h : Option.Rel Value.Reordered found found_) :
    (p.read k found).Reordered (p.read k found_) := by
  have settled := p.reordered_settled found found_ h
  unfold Param.read Param.reading
  generalize p.settled found = r, p.settled found_ = r_ at settled
  cases settled with
  | none => exact .flat .null rfl
  | @some v w related =>
    have accepted := reordered_accept p.shape v w related
    dsimp only
    generalize p.shape.accept v = a, p.shape.accept w = b at accepted
    cases accepted with
    | none => exact .flat .null rfl
    | some related_ => exact related_

end Param

end PackSpec
