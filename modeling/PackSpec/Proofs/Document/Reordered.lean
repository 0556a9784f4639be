import Mathlib.Data.List.Forall2
import PackSpec.Proofs.Node.Building
import PackSpec.Proofs.Yaml.Same

set_option autoImplicit false

namespace PackSpec

theorem forall₂_pairs_iff {κ α β : Type} {R : α → β → Prop} (es : List (κ × α)) (gs : List (κ × β)) :
    List.Forall₂ (fun e g => e.1 = g.1 ∧ R e.2 g.2) es gs ↔
      es.map Prod.fst = gs.map Prod.fst ∧ List.Forall₂ R (es.map Prod.snd) (gs.map Prod.snd) := by
  induction es generalizing gs with
  | nil => cases gs <;> simp
  | cons e es ih =>
    cases gs with
    | nil => simp
    | cons g gs =>
      simp only [List.forall₂_cons, ih, List.map_cons, List.cons.injEq]
      tauto

namespace Yaml

def isScalar : Yaml → Bool
  | .seq _ | .map _ | .tagged .. => false
  | _ => true

structure Named (es : List (Yaml × Yaml)) : Prop where
  scalars : ∀ e ∈ es, isScalar e.1 = true
  distinct : (es.filterMap fun e => Decode.scalarText? e.1).Nodup

/-- The same value but for the order of the entries of mappings, at any depth. -/
inductive Reordered : Yaml → Yaml → Prop where
  | scalar (v : Yaml) (scalar : isScalar v = true) : Reordered v v
  | seq (xs ys : List Yaml) (items : List.Forall₂ Reordered xs ys) : Reordered (.seq xs) (.seq ys)
  | map (es gs fs : List (Yaml × Yaml)) (named : Named es)
      (keys : es.map Prod.fst = gs.map Prod.fst)
      (values : List.Forall₂ Reordered (es.map Prod.snd) (gs.map Prod.snd))
      (order : gs.Perm fs) : Reordered (.map es) (.map fs)
  | tagged (tag : String) (v w : Yaml) (inside : Reordered v w) :
      Reordered (.tagged tag v) (.tagged tag w)

namespace Named

variable {es fs : List (Yaml × Yaml)}

theorem of_keys (named : Named es) (keys : es.map Prod.fst = fs.map Prod.fst) : Named fs := by
  have texts (gs : List (Yaml × Yaml)) :
      (gs.filterMap fun e => Decode.scalarText? e.1) =
        (gs.map Prod.fst).filterMap Decode.scalarText? := by
    rw [List.filterMap_map]
    rfl
  constructor
  · intro f member
    have key : f.1 ∈ es.map Prod.fst := keys ▸ List.mem_map.2 ⟨f, member, rfl⟩
    obtain ⟨e, there, same⟩ := List.mem_map.1 key
    exact same ▸ named.scalars e there
  · rw [texts, ← keys, ← texts]
    exact named.distinct

theorem of_perm (named : Named es) (order : es.Perm fs) : Named fs :=
  ⟨fun f member => named.scalars f (order.mem_iff.2 member),
    (order.filterMap _).nodup_iff.1 named.distinct⟩

theorem tail {e : Yaml × Yaml} (named : Named (e :: es)) : Named es := by
  refine ⟨fun f member => named.scalars f (by simp [member]), ?_⟩
  have distinct := named.distinct
  rw [List.filterMap_cons] at distinct
  split at distinct
  · exact distinct
  · exact distinct.tail

theorem apart {e : Yaml × Yaml} {text : String} (named : Named (e :: es))
    (first : Decode.scalarText? e.1 = some text) :
    ∀ f ∈ es, Decode.scalarText? f.1 ≠ some text := by
  intro f member second
  have distinct := named.distinct
  rw [List.filterMap_cons, first] at distinct
  exact (List.nodup_cons.1 distinct).1 (List.mem_filterMap.2 ⟨f, member, second⟩)

end Named

theorem same_str (key : Yaml) (text : String) : key.same (.str text) = true ↔ key = .str text := by
  cases key <;> simp [same]

theorem get?_cons (e : Yaml × Yaml) (es : List (Yaml × Yaml)) (key : String) :
    get? (e :: es) key = if e.1.same (.str key) then some e.2 else get? es key := by
  rw [get?, find?, List.find?_cons]
  cases e.1.same (.str key) <;> rfl

theorem get?_eq_some_iff (es : List (Yaml × Yaml)) (named : Named es) (key : String) (v : Yaml) :
    get? es key = some v ↔ (.str key, v) ∈ es := by
  induction es with
  | nil => simp [get?, find?]
  | cons e es ih =>
    rw [get?_cons, List.mem_cons]
    by_cases here : e.1 = .str key
    · -- The entry that is looked for is the first one, and no other has its key.
      have text : Decode.scalarText? e.1 = some key := by rw [here]; rfl
      have other : (Yaml.str key, v) ∉ es := fun later => named.apart text _ later rfl
      rw [if_pos ((same_str e.1 key).2 here), Option.some.injEq, Prod.ext_iff]
      constructor
      · exact fun same => .inl ⟨here.symm, same.symm⟩
      · rintro (⟨_, same⟩ | later)
        · exact same.symm
        · exact absurd later other
    · have other : (Yaml.str key, v) ≠ e := fun same => here (same ▸ rfl)
      rw [if_neg fun equal => here ((same_str e.1 key).1 equal), ih named.tail]
      simp [other]

namespace Reordered

variable {v w : Yaml}

theorem untagged : ∀ v w : Yaml, Reordered v w → Reordered v.untagged w.untagged
  | .tagged tag v, _, h => by
    cases h with
    | scalar _ scalar => simp [isScalar] at scalar
    | tagged _ _ w inside => exact untagged v w inside
  | .seq xs, _, h => by
    cases h with
    | scalar _ scalar => exact .scalar _ scalar
    | seq _ ys items => exact .seq xs ys items
  | .map es, _, h => by
    cases h with
    | scalar _ scalar => exact .scalar _ scalar
    | map _ gs fs named keys values order => exact .map es gs fs named keys values order
  | .null, _, h | .bool _, _, h | .int _, _, h | .float _, _, h | .str _, _, h => by
    cases h
    exact .scalar _ rfl

theorem isNull_eq (h : Reordered v w) : v.isNull = w.isNull := by
  have inside := untagged v w h
  unfold isNull
  generalize v.untagged = a, w.untagged = b at inside
  cases inside <;> rfl

theorem text?_eq (h : Reordered v w) : v.text? = w.text? := by
  have inside := untagged v w h
  unfold text?
  generalize v.untagged = a, w.untagged = b at inside
  cases inside <;> rfl

theorem describe_eq (h : Reordered v w) : v.describe = w.describe := by
  cases h <;> rfl

theorem scalarText?_eq (h : Reordered v w) : Decode.scalarText? v = Decode.scalarText? w := by
  cases h <;> rfl

theorem mapM_scalarText? (xs ys : List Yaml) (items : List.Forall₂ Reordered xs ys) :
    xs.mapM Decode.scalarText? = ys.mapM Decode.scalarText? := by
  induction items with
  | nil => rfl
  | cons first _ ih => rw [List.mapM_cons, List.mapM_cons, first.scalarText?_eq, ih]

theorem texts?_eq (h : Reordered v w) : Decode.texts? v = Decode.texts? w := by
  cases h with
  | scalar | map | tagged => rfl
  | seq xs ys items => exact mapM_scalarText? xs ys items

theorem coerce_eq (shape : Param.Shape) (h : Reordered v w) :
    Decode.coerce shape v = Decode.coerce shape w := by
  -- Scalars and lists of them are all that is read as a value of a flat shape.
  have texts := h.texts?_eq
  cases h with
  | scalar => rfl
  | map | tagged => cases shape <;> rfl
  | seq xs ys items =>
    cases shape with
    | strs | classRefs => simp only [Decode.coerce, texts]
    | typedBy => simp only [Decode.coerce, Decode.untyped?, texts]
    | _ => rfl

end Reordered

theorem Reordered.entries {es fs : List (Yaml × Yaml)} (h : Reordered (.map es) (.map fs)) :
    Named es ∧ ∃ gs, List.Forall₂ (fun e g => e.1 = g.1 ∧ Reordered e.2 g.2) es gs ∧ gs.Perm fs := by
  cases h with
  | scalar _ scalar => simp [isScalar] at scalar
  | map _ gs _ named keys values order =>
    exact ⟨named, gs, (forall₂_pairs_iff es gs).2 ⟨keys, values⟩, order⟩

theorem Reordered.named {es fs : List (Yaml × Yaml)} (h : Reordered (.map es) (.map fs)) :
    Named fs := by
  obtain ⟨named, gs, pairs, order⟩ := h.entries
  exact (named.of_keys ((forall₂_pairs_iff es gs).1 pairs).1).of_perm order

theorem Reordered.get? {es fs : List (Yaml × Yaml)} (h : Reordered (.map es) (.map fs))
    (key : String) : Option.Rel Reordered (Yaml.get? es key) (Yaml.get? fs key) := by
  obtain ⟨named, gs, pairs, order⟩ := h.entries
  have found := get?_eq_some_iff fs h.named key
  cases here : Yaml.get? es key with
  | some v =>
    have member := (get?_eq_some_iff es named key v).1 here
    obtain ⟨⟨_, w⟩, there, rfl, related⟩ := Node.exists_of_forall₂ _ _ pairs.flip _ member
    rw [(found w).2 (order.mem_iff.1 there)]
    exact .some related
  | none =>
    cases there : Yaml.get? fs key with
    | none => exact .none
    | some w =>
      -- What stands at the key in the second mapping stands at it in the first one too.
      have member := order.mem_iff.2 ((found w).1 there)
      obtain ⟨⟨_, v⟩, entry, rfl, _⟩ := Node.exists_of_forall₂ _ _ pairs _ member
      have found_ := (get?_eq_some_iff es named key v).2 entry
      simp [here] at found_

mutual

theorem same_of_reordered : ∀ v w : Yaml, Reordered v w → same v w = true
  | .seq xs, _, h => by
    cases h with
    | scalar _ scalar => simp [isScalar] at scalar
    | seq _ ys items => exact sameItems_of_reordered xs ys items
  | .map es, _, h => by
    cases h with
    | scalar _ scalar => simp [isScalar] at scalar
    | map _ gs fs _ keys values order =>
      have length : es.length = fs.length := by
        rw [← order.length_eq, ← List.length_map Prod.fst, keys, List.length_map]
      rw [same, length, entriesIn_of_reordered es gs fs keys values fun g => order.mem_iff.1]
      simp
  | .tagged tag v, _, h => by
    cases h with
    | scalar _ scalar => simp [isScalar] at scalar
    | tagged _ _ w inside => simp [same, same_of_reordered v w inside]
  | .null, _, h | .bool _, _, h | .int _, _, h | .float _, _, h | .str _, _, h => by
    cases h
    exact same_refl _

theorem sameItems_of_reordered : ∀ xs ys : List Yaml, List.Forall₂ Reordered xs ys →
    sameItems xs ys = true
  | [], _, .nil => rfl
  | x :: xs, _, .cons first rest => by
    rw [sameItems, same_of_reordered x _ first, sameItems_of_reordered xs _ rest]
    rfl

theorem entriesIn_of_reordered : ∀ es gs fs : List (Yaml × Yaml),
    es.map Prod.fst = gs.map Prod.fst →
    List.Forall₂ Reordered (es.map Prod.snd) (gs.map Prod.snd) → (∀ g, g ∈ gs → g ∈ fs) →
    entriesIn es fs = true
  | [], _, _, _, _, _ => rfl
  | (key, v) :: es, [], _, _, values, _ => by simp at values
  | (key, v) :: es, g :: gs, fs, keys, values, inside => by
    obtain ⟨rfl, others⟩ := List.cons.inj keys
    obtain ⟨first, rest⟩ := List.forall₂_cons.1 values
    -- The entry of the first mapping is found at its key, wherever that stands in the second one.
    have here : (fs.any fun f => same g.1 f.1 && same v f.2) = true :=
      List.any_eq_true.2 ⟨g, inside g (by simp), by
        rw [same_refl, same_of_reordered v g.2 first]
        rfl⟩
    rw [entriesIn, here, entriesIn_of_reordered es gs fs others rest fun g member =>
      inside g (by simp [member])]
    rfl

end

end Yaml

end PackSpec
