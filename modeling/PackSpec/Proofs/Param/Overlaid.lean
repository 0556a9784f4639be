import PackSpec.Proofs.Node.Trimmed
import PackSpec.Proofs.Param.Reordered

set_option autoImplicit false

namespace PackSpec

namespace Entries

variable {α : Type}

theorem names_erase (es : Entries α) (name : String) :
    names (erase es name) = (names es).filter (· != name) := by
  rw [names, names, erase, List.filter_map]
  rfl

theorem erase_put (es : Entries α) (name : String) (a : α) :
    erase (put es name a) name = erase es name := by
  unfold put erase
  split
  · rw [List.filter_map, ← List.map_id (es.filter fun e => e.1 != name)]
    have others : es.filter ((fun e => e.1 != name) ∘ fun e => if e.1 == name then (e.1, a) else e) =
        es.filter fun e => e.1 != name := by
      refine List.filter_congr fun e _ => ?_
      rw [Function.comp_apply]
      split <;> rfl
    rw [others]
    refine List.map_congr_left fun e member => ?_
    have other : e.1 ≠ name := by simpa using (List.mem_filter.1 member).2
    rw [if_neg (by simpa using other), id]
  · simp

theorem put_of_get? (es : Entries α) (name : String) (a : α) (distinct : Distinct es)
    (found : get? es name = some a) : put es name a = es := by
  have there : has es name = true := by rw [has_eq_isSome, found]; rfl
  rw [put, if_pos there]
  refine (List.map_congr_left fun e member => ?_).trans (List.map_id es)
  by_cases same : e.1 = name
  · have value := get?_of_mem es e distinct member
    rw [same, found] at value
    rw [if_pos (by simpa using same), Option.some.inj value, id]
  · rw [if_neg (by simpa using same), id]

end Entries

namespace Overlay

variable {α : Type}

open Entries (Distinct get? has names put erase)

theorem fill_nil (own : Entries α) : fill own [] = own := by
  simp [fill]

theorem own_first (own defaults : Entries α) : own <+: fill own defaults :=
  List.prefix_append own _

theorem has_fill (own defaults : Entries α) (name : String) :
    has (fill own defaults) name = (has own name || has defaults name) := by
  rw [Entries.has_eq_isSome, get?_fill, Option.isSome_or, ← Entries.has_eq_isSome,
    ← Entries.has_eq_isSome]

theorem fill_fill (own defaults : Entries α) : fill (fill own defaults) defaults = fill own defaults := by
  refine fill_of_has _ _ fun name member => ?_
  rw [has_fill, (Entries.has_iff defaults name).2 member, Bool.or_true]

theorem fillUnlessDefaults_again (defaults : Entries α) (c : Entries (Entries α)) :
    (c.map (fillUnlessDefaults defaults)).map (fillUnlessDefaults defaults) =
      c.map (fillUnlessDefaults defaults) := by
  rw [List.map_map]
  refine List.map_congr_left fun e _ => ?_
  rw [Function.comp_apply]
  by_cases itself : e.1 = defaultsName <;> simp [fillUnlessDefaults, itself, fill_fill]

theorem get?_map_fill (defaults : Entries α) (c : Entries (Entries α)) (name : String) :
    get? (c.map (fillUnlessDefaults defaults)) name =
      if name = defaultsName then get? c name else (get? c name).map (fill · defaults) := by
  induction c with
  | nil => simp [get?]
  | cons e c ih =>
    have named : (fillUnlessDefaults defaults e).1 = e.1 := by
      rw [fillUnlessDefaults]
      split <;> rfl
    rw [List.map_cons, Entries.get?_cons, Entries.get?_cons, ih, named]
    by_cases here : name = e.1
    · rw [if_pos here, if_pos here, fillUnlessDefaults, here]
      by_cases itself : e.1 = defaultsName <;> simp [itself]
    · rw [if_neg here, if_neg here]

theorem get?_kept (keep : Bool) (c : Entries α) (name : String) :
    get? (kept keep c) name =
      if name = defaultsName ∧ keep = false then none else get? c name := by
  cases keep with
  | true => simp [kept]
  | false => simp [kept, Entries.get?_erase]

theorem apply_of_some (keep : Bool) (c : Entries (Entries α)) (defaults : Entries α)
    (found : get? c defaultsName = some defaults) :
    apply keep c = (kept keep c).map (fillUnlessDefaults defaults) := by
  rw [apply, found]
  rfl

theorem apply_again (keep : Bool) (c : Entries (Entries α)) :
    apply keep (apply keep c) = apply keep c := by
  cases keep with
  | false =>
    refine apply_of_none false _ (Entries.get?_eq_none _ _ ?_)
    rw [names_apply]
    exact absent_kept c
  | true =>
    cases found : get? c defaultsName with
    | none => rw [apply_of_none true c found, apply_of_none true c found]
    | some defaults =>
      have kept_ : get? (apply true c) defaultsName = some defaults := by
        rw [apply_of_some true c defaults found, get?_map_fill, if_pos rfl]
        exact found
      rw [apply_of_some true _ defaults kept_, apply_of_some true c defaults found]
      exact fillUnlessDefaults_again defaults c

theorem apply_false_true (c : Entries (Entries α)) : apply false (apply true c) = apply false c := by
  rw [apply_false (apply true c), apply_again, ← apply_false]

theorem get?_seeded (seed : Entries α) (c : Entries (Entries α)) :
    get? (seeded seed c) defaultsName = some (fill ((get? c defaultsName).getD []) seed) := by
  rw [seeded, Entries.get?_put, if_pos rfl]

theorem get?_seeded_of_ne (seed : Entries α) (c : Entries (Entries α)) (name : String)
    (other : name ≠ defaultsName) : get? (seeded seed c) name = get? c name := by
  rw [seeded, Entries.get?_put, if_neg other]

theorem names_seeded (seed : Entries α) (c : Entries (Entries α)) :
    names (seeded seed c) =
      if has c defaultsName then names c else names c ++ [defaultsName] := by
  unfold seeded
  split
  · next there => exact Entries.names_put_of_has c _ _ there
  · next absent => exact Entries.names_put_of_not_has c _ _ (by simpa using absent)

theorem names_applyWith (seed : Entries α) (keep : Bool) (c : Entries (Entries α)) :
    names (applyWith seed keep c) =
      if keep then (if has c defaultsName then names c else names c ++ [defaultsName])
      else (names c).filter (· != defaultsName) := by
  rw [applyWith, names_apply, kept]
  cases keep with
  | true => exact names_seeded seed c
  | false => simp only [Bool.false_eq_true, if_false, seeded, Entries.erase_put, Entries.names_erase]

theorem get?_applyWith (seed : Entries α) (keep : Bool) (c : Entries (Entries α)) (name : String) :
    get? (applyWith seed keep c) name =
      if name = defaultsName then
        if keep then some (fill ((get? c defaultsName).getD []) seed) else none
      else (get? c name).map (fill · (fill ((get? c defaultsName).getD []) seed)) := by
  rw [applyWith, apply_of_some keep _ _ (get?_seeded seed c), get?_map_fill, get?_kept]
  by_cases itself : name = defaultsName
  · cases keep <;> simp [itself, get?_seeded]
  · simp [itself, get?_seeded_of_ne seed c name itself]

structure Unrepeated (c : Entries (Entries α)) : Prop where
  entries : Distinct c
  fields : ∀ e ∈ c, Distinct e.2

theorem Unrepeated.seeded {c : Entries (Entries α)} (unrepeated : Unrepeated c) (seed : Entries α)
    (distinct : Distinct seed) : Unrepeated (seeded seed c) := by
  refine ⟨Entries.distinct_put c _ _ unrepeated.entries, fun e member => ?_⟩
  have found := Entries.get?_of_mem _ e (Entries.distinct_put c _ _ unrepeated.entries) member
  rw [Entries.get?_put] at found
  split at found
  · rw [← Option.some.inj found]
    refine Entries.distinct_fill _ seed ?_ distinct
    cases given_ : get? c defaultsName with
    | none => exact List.nodup_nil
    | some defaults => exact unrepeated.fields _ (Entries.mem_of_get? c _ _ given_)
  · exact unrepeated.fields _ (Entries.mem_of_get? c _ _ found)

theorem Unrepeated.apply {c : Entries (Entries α)} (unrepeated : Unrepeated c) (keep : Bool) :
    Unrepeated (apply keep c) := by
  refine ⟨?_, all_apply keep c Entries.distinct_fill unrepeated.fields⟩
  rw [Distinct, names_apply]
  exact nodup_kept keep c unrepeated.entries

/-- What an overlay with a seed makes of a collection. A field that is set to nothing is set. -/
structure Overlaid (seed : Entries α) (keep : Bool) (c overlaid : Entries (Entries α)) : Prop where
  unrepeated : Unrepeated overlaid
  order : names overlaid =
    if keep then (if has c defaultsName then names c else names c ++ [defaultsName])
    else (names c).filter (· != defaultsName)
  fields : ∀ name own, name ≠ defaultsName → get? c name = some own →
    ∃ full, get? overlaid name = some full ∧ own <+: full ∧
      ∀ field, get? full field =
        ((get? own field).or ((get? c defaultsName).bind (get? · field))).or (get? seed field)
  defaults : keep = true →
    ∃ full, get? overlaid defaultsName = some full ∧ (get? c defaultsName).getD [] <+: full ∧
      ∀ field, get? full field =
        ((get? c defaultsName).bind (get? · field)).or (get? seed field)

theorem get?_getD (c : Entries (Entries α)) (name field : String) :
    get? ((get? c name).getD []) field = (get? c name).bind (get? · field) := by
  cases get? c name <;> rfl

theorem overlaid_applyWith (seed : Entries α) (keep : Bool) (c : Entries (Entries α))
    (unrepeated : Unrepeated c) (distinct : Distinct seed) :
    Overlaid seed keep c (applyWith seed keep c) := by
  refine ⟨(unrepeated.seeded seed distinct).apply keep, names_applyWith seed keep c, ?_, ?_⟩
  · intro name own other found
    refine ⟨fill own (fill ((get? c defaultsName).getD []) seed), ?_, own_first _ _, fun field => ?_⟩
    · rw [get?_applyWith, if_neg other, found, Option.map_some]
    · rw [get?_fill, get?_fill, get?_getD, Option.or_assoc]
  · rintro rfl
    refine ⟨fill ((get? c defaultsName).getD []) seed, ?_, own_first _ _, fun field => ?_⟩
    · rw [get?_applyWith, if_pos rfl, if_pos rfl]
    · rw [get?_fill, get?_getD]

theorem apply_of_seedless (keep : Bool) (c : Entries (Entries α)) (distinct : Distinct c) :
    apply keep c = if has c defaultsName then applyWith [] keep c else c := by
  rw [Entries.has_eq_isSome]
  cases found : get? c defaultsName with
  | none => rw [apply_of_none keep c found, if_neg (by simp)]
  | some defaults =>
    rw [if_pos (by simp), applyWith, seeded, found, Option.getD_some, fill_nil,
      Entries.put_of_get? c _ _ distinct found]

theorem seeded_applyWith (seed : Entries α) (c : Entries (Entries α)) (distinct : Distinct c) :
    seeded seed (applyWith seed true c) = applyWith seed true c := by
  have found : get? (applyWith seed true c) defaultsName =
      some (fill ((get? c defaultsName).getD []) seed) := by
    rw [get?_applyWith, if_pos rfl, if_pos rfl]
  have distinct_ : Distinct (applyWith seed true c) := by
    rw [Distinct, applyWith, names_apply]
    exact nodup_kept true _ (Entries.distinct_put c _ _ distinct)
  rw [seeded, found, Option.getD_some, fill_fill]
  exact Entries.put_of_get? _ _ _ distinct_ found

theorem applyWith_of_seeded (seed : Entries α) (c : Entries (Entries α))
    (absent : defaultsName ∉ names c)
    (full : ∀ e ∈ c, ∀ field ∈ names seed, has e.2 field = true) :
    applyWith seed false c = c := by
  have none_ := Entries.get?_eq_none c _ absent
  have kept_ : kept false (seeded seed c) = c := by
    rw [kept, if_neg (by simp), seeded, Entries.erase_put, erase_of_none c _ none_]
  rw [applyWith, apply_of_some false _ _ (get?_seeded seed c), kept_]
  refine (List.map_congr_left fun e member => ?_).trans (List.map_id c)
  have other : e.1 ≠ defaultsName := fun same => absent (same ▸ List.mem_map_of_mem member)
  have set_ : ∀ field ∈ names (fill ((get? c defaultsName).getD []) seed), has e.2 field = true := by
    intro field named
    refine full e member field ((Entries.has_iff seed field).1 ?_)
    rw [← Entries.has_iff, has_fill, none_] at named
    exact named
  rw [fillUnlessDefaults, if_neg (by simpa using other), fill_of_has _ _ set_, id]

theorem applyWith_again (seed : Entries α) (keep : Bool) (c : Entries (Entries α))
    (distinct : Distinct c) :
    applyWith seed keep (applyWith seed keep c) = applyWith seed keep c := by
  cases keep with
  | true =>
    rw [applyWith, seeded_applyWith seed c distinct]
    exact apply_again true _
  | false =>
    refine applyWith_of_seeded seed _ ?_ ?_
    · rw [applyWith, names_apply]
      exact absent_kept _
    · intro e member field named
      rw [applyWith, apply_of_some false _ _ (get?_seeded seed c)] at member
      obtain ⟨own, inside, rfl⟩ := List.mem_map.1 member
      have other : own.1 ≠ defaultsName := fun same =>
        absent_kept (seeded seed c) (List.mem_map.2 ⟨own, inside, same⟩)
      rw [fillUnlessDefaults, if_neg (by simpa using other), has_fill, has_fill,
        (Entries.has_iff seed field).2 named, Bool.or_true, Bool.or_true]

theorem applyWith_false_true (seed : Entries α) (c : Entries (Entries α)) (distinct : Distinct c) :
    applyWith seed false (applyWith seed true c) = applyWith seed false c := by
  rw [applyWith, seeded_applyWith seed c distinct, applyWith, apply_false_true]
  rfl

/-- Each entry keeps its own fields, first and in their order, and has below them the fields of the
defaults and those of the seed. To overlay again changes nothing, and neither does it matter whether
defaults that are dropped in the end were kept at first. -/
theorem overlays_exactly (seed : Entries α) (keep : Bool) (c : Entries (Entries α))
    (unrepeated : Unrepeated c) (distinct : Distinct seed) :
    Overlaid seed keep c (applyWith seed keep c) ∧
      apply keep c = (if has c defaultsName then applyWith [] keep c else c) ∧
      applyWith seed keep (applyWith seed keep c) = applyWith seed keep c ∧
      apply keep (apply keep c) = apply keep c ∧
      applyWith seed false (applyWith seed true c) = applyWith seed false c ∧
      apply false (apply true c) = apply false c :=
  ⟨overlaid_applyWith seed keep c unrepeated distinct,
    apply_of_seedless keep c unrepeated.entries, applyWith_again seed keep c unrepeated.entries,
    apply_again keep c, applyWith_false_true seed c unrepeated.entries, apply_false_true c⟩

def parts : Children :=
  [("Fan", [("label", .null), ("order", .int 3)]),
    (defaultsName, [("label", .str "Part"), ("width", .null)]), ("Pod", [])]

def partSeed : Params := [("width", .int 80), ("order", .int 50), ("depth", .int 2)]

theorem overlays_parts :
    Unrepeated parts ∧ Distinct partSeed ∧
      names (applyWith partSeed true parts) = ["Fan", defaultsName, "Pod"] ∧
      applyWith partSeed true (applyWith partSeed true parts) = applyWith partSeed true parts ∧
      ∃ full, get? (applyWith partSeed true parts) "Fan" = some full ∧
        [("label", .null), ("order", .int 3)] <+: full ∧ get? full "width" = some .null ∧
        get? full "depth" = some (.int 2) ∧ get? full "height" = none := by
  have distinct : Distinct partSeed := by unfold Distinct; decide
  have unrepeated : Unrepeated parts := by
    refine ⟨by unfold Distinct; decide, ?_⟩
    simp only [parts, List.forall_mem_cons]
    refine ⟨?_, ?_, ?_, List.forall_mem_nil _⟩ <;> unfold Distinct <;> decide
  obtain ⟨overlaid, -, again, -⟩ := overlays_exactly partSeed true parts unrepeated distinct
  obtain ⟨full, found, first, fields⟩ := overlaid.fields "Fan" _ (by decide) rfl
  exact ⟨unrepeated, distinct, overlaid.order, again, full, found, first, fields "width",
    fields "depth", fields "height"⟩

end Overlay

end PackSpec
