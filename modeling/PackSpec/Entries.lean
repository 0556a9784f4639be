set_option autoImplicit false

namespace PackSpec

abbrev Entries (α : Type) : Type := List (String × α)

namespace Entries

variable {α β : Type}

def names (es : Entries α) : List String := es.map Prod.fst

def Distinct (es : Entries α) : Prop := (names es).Nodup

def get? (es : Entries α) (name : String) : Option α := es.lookup name

def has (es : Entries α) (name : String) : Bool := es.any fun e => e.1 == name

def put (es : Entries α) (name : String) (value : α) : Entries α :=
  if has es name then es.map fun e => if e.1 == name then (e.1, value) else e
  else es ++ [(name, value)]

def erase (es : Entries α) (name : String) : Entries α :=
  es.filter fun e => e.1 != name

def ofList (es : List (String × α)) : Entries α :=
  es.foldl (fun acc e => put acc e.1 e.2) []

def mapValues (f : α → β) (es : Entries α) : Entries β :=
  es.map fun e => (e.1, f e.2)

theorem names_mapValues (f : α → β) (es : Entries α) : names (mapValues f es) = names es := by
  simp [names, mapValues]

theorem has_iff (es : Entries α) (name : String) : has es name = true ↔ name ∈ names es := by
  simp only [has, names, List.any_eq_true, beq_iff_eq, List.mem_map]

theorem names_put_of_has (es : Entries α) (name : String) (value : α) (h : has es name = true) :
    names (put es name value) = names es := by
  simp only [put, h, if_true, names, List.map_map]
  refine List.map_congr_left fun e _ => ?_
  simp only [Function.comp_apply]
  split <;> rfl

theorem names_put_of_not_has (es : Entries α) (name : String) (value : α)
    (h : has es name = false) : names (put es name value) = names es ++ [name] := by
  simp [put, h, names]

theorem mem_names_put (es : Entries α) (name other : String) (a : α) :
    other ∈ names (put es name a) ↔ other ∈ names es ∨ other = name := by
  cases there : has es name with
  | true =>
    rw [names_put_of_has es name a there]
    exact ⟨.inl, fun h => h.elim id fun same => same ▸ (has_iff es name).1 there⟩
  | false => rw [names_put_of_not_has es name a there, List.mem_append, List.mem_singleton]

theorem mem_names_puts (value : String × α → β) (es : List (String × α)) (acc : Entries β)
    (name : String) :
    name ∈ names (es.foldl (fun acc e => put acc e.1 (value e)) acc) ↔
      name ∈ names acc ∨ name ∈ names es := by
  induction es generalizing acc with
  | nil => simp [names]
  | cons e es ih =>
    rw [List.foldl_cons, ih, mem_names_put, or_assoc]
    simp [names]

theorem distinct_put (es : Entries α) (name : String) (value : α) (h : Distinct es) :
    Distinct (put es name value) := by
  unfold Distinct at *
  cases hn : has es name with
  | true => rw [names_put_of_has es name value hn]; exact h
  | false =>
    have absent : name ∉ names es := by
      intro hm
      have := (has_iff es name).2 hm
      simp [hn] at this
    rw [names_put_of_not_has es name value hn]
    exact List.nodup_append.2 ⟨h, by simp, by simp; exact fun a ha e => absent (e ▸ ha)⟩

theorem get?_cons (e : String × α) (es : Entries α) (name : String) :
    get? (e :: es) name = if name = e.1 then some e.2 else get? es name := by
  obtain ⟨key, value⟩ := e
  by_cases h : name = key
  · simp [get?, h]
  · have : (name == key) = false := beq_eq_false_iff_ne.2 h
    simp [get?, List.lookup_cons, h, this]

theorem has_cons (e : String × α) (es : Entries α) (name : String) :
    has (e :: es) name = (decide (name = e.1) || has es name) := by
  simp only [has, List.any_cons]
  by_cases h : name = e.1
  · simp [h]
  · simp [h, Ne.symm h]

theorem get?_append (es fs : Entries α) (name : String) :
    get? (es ++ fs) name = (get? es name).or (get? fs name) := by
  induction es with
  | nil => rfl
  | cons e es ih =>
    rw [List.cons_append, get?_cons, get?_cons, ih]
    by_cases h : name = e.1 <;> simp [h]

theorem has_eq_isSome (es : Entries α) (name : String) :
    has es name = (get? es name).isSome := by
  induction es with
  | nil => rfl
  | cons e es ih =>
    rw [has_cons, get?_cons, ih]
    by_cases h : name = e.1 <;> simp [h]

theorem get?_mapValues (f : α → β) (es : Entries α) (name : String) :
    get? (mapValues f es) name = (get? es name).map f := by
  induction es with
  | nil => rfl
  | cons e es ih =>
    have cons : mapValues f (e :: es) = (e.1, f e.2) :: mapValues f es := rfl
    rw [cons, get?_cons, get?_cons, ih]
    by_cases h : name = e.1 <;> simp [h]

theorem get?_filter (keep : String → Bool) (es : Entries α) (name : String) :
    get? (es.filter fun e => keep e.1) name = if keep name then get? es name else none := by
  induction es with
  | nil => simp [get?]
  | cons e es ih =>
    rw [List.filter_cons, get?_cons]
    by_cases here : name = e.1
    · subst here
      cases kept : keep e.1 with
      | false => simpa [kept] using ih
      | true => simp [get?_cons]
    · cases keep e.1 <;> simp [ih, get?_cons, here]

theorem get?_erase (es : Entries α) (name other : String) :
    get? (erase es name) other = if other = name then none else get? es other := by
  rw [erase, get?_filter fun key => key != name]
  by_cases here : other = name <;> simp [here]

theorem get?_replace (es : Entries α) (name : String) (value : α) (other : String) :
    get? (es.map fun e => if e.1 == name then (e.1, value) else e) other =
      if other = name then (get? es other).map fun _ => value else get? es other := by
  induction es with
  | nil => simp [get?]
  | cons e es ih =>
    rw [List.map_cons, get?_cons, get?_cons, ih]
    by_cases h : e.1 = name
    · by_cases ho : other = name <;> simp [h, ho]
    · by_cases ho : other = e.1
      · have : other ≠ name := ho ▸ h
        simp [ho, h]
      · simp [ho, h]

theorem get?_put (es : Entries α) (name : String) (value : α) (other : String) :
    get? (put es name value) other = if other = name then some value else get? es other := by
  unfold put
  split
  · next h =>
    rw [get?_replace]
    rw [has_eq_isSome] at h
    by_cases ho : other = name
    · obtain ⟨v, hv⟩ := Option.isSome_iff_exists.1 h
      simp [ho, hv]
    · simp [ho]
  · next h =>
    rw [has_eq_isSome] at h
    rw [get?_append, get?_cons]
    by_cases ho : other = name
    · simp [ho, Option.not_isSome_iff_eq_none.1 h]
    · simp [ho, get?]

theorem distinct_erase (es : Entries α) (name : String) (h : Distinct es) :
    Distinct (erase es name) :=
  h.sublist (List.filter_sublist.map _)

theorem distinct_ofList (es : List (String × α)) : Distinct (ofList es) := by
  have step : ∀ (es : List (String × α)) (acc : Entries α), Distinct acc →
      Distinct (es.foldl (fun acc e => put acc e.1 e.2) acc) := by
    intro es
    induction es with
    | nil => exact fun _ h => h
    | cons e es ih => exact fun acc h => ih _ (distinct_put acc e.1 e.2 h)
  exact step es [] List.nodup_nil

end Entries

end PackSpec
