import PackSpec.Proofs.Specification.Lineage

set_option autoImplicit false

namespace PackSpec.Lineage

open Relation (ReflTransGen TransGen)

variable {classes : Children}

/-- The classes that a depth-first search comes to in the bases at the end of a path. The search
remembers the path only, so it comes to a class once for each way to it that does not turn back. -/
def listing (classes : Children) (path : List String) : List String → List String
  | [] => []
  | base :: rest =>
    if _ : Entries.has classes base = true ∧ base ∉ path then
      base :: (listing classes (base :: path) (ownBases classes base) ++ listing classes path rest)
    else listing classes path rest
termination_by bases => ((unseen classes path).length, bases.length)
decreasing_by
  · next fresh => exact .left _ _ (unseen_cons_lt path base fresh.1 fresh.2)
  · exact .right _ (Nat.lt_succ_self _)
  · exact .right _ (Nat.lt_succ_self _)

theorem not_mem_path_of_listing (path bases : List String) (name : String)
    (member : name ∈ listing classes path bases) : name ∉ path := by
  fun_induction listing classes path bases with
  | case1 => simp at member
  | case2 path base rest fresh inner later =>
    rcases List.mem_cons.1 member with rfl | below
    · exact fresh.2
    · rcases List.mem_append.1 below with inside | after
      · exact fun onPath => inner inside (.tail _ onPath)
      · exact later after
  | case3 path base rest _ later => exact later member

def Walk.visitAll (w : Walk) (names : List String) : Walk :=
  names.foldl (fun w name => if name ∈ w.seen then w else w.visit name) w

theorem Walk.visitAll_of_seen (w : Walk) (names : List String) (all : ∀ name ∈ names, name ∈ w.seen) :
    w.visitAll names = w := by
  induction names with
  | nil => rfl
  | cons name names ih =>
    rw [visitAll, List.foldl_cons, if_pos (all name (.head _))]
    exact ih fun other member => all other (.tail _ member)

theorem Walk.found_visitAll (w : Walk) (names : List String) :
    (w.visitAll names).found = w.found ++ (names.filter fun name => !w.seen.contains name).eraseDups := by
  induction names generalizing w with
  | nil => simp [visitAll]
  | cons name names ih =>
    have rest (w : Walk) : (names.foldl (fun w name =>
        if name ∈ w.seen then w else w.visit name) w).found = _ := ih w
    rw [visitAll, List.foldl_cons, rest]
    by_cases seen : name ∈ w.seen
    · simp [seen]
    · rw [if_neg seen, List.filter_cons_of_pos (by simpa using seen), List.eraseDups_cons,
        List.filter_filter]
      simp [visit, beq_eq_decide]

def Finished (classes : Children) (path seen : List String) : Prop :=
  ∀ name ∈ seen, name ∉ path → ∀ base, Base classes name base → base ∈ seen

theorem seen_of_listing (path bases seen : List String) (finished : Finished classes path seen)
    (all : ∀ base ∈ bases, Entries.has classes base = true → base ∈ seen) :
    ∀ name ∈ listing classes path bases, name ∈ seen := by
  fun_induction listing classes path bases with
  | case1 => simp
  | case2 path base rest fresh inner later =>
    have here := all base (.head _) fresh.1
    have later_ := later finished fun other member => all other (.tail _ member)
    have inner_ := inner (fun name there off => finished name there fun onPath => off (.tail _ onPath))
      fun other own defined => finished base here fresh.2 other ⟨own, defined⟩
    intro name member
    rcases List.mem_cons.1 member with rfl | below
    · exact here
    · exact (List.mem_append.1 below).elim (inner_ name) (later_ name)
  | case3 path base rest _ later =>
    exact later finished fun other member => all other (.tail _ member)

theorem visitAll_of_visits {bases : List String} {w after : Walk}
    (visits : Visits classes true bases w after) (path : List String) (within : path ⊆ w.seen)
    (finished : Finished classes path w.seen) : after = w.visitAll (listing classes path bases) := by
  induction visits generalizing path with
  | done w => rw [listing]; rfl
  | @skip base rest w after passed _ ih =>
    rw [listing]
    split
    · next fresh =>
      -- The class is finished, so there is nothing below it that has not been seen.
      have here : base ∈ w.seen := passed.resolve_left (by simp [fresh.1])
      have below := seen_of_listing (base :: path) (ownBases classes base) w.seen
        (fun name there off => finished name there fun onPath => off (.tail _ onPath))
        fun other own defined => finished base here fresh.2 other ⟨own, defined⟩
      have none_ := w.visitAll_of_seen (base :: listing classes (base :: path) (ownBases classes base))
        (List.forall_mem_cons.2 ⟨here, below⟩)
      rw [ih path within finished, ← List.cons_append, Walk.visitAll, Walk.visitAll,
        List.foldl_append]
      exact congrArg (fun w => List.foldl _ w _) none_.symm
    · exact ih path within finished
  | @visit base rest w below after defined fresh inner later ihInner ihLater =>
    rw [listing, dif_pos ⟨defined, fun onPath => fresh (within onPath)⟩]
    have entered : below =
        (w.visit base).visitAll (listing classes (base :: path) (ownBases classes base)) :=
      ihInner (base :: path) (List.cons_subset_cons base within) fun name there off other isBase => by
        rcases List.mem_cons.1 there with rfl | before
        · exact absurd (List.mem_cons_self ..) off
        · exact .tail _ (finished name before (fun onPath => off (.tail _ onPath)) other isBase)
    have left := ihLater path (fun _ onPath => inner.seen_subset (.tail _ (within onPath)))
      fun name there off other isBase => by
        rcases inner.closed name there with before | done
        · rcases List.mem_cons.1 before with rfl | earlier
          · exact inner.bases_seen other isBase.1 isBase.2
          · exact inner.seen_subset (.tail _ (finished name earlier off other isBase))
        · exact done other isBase
    rw [left, entered]
    simp only [Walk.visitAll, List.foldl_cons, List.foldl_append, if_neg fresh]

theorem ancestors_eq (classes : Children) (name : String) :
    ancestors classes true name =
      (listing classes [name] (ownBases classes name)).eraseDups := by
  have finished : Finished classes [name] [name] := fun _ there off => absurd there off
  have walked := visitAll_of_visits (visits_ancestors classes true name) [name]
    (List.Subset.refl _) finished
  have others : (listing classes [name] (ownBases classes name)).filter
      (fun other => !([name] : List String).contains other) =
      listing classes [name] (ownBases classes name) :=
    List.filter_eq_self.2 fun other member => by
      simpa using not_mem_path_of_listing _ _ other member
  rw [ancestors, walked, Walk.found_visitAll, List.nil_append, others]

theorem reaches_iff (name other : String) :
    other ≠ name ∧ Reaches classes name other ↔
      other ≠ name ∧ TransGen (Base classes) name other := by
  refine and_congr_right fun distinct => ?_
  rw [Reaches, Relation.reflTransGen_iff_eq_or_transGen]
  exact or_iff_right distinct

theorem unseen_append (order : List String) (name : String) :
    unseen classes (order ++ [name]) = unseen classes (name :: order) := by
  simp [unseen, Bool.and_comm]

def fresh (classes : Children) : List String → List String → List String
  | _, [] => []
  | order, base :: rest =>
    if Entries.has classes base && !order.contains base then
      base :: fresh classes (order ++ [base]) rest
    else fresh classes order rest

theorem foldl_fresh (order bases stack : List String) :
    bases.foldl (fun (stack, order) base =>
        if Entries.has classes base && !order.contains base then (base :: stack, order ++ [base])
        else (stack, order)) (stack, order) =
      ((fresh classes order bases).reverse ++ stack, order ++ fresh classes order bases) := by
  fun_induction fresh classes order bases generalizing stack with
  | case1 => simp
  | case2 order base rest taken ih =>
    rw [List.foldl_cons]
    dsimp only
    rw [if_pos taken, ih]
    simp
  | case3 order base rest passed ih =>
    rw [List.foldl_cons]
    dsimp only
    rw [if_neg passed, ih]

theorem mem_of_fresh (order bases : List String) (name : String)
    (member : name ∈ fresh classes order bases) :
    name ∈ bases ∧ Entries.has classes name = true := by
  fun_induction fresh classes order bases with
  | case1 => simp at member
  | case2 order base rest taken ih =>
    rcases List.mem_cons.1 member with rfl | later
    · exact ⟨.head _, (Bool.and_eq_true_iff.1 taken).1⟩
    · exact ⟨.tail _ (ih later).1, (ih later).2⟩
  | case3 order base rest _ ih => exact ⟨.tail _ (ih member).1, (ih member).2⟩

theorem nodup_fresh (order bases : List String) (distinct : order.Nodup) :
    (order ++ fresh classes order bases).Nodup := by
  fun_induction fresh classes order bases with
  | case1 => simpa using distinct
  | case2 order base rest taken ih =>
    have new : base ∉ order := by simpa using (Bool.and_eq_true_iff.1 taken).2
    have longer : (order ++ [base]).Nodup := by
      simpa [List.nodup_append, distinct] using fun name member => ne_of_mem_of_not_mem member new
    simpa using ih longer
  | case3 order base rest _ ih => exact ih distinct

theorem mem_fresh (order bases : List String) (base : String) (member : base ∈ bases)
    (defined : Entries.has classes base = true) : base ∈ order ++ fresh classes order bases := by
  fun_induction fresh classes order bases with
  | case1 => simp at member
  | case2 order first rest _ ih =>
    rcases List.mem_cons.1 member with rfl | later
    · simp
    · simpa using ih later
  | case3 order first rest passed ih =>
    rcases List.mem_cons.1 member with rfl | later
    · exact List.mem_append_left _ (by simpa [defined] using passed)
    · exact ih later

theorem length_fresh (order bases : List String) :
    (fresh classes order bases).length + (unseen classes (order ++ fresh classes order bases)).length ≤
      (unseen classes order).length := by
  fun_induction fresh classes order bases with
  | case1 => simp
  | case2 order base rest taken ih =>
    obtain ⟨defined, new⟩ := Bool.and_eq_true_iff.1 taken
    have shrinks := unseen_cons_lt order base defined (by simpa using new)
    rw [unseen_append, List.append_assoc, List.singleton_append] at ih
    rw [List.length_cons]
    omega
  | case3 order base rest _ ih => exact ih

/-- Where the worklist has come to: no class comes twice, all of them are reached, and those whose
bases have not been taken are still on the stack. -/
structure Working (classes : Children) (name : String) (stack order : List String) : Prop where
  once : order.Nodup
  begun : name ∈ order
  stacked : stack ⊆ order
  reached : ∀ other ∈ order, Reaches classes name other
  closed : ∀ other ∈ order, other ∈ stack ∨ ∀ base, Base classes other base → base ∈ order

theorem Working.step {name current : String} {stack order : List String}
    (working : Working classes name (current :: stack) order) :
    let taken := fresh classes order (ownBases classes current).reverse
    Working classes name (taken.reverse ++ stack) (order ++ taken) := by
  refine ⟨nodup_fresh _ _ working.once, List.mem_append_left _ working.begun, fun other member => ?_,
    fun other member => ?_, fun other member => ?_⟩
  · rcases List.mem_append.1 member with new | older
    · exact List.mem_append_right _ (List.mem_reverse.1 new)
    · exact List.mem_append_left _ (working.stacked (.tail _ older))
  · rcases List.mem_append.1 member with older | new
    · exact working.reached other older
    · obtain ⟨isOwn, defined⟩ := mem_of_fresh _ _ other new
      exact (working.reached current (working.stacked (.head _))).tail
        ⟨List.mem_reverse.1 isOwn, defined⟩
  · rcases List.mem_append.1 member with older | new
    · rcases working.closed other older with waiting | done
      · rcases List.mem_cons.1 waiting with rfl | later
        · exact .inr fun base isBase => mem_fresh _ _ base (List.mem_reverse.2 isBase.1) isBase.2
        · exact .inl (List.mem_append_right _ later)
      · exact .inr fun base isBase => List.mem_append_left _ (done base isBase)
    · exact .inl (List.mem_append_left _ (List.mem_reverse.2 new))

theorem working_work (name : String) (fuel : Nat) (stack order : List String)
    (enough : stack.length + (unseen classes order).length < fuel)
    (working : Working classes name stack order) :
    Working classes name [] (work classes fuel stack order) := by
  induction fuel generalizing stack order with
  | zero => exact absurd enough (Nat.not_lt_zero _)
  | succ fuel ih =>
    cases stack with
    | nil => exact working
    | cons current stack =>
      have fewer := @length_fresh classes order (ownBases classes current).reverse
      rw [work, foldl_fresh]
      refine ih _ _ ?_ working.step
      simp only [List.length_append, List.length_reverse, List.length_cons] at enough ⊢
      omega

theorem working_lineage (classes : Children) (name : String) :
    Working classes name [] (lineage classes name) := by
  refine working_work name _ [name] [name] ?_ ⟨List.nodup_singleton name, .head _,
    List.Subset.refl _, ?_, fun other member => .inl member⟩
  · have fewer := unseen_lt_fuel classes [name]
    simp only [List.length_singleton]
    omega
  · intro other member
    rw [List.mem_singleton.1 member]
    exact .refl

theorem mem_lineage (name other : String) :
    other ∈ lineage classes name ↔ Reaches classes name other := by
  have working := working_lineage classes name
  refine ⟨working.reached other, fun path => ?_⟩
  induction path with
  | refl => exact working.begun
  | tail _ isBase ih => exact (working.closed _ ih).resolve_left (by simp) _ isBase

theorem mem_lineage_iff (name other : String) :
    other ∈ lineage classes name ↔ other = name ∨ other ∈ ancestors classes true name := by
  rw [mem_lineage, mem_ancestors]
  by_cases same : other = name
  · rw [same]
    exact iff_of_true .refl (.inl rfl)
  · simp [same]

end PackSpec.Lineage
