import Mathlib.Data.List.Nodup
import Mathlib.Logic.Relation
import PackSpec.Proofs.Param.Trimmed
import PackSpec.Specification.Lineage

set_option autoImplicit false

namespace PackSpec.Lineage

open Relation (ReflTransGen)

def Base (classes : Children) (name base : String) : Prop :=
  base ∈ ownBases classes name ∧ Entries.has classes base = true

/-- The second class is the first or one that the first derives from. -/
def Reaches (classes : Children) : String → String → Prop := ReflTransGen (Base classes)

variable {classes : Children}

def unseen (classes : Children) (seen : List String) : List String :=
  (Entries.names classes).filter fun name => !seen.contains name

theorem unseen_cons_lt (seen : List String) (name : String)
    (defined : Entries.has classes name = true) (fresh : name ∉ seen) :
    (unseen classes (name :: seen)).length < (unseen classes seen).length := by
  have shrinks : unseen classes (name :: seen) = (unseen classes seen).filter (· != name) := by
    rw [unseen, unseen, List.filter_filter]
    refine List.filter_congr fun other _ => ?_
    by_cases same : other = name <;> simp [same]
  rw [shrinks]
  refine List.length_filter_lt_length_iff_exists.2 ⟨name, ?_, by simp⟩
  exact List.mem_filter.2 ⟨(Entries.has_iff classes name).1 defined, by simpa using fresh⟩

theorem unseen_le (classes : Children) (seen later : List String) (kept : seen ⊆ later) :
    (unseen classes later).length ≤ (unseen classes seen).length := by
  refine (List.monotone_filter_right _ fun name => ?_).length_le
  simpa using fun absent member => absent (kept member)

theorem unseen_lt_fuel (classes : Children) (seen : List String) :
    (unseen classes seen).length < classes.length + 1 := by
  have bound : (unseen classes seen).length ≤ (Entries.names classes).length :=
    List.length_filter_le _ _
  simpa [Entries.names, Nat.lt_succ_iff] using bound

def under (classes : Children) (recursive : Bool) (name : String) : List String :=
  if recursive then ownBases classes name else []

/-- How a walk treats a list of bases. It spends its fuel on classes it has not come to before, of
which there are always fewer than its fuel, so there is no rule for a walk without fuel. -/
inductive Visits (classes : Children) (recursive : Bool) : List String → Walk → Walk → Prop
  | done (w : Walk) : Visits classes recursive [] w w
  | skip {base : String} {rest : List String} {w after : Walk}
      (passed : Entries.has classes base = false ∨ base ∈ w.seen)
      (later : Visits classes recursive rest w after) :
      Visits classes recursive (base :: rest) w after
  | visit {base : String} {rest : List String} {w below after : Walk}
      (defined : Entries.has classes base = true) (fresh : base ∉ w.seen)
      (inner : Visits classes recursive (under classes recursive base) (w.visit base) below)
      (later : Visits classes recursive rest below after) :
      Visits classes recursive (base :: rest) w after

namespace Visits

variable {recursive : Bool} {bases : List String} {w after : Walk}

theorem seen_subset (visits : Visits classes recursive bases w after) : w.seen ⊆ after.seen := by
  induction visits with
  | done => exact fun _ member => member
  | skip _ _ ih => exact ih
  | visit _ _ _ _ inner later => exact fun _ member => later (inner (.tail _ member))

theorem deterministic {other : Walk} (visits : Visits classes recursive bases w after)
    (again : Visits classes recursive bases w other) : after = other := by
  induction visits generalizing other with
  | done => cases again; rfl
  | skip passed _ ih =>
    cases again with
    | skip _ later => exact ih later
    | visit defined fresh => simp_all
  | visit defined fresh _ _ inner later =>
    cases again with
    | skip passed => simp_all
    | visit _ _ inner_ later_ =>
      obtain rfl := inner inner_
      exact later later_

-- What was found is what was seen since the start, so to be found once it is enough to be seen once.
theorem seen_eq (visits : Visits classes recursive bases w after) (start : List String)
    (begun : w.seen = w.found.reverse ++ start) : after.seen = after.found.reverse ++ start := by
  induction visits with
  | done => exact begun
  | skip _ _ ih => exact ih begun
  | visit _ _ _ _ inner later => exact later (inner (by simp [Walk.visit, begun]))

theorem nodup (visits : Visits classes recursive bases w after) (once : w.seen.Nodup) :
    after.seen.Nodup := by
  induction visits with
  | done => exact once
  | skip _ _ ih => exact ih once
  | visit _ fresh _ _ inner later => exact later (inner (List.nodup_cons.2 ⟨fresh, once⟩))

theorem bases_seen (visits : Visits classes recursive bases w after) :
    ∀ base ∈ bases, Entries.has classes base = true → base ∈ after.seen := by
  induction visits with
  | done => simp
  | skip passed later ih =>
    intro base member defined
    rcases List.mem_cons.1 member with rfl | inRest
    · exact later.seen_subset (passed.resolve_left (by simp [defined]))
    · exact ih base inRest defined
  | visit _ _ inner later _ ih =>
    intro base member defined
    rcases List.mem_cons.1 member with rfl | inRest
    · exact later.seen_subset (inner.seen_subset (.head _))
    · exact ih base inRest defined

theorem closed (visits : Visits classes true bases w after) (name : String)
    (seen : name ∈ after.seen) :
    name ∈ w.seen ∨ ∀ base, Base classes name base → base ∈ after.seen := by
  induction visits with
  | done => exact .inl seen
  | skip _ _ ih => exact ih seen
  | visit _ _ inner later ihInner ihLater =>
    rcases ihLater seen with before | done_
    · rcases ihInner before with here | done_
      · rcases List.mem_cons.1 here with rfl | there
        -- It is the base itself, whose own bases are what the inner walk was given.
        · refine .inr fun base ⟨own, defined⟩ => later.seen_subset ?_
          exact inner.bases_seen base own defined
        · exact .inl there
      · exact .inr fun base isBase => later.seen_subset (done_ base isBase)
    · exact .inr done_

theorem reached (visits : Visits classes true bases w after) (name : String)
    (seen : name ∈ after.seen) :
    name ∈ w.seen ∨
      ∃ base ∈ bases, Entries.has classes base = true ∧ Reaches classes base name := by
  induction visits with
  | done => exact .inl seen
  | skip _ _ ih =>
    rcases ih seen with before | ⟨base, inRest, found⟩
    · exact .inl before
    · exact .inr ⟨base, .tail _ inRest, found⟩
  | @visit base _ _ _ _ defined _ _ _ ihInner ihLater =>
    rcases ihLater seen with before | ⟨other, inRest, found⟩
    · rcases ihInner before with here | ⟨next, own, defined_, path⟩
      · rcases List.mem_cons.1 here with rfl | there
        · exact .inr ⟨_, .head _, defined, .refl⟩
        · exact .inl there
      · exact .inr ⟨base, .head _, defined, .head ⟨own, defined_⟩ path⟩
    · exact .inr ⟨other, .tail _ inRest, found⟩

theorem reached_once (visits : Visits classes false bases w after) (name : String)
    (seen : name ∈ after.seen) :
    name ∈ w.seen ∨ name ∈ bases ∧ Entries.has classes name = true := by
  induction visits with
  | done => exact .inl seen
  | skip _ _ ih => exact (ih seen).imp_right fun found => ⟨.tail _ found.1, found.2⟩
  | @visit base _ _ _ _ defined _ inner _ _ ihLater =>
    rcases ihLater seen with before | found
    · cases inner
      rcases List.mem_cons.1 before with rfl | there
      · exact .inr ⟨.head _, defined⟩
      · exact .inl there
    · exact .inr ⟨.tail _ found.1, found.2⟩

end Visits

theorem visits_collect (recursive : Bool) (fuel : Nat) (name : String) (w : Walk)
    (enough : (unseen classes w.seen).length < fuel) :
    Visits classes recursive (ownBases classes name) w
      (collect classes recursive fuel name w) := by
  induction fuel generalizing name w with
  | zero => exact absurd enough (Nat.not_lt_zero _)
  | succ fuel ih =>
    rw [collect]
    generalize ownBases classes name = bases
    induction bases generalizing w with
    | nil => exact .done w
    | cons base rest ihRest =>
      rw [List.foldl_cons]
      by_cases passed : Entries.has classes base = false ∨ base ∈ w.seen
      · rw [if_pos (by simpa using passed)]
        exact .skip passed (ihRest w enough)
      · obtain ⟨defined, fresh⟩ : Entries.has classes base = true ∧ base ∉ w.seen := by
          simpa using passed
        rw [if_neg (by simpa using passed)]
        -- The inner walk has one class less to come to, and less fuel by one.
        have fewer := unseen_cons_lt w.seen base defined fresh
        have inner : Visits classes recursive (under classes recursive base) (w.visit base)
            (if recursive then collect classes recursive fuel base (w.visit base)
              else w.visit base) := by
          cases recursive with
          | false => exact .done _
          | true => exact ih base (w.visit base) (Nat.lt_of_lt_of_le fewer (Nat.lt_succ_iff.1 enough))
        refine .visit defined fresh inner (ihRest _ ?_)
        have kept := unseen_le classes _ _ inner.seen_subset
        exact Nat.lt_of_le_of_lt kept (Nat.lt_trans fewer enough)

theorem visits_ancestors (classes : Children) (recursive : Bool) (name : String) :
    Visits classes recursive (ownBases classes name) ⟨[name], []⟩
      (collect classes recursive (classes.length + 1) name ⟨[name], []⟩) :=
  visits_collect recursive _ name _ (unseen_lt_fuel _ _)

theorem seen_ancestors (recursive : Bool) (name : String) :
    (collect classes recursive (classes.length + 1) name ⟨[name], []⟩).seen =
      (ancestors classes recursive name).reverse ++ [name] :=
  (visits_ancestors classes recursive name).seen_eq [name] rfl

theorem nodup_ancestors (classes : Children) (recursive : Bool) (name : String) :
    (name :: ancestors classes recursive name).Nodup := by
  have once := (visits_ancestors classes recursive name).nodup (List.nodup_singleton name)
  rw [seen_ancestors, List.nodup_append] at once
  obtain ⟨unique, -, apart⟩ := once
  exact List.nodup_cons.2 ⟨fun member => apart name (List.mem_reverse.2 member) name (.head _) rfl,
    List.nodup_reverse.1 unique⟩

theorem mem_seen_ancestors (recursive : Bool) (name other : String) :
    other ∈ (collect classes recursive (classes.length + 1) name ⟨[name], []⟩).seen ↔
      other ∈ ancestors classes recursive name ∨ other = name := by
  simp [seen_ancestors]

theorem ne_of_mem_ancestors (recursive : Bool) (name other : String)
    (member : other ∈ ancestors classes recursive name) : other ≠ name := by
  rintro rfl
  exact (List.nodup_cons.1 (nodup_ancestors classes recursive other)).1 member

theorem mem_ancestors (name other : String) :
    other ∈ ancestors classes true name ↔ other ≠ name ∧ Reaches classes name other := by
  have visits := visits_ancestors classes true name
  constructor
  · intro member
    have distinct := ne_of_mem_ancestors true name other member
    refine ⟨distinct, ?_⟩
    rcases visits.reached other ((mem_seen_ancestors true name other).2 (.inl member)) with
      here | ⟨base, own, defined, path⟩
    · exact absurd (List.mem_singleton.1 here) distinct
    · exact .head ⟨own, defined⟩ path
  · rintro ⟨distinct, path⟩
    -- What was seen is closed under bases, so it has all that is reached.
    suffices all : other ∈ (collect classes true (classes.length + 1) name ⟨[name], []⟩).seen from
      ((mem_seen_ancestors true name other).1 all).resolve_right distinct
    clear distinct
    induction path with
    | refl => exact (mem_seen_ancestors true name name).2 (.inr rfl)
    | @tail middle last _ isBase ih =>
      rcases visits.closed middle ih with here | done
      · obtain rfl := List.mem_singleton.1 here
        exact visits.bases_seen last isBase.1 isBase.2
      · exact done last isBase

theorem mem_ancestors_once (name other : String) :
    other ∈ ancestors classes false name ↔ other ≠ name ∧ Base classes name other := by
  have visits := visits_ancestors classes false name
  constructor
  · intro member
    have distinct := ne_of_mem_ancestors false name other member
    rcases visits.reached_once other ((mem_seen_ancestors false name other).2 (.inl member)) with
      here | isBase
    · exact absurd (List.mem_singleton.1 here) distinct
    · exact ⟨distinct, isBase⟩
  · rintro ⟨distinct, own, defined⟩
    exact ((mem_seen_ancestors false name other).1 (visits.bases_seen other own defined)).resolve_right
      distinct

theorem reaches_of_mem_ancestors (recursive : Bool) (name other : String)
    (member : other ∈ ancestors classes recursive name) : Reaches classes name other := by
  cases recursive with
  | false => exact .single ((mem_ancestors_once name other).1 member).2
  | true => exact ((mem_ancestors name other).1 member).2

/-- How a walk lays a list of bases: each after its own bases, if it is defined and new. -/
inductive Lays (classes : Children) : List String → Walk → Walk → Prop
  | done (w : Walk) : Lays classes [] w w
  | again {base : String} {rest : List String} {w after : Walk} (seen : base ∈ w.seen)
      (later : Lays classes rest w after) : Lays classes (base :: rest) w after
  | unknown {base : String} {rest : List String} {w after : Walk} (fresh : base ∉ w.seen)
      (undefined : Entries.has classes base = false)
      (later : Lays classes rest ⟨base :: w.seen, w.found⟩ after) :
      Lays classes (base :: rest) w after
  | lay {base : String} {rest : List String} {w below after : Walk} (fresh : base ∉ w.seen)
      (defined : Entries.has classes base = true)
      (inner : Lays classes (ownBases classes base) ⟨base :: w.seen, w.found⟩ below)
      (later : Lays classes rest ⟨below.seen, below.found ++ [base]⟩ after) :
      Lays classes (base :: rest) w after

namespace Lays

variable {bases : List String} {w after : Walk}

theorem kept (lays : Lays classes bases w after) :
    w.seen ⊆ after.seen ∧ w.found ⊆ after.found := by
  induction lays with
  | done => exact ⟨fun _ member => member, fun _ member => member⟩
  | again _ _ ih => exact ih
  | unknown _ _ _ ih => exact ⟨fun _ member => ih.1 (.tail _ member), ih.2⟩
  | lay _ _ _ _ inner later =>
    exact ⟨fun _ member => later.1 (inner.1 (.tail _ member)),
      fun _ member => later.2 (List.mem_append_left _ (inner.2 member))⟩

theorem bases_seen (lays : Lays classes bases w after) : bases ⊆ after.seen := by
  induction lays with
  | done => exact List.nil_subset _
  | again seen later ih => exact List.cons_subset.2 ⟨later.kept.1 seen, ih⟩
  | unknown _ _ later ih => exact List.cons_subset.2 ⟨later.kept.1 (.head _), ih⟩
  | lay _ _ inner later _ ih =>
    exact List.cons_subset.2 ⟨later.kept.1 (inner.kept.1 (.head _)), ih⟩

theorem closed (lays : Lays classes bases w after) (name : String) (seen : name ∈ after.seen)
    (defined : Entries.has classes name = true) :
    name ∈ w.seen ∨ name ∈ after.found ∧ ownBases classes name ⊆ after.seen := by
  induction lays with
  | done => exact .inl seen
  | again _ _ ih => exact ih seen
  | unknown _ undefined _ ih =>
    rcases ih seen with before | done_
    · refine .inl ((List.mem_cons.1 before).resolve_left ?_)
      rintro rfl
      simp [undefined] at defined
    · exact .inr done_
  | lay _ _ inner later ihInner ihLater =>
    rcases ihLater seen with before | done_
    · rcases ihInner before with here | ⟨found, below⟩
      · rcases List.mem_cons.1 here with rfl | there
        -- It was noted before its bases were laid, and is laid right after them.
        · exact .inr ⟨later.kept.2 (by simp), fun _ member =>
            later.kept.1 (inner.bases_seen member)⟩
        · exact .inl there
      · exact .inr ⟨later.kept.2 (by simp [found]), fun _ member => later.kept.1 (below member)⟩
    · exact .inr done_

theorem reached (lays : Lays classes bases w after) (name : String) (found : name ∈ after.found) :
    name ∈ w.found ∨
      ∃ base ∈ bases, Entries.has classes base = true ∧ Reaches classes base name := by
  induction lays with
  | done => exact .inl found
  | again _ _ ih | unknown _ _ _ ih =>
    rcases ih found with before | ⟨base, inRest, path⟩
    · exact .inl before
    · exact .inr ⟨base, .tail _ inRest, path⟩
  | @lay base _ _ _ _ _ defined _ _ ihInner ihLater =>
    rcases ihLater found with before | ⟨other, inRest, path⟩
    · rcases List.mem_append.1 before with here | last
      · rcases ihInner here with there | ⟨next, own, defined_, path⟩
        · exact .inl there
        · exact .inr ⟨base, .head _, defined, .head ⟨own, defined_⟩ path⟩
      · obtain rfl := List.mem_singleton.1 last
        exact .inr ⟨_, .head _, defined, .refl⟩
    · exact .inr ⟨other, .tail _ inRest, path⟩

end Lays

theorem lays_overlay (fuel : Nat) (bases : List String) (w : Walk)
    (enough : (unseen classes w.seen).length < fuel) :
    Lays classes bases w (bases.foldl (fun w base => overlay classes fuel base w) w) := by
  induction fuel generalizing bases w with
  | zero => exact absurd enough (Nat.not_lt_zero _)
  | succ fuel ih =>
    induction bases generalizing w with
    | nil => exact .done w
    | cons base rest ihRest =>
      rw [List.foldl_cons]
      -- The rest has no more classes to come to than the whole had.
      have goOn (w' : Walk) (kept : w.seen ⊆ w'.seen) := ihRest w' (Nat.lt_of_le_of_lt
        (unseen_le classes _ _ kept) enough)
      by_cases seen : base ∈ w.seen
      · have passes : overlay classes (fuel + 1) base w = w := by simp [overlay, seen]
        rw [passes]
        exact .again seen (goOn w fun _ member => member)
      · cases defined : Entries.has classes base with
        | false =>
          have notes : overlay classes (fuel + 1) base w = ⟨base :: w.seen, w.found⟩ := by
            simp [overlay, seen, defined]
          rw [notes]
          exact .unknown seen defined (goOn _ fun _ member => .tail _ member)
        | true =>
          have fewer := unseen_cons_lt w.seen base defined seen
          have inner := ih (ownBases classes base) ⟨base :: w.seen, w.found⟩
            (Nat.lt_of_lt_of_le fewer (Nat.lt_succ_iff.1 enough))
          have lays := goOn (overlay classes (fuel + 1) base w)
          simp only [overlay, seen, defined, List.contains_eq_mem, decide_false, Bool.not_true,
            Bool.false_eq_true, if_false] at lays ⊢
          exact .lay seen defined inner (lays fun _ member => inner.kept.1 (.tail _ member))

theorem mem_overlayOrder (name other : String) :
    other ∈ overlayOrder classes name ↔
      Entries.has classes name = true ∧ Reaches classes name other := by
  have lays : Lays classes [name] ⟨[], []⟩ (overlay classes (classes.length + 2) name ⟨[], []⟩) :=
    lays_overlay (classes.length + 2) [name] ⟨[], []⟩
      (Nat.lt_succ_of_lt (unseen_lt_fuel classes []))
  constructor
  · intro member
    rcases lays.reached other member with nothing | ⟨base, only, path⟩
    · simp at nothing
    · rwa [← List.mem_singleton.1 only]
  · rintro ⟨defined, path⟩
    suffices both : Entries.has classes other = true ∧
        other ∈ (overlay classes (classes.length + 2) name ⟨[], []⟩).seen from
      ((lays.closed other both.2 both.1).resolve_left (by simp)).1
    induction path with
    | refl => exact ⟨defined, lays.bases_seen (by simp)⟩
    | tail _ isBase ih =>
      exact ⟨isBase.2, ((lays.closed _ ih.2 ih.1).resolve_left (by simp)).2 isBase.1⟩

end PackSpec.Lineage
