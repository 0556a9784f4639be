import Mathlib.Data.List.Find
import PackSpec.Proofs.LineIndex.Located

set_option autoImplicit false

namespace PackSpec

namespace LineIndex

theorem get?_insert (x : LineIndex) (m : Mark) (path : List String) :
    (x.insert m).get? path =
      (x.get? path).or (if joined m.path = joined path then some m.position else none) := by
  have added : x.insert m =
      if Entries.has x.entries (joined m.path) = true then x
      else ⟨x.entries ++ [(joined m.path, m.position)]⟩ := rfl
  change Entries.get? (x.insert m).entries (joined path) =
    (Entries.get? x.entries (joined path)).or _
  rw [added]
  split
  · next known =>
    rw [Entries.has_eq_isSome] at known
    by_cases same : joined m.path = joined path
    · obtain ⟨p, found⟩ := Option.isSome_iff_exists.1 known
      rw [← same, found]
      rfl
    · rw [if_neg same, Option.or_none]
  · rw [Entries.get?_append, Entries.get?_cons]
    simp only [eq_comm (a := joined path)]
    rfl

theorem get?_insertAll (ms : List Mark) (x : LineIndex) (path : List String) :
    (ms.foldl insert x).get? path =
      (x.get? path).or ((ms.find? fun m => joined m.path == joined path).map Mark.position) := by
  induction ms generalizing x with
  | nil => simp
  | cons m ms ih =>
    rw [List.foldl_cons, ih, get?_insert, Option.or_assoc, List.find?_cons]
    cases same : joined m.path == joined path <;> simp_all

theorem get?_scan (text : String) (path : List String) :
    (scan text).get? path =
      ((marks text).find? fun m => joined m.path == joined path).map Mark.position := by
  rw [scan, get?_insertAll]
  rfl

theorem item_mark (frames outer : List Frame) (line indent : Nat) (m : Mark)
    (met : item frames line indent = (outer, some m)) : m.position.line = line ∧ m.path ≠ [] := by
  unfold item at met
  split at met
  · simp at met
  · simp only [Prod.mk.injEq, Option.some.injEq] at met
    rw [← met.2]
    simp

theorem step_mark (s t : State) (line : Nat) (raw : List Char) (m : Mark)
    (met : step s line raw = (t, some m)) : m.position.line = line ∧ m.path ≠ [] := by
  have node_ (indent : Nat) (content : List Char)
      (met : node s.frames line indent content = (t, some m)) :
      m.position.line = line ∧ m.path ≠ [] := by
    unfold node at met
    split_ifs at met with passed item_
    · simp at met
    · simp only [Prod.mk.injEq] at met
      exact item_mark s.frames _ line indent m (Prod.ext rfl met.2)
    · split at met
      · simp at met
      · simp only [keyed, Prod.mk.injEq, Option.some.injEq] at met
        rw [← met.2]
        simp [trail]
  unfold step at met
  dsimp only at met
  split at met
  · split at met
    · simp at met
    · exact node_ _ _ met
  · exact node_ _ _ met

theorem marksFrom_lines (lines : List (List Char)) (s : State) (line : Nat) :
    (marksFrom s line lines).Pairwise (fun m n => m.position.line < n.position.line) ∧
      ∀ m ∈ marksFrom s line lines, line ≤ m.position.line ∧ m.path ≠ [] := by
  induction lines generalizing s line with
  | nil => simp [marksFrom]
  | cons raw lines ih =>
    obtain ⟨t, mark, stepped⟩ : ∃ t mark, step s line raw = (t, mark) := ⟨_, _, rfl⟩
    obtain ⟨ordered, later⟩ := ih t (line + 1)
    have later_ : ∀ m ∈ marksFrom t (line + 1) lines, line ≤ m.position.line ∧ m.path ≠ [] :=
      fun m member => ⟨Nat.le_of_succ_le (later m member).1, (later m member).2⟩
    rw [marksFrom, stepped]
    cases mark with
    | none => exact ⟨ordered, later_⟩
    | some first =>
      obtain ⟨here, filled⟩ := step_mark s t line raw first stepped
      refine ⟨List.pairwise_cons.2 ⟨fun m member => ?_, ordered⟩,
        List.forall_mem_cons.2 ⟨⟨here.ge, filled⟩, later_⟩⟩
      exact here.symm ▸ (later m member).1

theorem filled_of_mem_marks (text : String) (m : Mark) (member : m ∈ marks text) : m.path ≠ [] :=
  ((marksFrom_lines _ _ _).2 m member).2

theorem eq_of_position (text : String) (m n : Mark) (member : m ∈ marks text)
    (member_ : n ∈ marks text) (same : m.position = n.position) : m = n := by
  have lines : ((marks text).map fun m => m.position.line).Nodup :=
    List.pairwise_map.2 ((marksFrom_lines _ _ _).1.imp fun before => before.ne)
  exact List.inj_on_of_nodup_map lines member member_ (congrArg Position.line same)

def Plain (path : List String) : Prop := ∀ part ∈ path, '/' ∉ part.toList

instance (path : List String) : Decidable (Plain path) :=
  inferInstanceAs (Decidable (∀ part ∈ path, '/' ∉ part.toList))

theorem Plain.of_start {path start : List String} (plain : Plain path) (above : start <+: path) :
    Plain start :=
  fun part member => plain part (above.subset member)

theorem not_mem_splitOn (cs : List Char) : ∀ part ∈ cs.splitOn '/', '/' ∉ part := by
  induction cs with
  | nil => simp
  | cons c cs ih =>
    rw [List.splitOn_cons_eq_if_modifyHead]
    split
    · exact List.forall_mem_cons.2 ⟨by simp, ih⟩
    · next other =>
      obtain ⟨first, rest, split_⟩ := List.exists_cons_of_ne_nil (List.splitOn_ne_nil '/' cs)
      rw [split_] at ih ⊢
      obtain ⟨first_, rest_⟩ := List.forall_mem_cons.1 ih
      refine List.forall_mem_cons.2 ⟨fun member => ?_, rest_⟩
      rcases List.mem_cons.1 member with same | member
      · exact other (beq_iff_eq.2 same.symm)
      · exact first_ member

theorem exists_plain (text : String) : ∃ path, Plain path ∧ path ≠ [] ∧ joined path = text := by
  refine ⟨(text.toList.splitOn '/').map String.ofList, List.forall_mem_map.2 fun part member => ?_,
    by simp, ?_⟩
  · simpa using not_mem_splitOn text.toList part member
  · have parts : ((text.toList.splitOn '/').map String.ofList).map String.toList =
        text.toList.splitOn '/' := by simp [Function.comp_def]
    rw [← String.toList_inj, joined, String.toList_intercalate, parts]
    exact List.intercalate_splitOn '/'

theorem eq_of_start (start path : List String) (filled : start ≠ []) (above : start <+: path)
    (same : joined start = joined path) : start = path := by
  obtain ⟨rest, rfl⟩ := above
  by_cases more : rest = []
  · rw [more, List.append_nil]
  · have longer := congrArg (fun text => text.toList.length) same
    simp only [joined, String.intercalate_append_of_ne_nil filled more, String.toList_append,
      List.length_append] at longer
    have slash : "/".toList.length = 1 := rfl
    omega

/-- The node whose position a path gets: the first one that is written like `start`, the longest start
of the path that any node is written like. -/
structure Nearest (text : String) (path start : List String) (m : Mark) : Prop where
  filled : start ≠ []
  above : start <+: path
  first : ((marks text).find? fun n => joined n.path == joined start) = some m
  longest : ∀ longer, longer <+: path → start.length < longer.length →
    ∀ n ∈ marks text, joined n.path ≠ joined longer

namespace Nearest

variable {text : String} {path start other : List String} {m n : Mark}

theorem member (near : Nearest text path start m) : m ∈ marks text :=
  List.mem_of_find?_eq_some near.first

theorem written (near : Nearest text path start m) : joined m.path = joined start := by
  simpa using List.find?_some near.first

theorem unique (near : Nearest text path start m) (near_ : Nearest text path other n) : m = n := by
  have shorter : ¬ start.length < other.length := fun longer =>
    near.longest other near_.above longer n near_.member near_.written
  have shorter_ : ¬ other.length < start.length := fun longer =>
    near_.longest start near.above longer m near.member near.written
  have length : start.length = other.length := by omega
  have same : start = other := by
    rw [List.prefix_iff_eq_take.1 near.above, List.prefix_iff_eq_take.1 near_.above, length]
  have first := near.first
  rw [same, near_.first] at first
  exact (Option.some.inj first).symm

end Nearest

theorem mem_starts (path start : List String) : start ∈ starts path ↔ start ≠ [] ∧ start <+: path := by
  simp only [starts, List.mem_map, List.mem_reverse, List.mem_range]
  constructor
  · rintro ⟨n, below, rfl⟩
    refine ⟨fun none_ => ?_, List.take_prefix _ _⟩
    have length := congrArg List.length none_
    simp only [List.length_take, List.length_nil] at length
    omega
  · rintro ⟨filled, above⟩
    have length := List.length_pos_iff.2 filled
    have bound := above.length_le
    refine ⟨start.length - 1, by omega, ?_⟩
    rw [Nat.sub_add_cancel length]
    exact (List.prefix_iff_eq_take.1 above).symm

theorem starts_shorter (path : List String) :
    (starts path).Pairwise fun longer start => start.length < longer.length := by
  rw [starts, List.pairwise_map, List.pairwise_reverse]
  refine List.pairwise_lt_range.imp_of_mem fun {i j} here there before => ?_
  have bound := List.mem_range.1 there
  simp only [List.length_take]
  omega

theorem get?_eq_none_iff (text : String) (path : List String) :
    (scan text).get? path = none ↔ ∀ n ∈ marks text, joined n.path ≠ joined path := by
  rw [get?_scan, Option.map_eq_none_iff, List.find?_eq_none]
  simp

theorem position_eq_some_iff (text : String) (path : List String) (p : Position) :
    (scan text).position path = some p ↔
      ∃ start m, Nearest text path start m ∧ m.position = p := by
  have nearest (p : Position) (found : (scan text).position path = some p) :
      ∃ start m, Nearest text path start m ∧ m.position = p := by
    obtain ⟨before, start, behind, split_, here, none_⟩ := List.findSome?_eq_some_iff.1 found
    have ordered := starts_shorter path
    rw [split_] at ordered
    obtain ⟨-, later, -⟩ := List.pairwise_append.1 ordered
    rw [get?_scan] at here
    obtain ⟨m, first, place⟩ := Option.map_eq_some_iff.1 here
    obtain ⟨filled, above⟩ := (mem_starts path start).1 (split_ ▸ by simp)
    refine ⟨start, m, ⟨filled, above, first, fun longer above_ deeper => ?_⟩, place⟩
    have among : longer ∈ starts path :=
      (mem_starts path longer).2 ⟨List.ne_nil_of_length_pos (Nat.zero_lt_of_lt deeper), above_⟩
    -- What is longer than `start` was asked for before it.
    rw [split_] at among
    rcases List.mem_append.1 among with asked | behind_
    · exact (get?_eq_none_iff text longer).1 (none_ longer asked)
    · rcases List.mem_cons.1 behind_ with rfl | behind_
      · omega
      · have shorter := (List.pairwise_cons.1 later).1 longer behind_
        omega
  refine ⟨nearest p, ?_⟩
  rintro ⟨start, m, near, rfl⟩
  cases found : (scan text).position path with
  | none =>
    have none_ := List.findSome?_eq_none_iff.1 found start
      ((mem_starts path start).2 ⟨near.filled, near.above⟩)
    exact absurd near.written ((get?_eq_none_iff text start).1 none_ m near.member)
  | some p =>
    obtain ⟨other, n, near_, rfl⟩ := nearest p found
    rw [near.unique near_]

def Belongs (text : String) (path : List String) (p : Position) : Prop :=
  ∃ m ∈ marks text, m.position = p ∧ m.path <+: path

instance (text : String) (path : List String) (p : Position) : Decidable (Belongs text path p) :=
  inferInstanceAs (Decidable (∃ m ∈ marks text, m.position = p ∧ m.path <+: path))

theorem Nearest.belongs_iff {text : String} {path start : List String} {m : Mark}
    (near : Nearest text path start m) : Belongs text path m.position ↔ m.path = start := by
  constructor
  · rintro ⟨n, member, place, above⟩
    obtain rfl := eq_of_position text n m member near.member place
    have filled := filled_of_mem_marks text n member
    -- Of two starts of one path, one is a start of the other, and they are written alike.
    rcases List.prefix_or_prefix_of_prefix above near.above with first | second
    · exact eq_of_start n.path start filled first near.written
    · exact (eq_of_start start n.path near.filled second near.written.symm).symm
  · rintro rfl
    exact ⟨m, near.member, rfl, near.above⟩

def Indexed (text : String) (m : Mark) : Prop :=
  (scan text).get? m.path = ((marks text).find? fun n => n.path == m.path).map Mark.position

/-- Of the paths that are asked for, each gets the position of a node at it or above it, and nodes
with different paths are all in the index. -/
structure KeepsApart (text : String) (asked : List String → Prop) : Prop where
  belongs : ∀ path p, asked path → (scan text).position path = some p → Belongs text path p
  indexed : ∀ m ∈ marks text, ∀ n ∈ marks text, m.path ≠ n.path → Indexed text m ∧ Indexed text n

theorem KeepsApart.mono {text : String} {asked fewer : List String → Prop}
    (apart : KeepsApart text asked) (among : ∀ path, fewer path → asked path) :
    KeepsApart text fewer :=
  ⟨fun path p asked_ => apart.belongs path p (among path asked_), apart.indexed⟩

theorem joined_injective_of_plain (text : String) (m n : Mark) (member : m ∈ marks text)
    (member_ : n ∈ marks text) (plain : Plain m.path) (plain_ : Plain n.path)
    (same : joined m.path = joined n.path) : m.path = n.path :=
  joined_injective m.path n.path (filled_of_mem_marks text m member)
    (filled_of_mem_marks text n member_) plain plain_ same

theorem keepsApart_of_plain (text : String) (plain : ∀ m ∈ marks text, Plain m.path) :
    KeepsApart text Plain := by
  have indexed (m : Mark) (member : m ∈ marks text) : Indexed text m := by
    have alike : ∀ n ∈ marks text, (joined n.path == joined m.path) = (n.path == m.path) := by
      intro n member_
      rw [Bool.eq_iff_iff, beq_iff_eq, beq_iff_eq]
      exact ⟨joined_injective_of_plain text n m member_ member (plain n member_) (plain m member),
        congrArg joined⟩
    rw [Indexed, get?_scan, List.find?_congr alike]
  refine ⟨fun path p asked found => ?_, fun m member n member_ _ =>
    ⟨indexed m member, indexed n member_⟩⟩
  obtain ⟨start, m, near, rfl⟩ := (position_eq_some_iff text path p).1 found
  exact near.belongs_iff.2 (joined_injective m.path start (filled_of_mem_marks text m near.member)
    near.filled (plain m near.member) (asked.of_start near.above) near.written)

theorem KeepsApart.path_eq {text : String} {asked : List String → Prop}
    (apart : KeepsApart text asked) (m n : Mark) (member : m ∈ marks text) (member_ : n ∈ marks text)
    (same : joined m.path = joined n.path) : m.path = n.path := by
  have first (m : Mark) (member : m ∈ marks text) :
      ∃ f, ((marks text).find? fun n => n.path == m.path) = some f := by
    rw [← Option.isSome_iff_exists, List.find?_isSome]
    exact ⟨m, member, beq_self_eq_true _⟩
  by_contra other
  obtain ⟨here, there⟩ := apart.indexed m member n member_ other
  have alike : (scan text).get? m.path = (scan text).get? n.path := by
    rw [get?_scan, get?_scan, same]
  obtain ⟨f, found⟩ := first m member
  obtain ⟨g, found_⟩ := first n member_
  rw [here, there, found, found_] at alike
  have one := eq_of_position text f g (List.mem_of_find?_eq_some found)
    (List.mem_of_find?_eq_some found_) (Option.some.inj alike)
  have left : f.path = m.path := by simpa using List.find?_some found
  have right : g.path = n.path := by simpa using List.find?_some found_
  exact other (left.symm.trans (one ▸ right))

theorem KeepsApart.path_of_written {text : String} {asked : List String → Prop}
    (apart : KeepsApart text asked) (m : Mark) (member : m ∈ marks text) (path : List String)
    (filled : path ≠ []) (asked_ : asked path) (same : joined path = joined m.path) :
    m.path = path := by
  obtain ⟨f, first⟩ : ∃ f, ((marks text).find? fun n => joined n.path == joined path) = some f := by
    rw [← Option.isSome_iff_exists, List.find?_isSome]
    exact ⟨m, member, beq_iff_eq.2 same.symm⟩
  have near : Nearest text path path f :=
    ⟨filled, List.prefix_rfl, first, fun longer above deeper => absurd above.length_le (by omega)⟩
  have found := (position_eq_some_iff text path f.position).2 ⟨path, f, near, rfl⟩
  have own := near.belongs_iff.1 (apart.belongs path f.position asked_ found)
  rw [← own]
  exact apart.path_eq m f member near.member (own ▸ same.symm)

theorem plain_of_keepsApart (text : String) (apart : KeepsApart text Plain) :
    ∀ m ∈ marks text, Plain m.path := by
  intro m member
  obtain ⟨path, plain, filled, same⟩ := exists_plain (joined m.path)
  rw [apart.path_of_written m member path filled plain same]
  exact plain

theorem eq_joined_of_slashless (path : List String) (filled : path ≠ [])
    (slash : '/' ∉ (joined path).toList) : path = [joined path] := by
  obtain ⟨part, rest, rfl⟩ := List.exists_cons_of_ne_nil filled
  by_cases single : rest = []
  · subst single
    simp [joined]
  · refine absurd ?_ slash
    rw [← List.singleton_append, joined,
      String.intercalate_append_of_ne_nil (List.cons_ne_nil _ _) single]
    simp

theorem keepsApart_of_flat (text : String)
    (flat : ∀ m ∈ marks text, Plain m.path ∧ m.path.length = 1) :
    KeepsApart text fun _ => True := by
  have plain := keepsApart_of_plain text fun m member => (flat m member).1
  refine ⟨fun path p _ found => ?_, plain.indexed⟩
  obtain ⟨start, m, near, rfl⟩ := (position_eq_some_iff text path p).1 found
  obtain ⟨parts, single⟩ := flat m near.member
  obtain ⟨key, same⟩ := List.length_eq_one_iff.1 single
  have written := near.written
  rw [same] at written parts
  have slash : '/' ∉ (joined start).toList := by
    rw [← written]
    simpa [joined] using parts key (.head _)
  rw [near.belongs_iff, eq_joined_of_slashless start near.filled slash, ← written, same]
  simp [joined]

theorem flat_of_keepsApart (text : String) (apart : KeepsApart text fun _ => True) :
    ∀ m ∈ marks text, Plain m.path ∧ m.path.length = 1 := by
  intro m member
  refine ⟨plain_of_keepsApart text (apart.mono fun _ _ => trivial) m member, ?_⟩
  -- The whole text of the path is asked for as one part.
  rw [apart.path_of_written m member [joined m.path] (List.cons_ne_nil _ _) trivial (by simp [joined])]
  rfl

/-- A position that a path gets is that of the first node written like the longest start of the path
that any node is written like; it belongs to the path exactly if the path of that node is that start.
Asked for paths without slashes in their parts, an index keeps all nodes apart exactly if no key has a
slash; asked for any path, exactly if moreover all nodes are keys of the root. -/
theorem borrows_nothing_iff (text : String) :
    (∀ path p, (scan text).position path = some p ↔
        ∃ start m, Nearest text path start m ∧ m.position = p) ∧
      (∀ path start m, Nearest text path start m →
        (Belongs text path m.position ↔ m.path = start)) ∧
      (KeepsApart text Plain ↔ ∀ m ∈ marks text, Plain m.path) ∧
      (KeepsApart text (fun _ => True) ↔
        ∀ m ∈ marks text, Plain m.path ∧ m.path.length = 1) :=
  ⟨position_eq_some_iff text, fun _ _ _ near => near.belongs_iff,
    ⟨plain_of_keepsApart text, keepsApart_of_plain text⟩,
    ⟨flat_of_keepsApart text, keepsApart_of_flat text⟩⟩

def servers : String :=
  "device_classes:\n  /Server:\n    create: true\n  /Server/create:\n    remove: true\n"

theorem borrows_servers :
    Nearest servers ["device_classes", "/Server/create"] ["device_classes", "/Server/create"]
        ⟨["device_classes", "/Server", "create"], ⟨3, 5⟩⟩ ∧
      (Belongs servers ["device_classes", "/Server/create"] ⟨3, 5⟩ ↔
        ["device_classes", "/Server", "create"] = ["device_classes", "/Server/create"]) := by
  have near : Nearest servers ["device_classes", "/Server/create"]
      ["device_classes", "/Server/create"] ⟨["device_classes", "/Server", "create"], ⟨3, 5⟩⟩ :=
    ⟨by simp, List.prefix_rfl, by decide +kernel,
      fun longer above deeper => absurd above.length_le (Nat.not_le.2 deeper)⟩
  obtain ⟨-, belongs, -⟩ := borrows_nothing_iff servers
  exact ⟨near, belongs _ _ _ near⟩

/-- The second device class gets the position of the field of the first one. -/
theorem server_borrows_field :
    ⟨["device_classes", "/Server/create"], ⟨4, 3⟩⟩ ∈ marks servers ∧
      (scan servers).position ["device_classes", "/Server/create"] = some ⟨3, 5⟩ ∧
      ¬ Belongs servers ["device_classes", "/Server/create"] ⟨3, 5⟩ := by
  decide +kernel

end LineIndex

end PackSpec
