import PackSpec.Proofs.LineIndex.Paths
import PackSpec.Proofs.LineIndex.Scans
import PackSpec.Proofs.Param.Declared

set_option autoImplicit false

namespace PackSpec

namespace LineIndex

open Text (isBlank trim)

theorem pieces_line (l rest : List Char) (line : '\n' ∉ l) :
    Text.pieces (l ++ '\n' :: rest) = (l, true) :: Text.pieces rest := by
  induction l with
  | nil => rfl
  | cons c l ih =>
    have other : c ≠ '\n' := fun same => line (same ▸ .head l)
    rw [List.cons_append, Text.pieces, ih fun member => line (.tail c member)]
    exact other

theorem pieces_last (l : List Char) (line : '\n' ∉ l) :
    Text.pieces l = if l = [] then [] else [(l, false)] := by
  induction l with
  | nil => rfl
  | cons c l ih =>
    have other : c ≠ '\n' := fun same => line (same ▸ .head l)
    rw [Text.pieces, ih fun member => line (.tail c member)]
    · cases l <;> rfl
    · exact other

theorem step_dropReturn (s : State) (line : Nat) (raw : List Char) :
    step s line (Text.dropReturn raw) = step s line raw := by
  unfold Text.dropReturn
  split
  · rename_i last
    obtain ⟨kept, rfl⟩ := List.getLast?_eq_some_iff.1 (beq_iff_eq.1 last)
    have back : isBlank '\r' = true := by decide
    have same : trim (kept ++ ['\r']) = trim kept := by
      have ends : Text.trimEnd (kept ++ ['\r']) = Text.trimEnd kept := by
        simp [Text.trimEnd, back]
      rw [trim, ← Text.trimStart_trimEnd, ends, Text.trimStart_trimEnd, trim]
    rw [List.dropLast_concat]
    -- Only a line of blanks is indented less without its carriage return; it has no node.
    by_cases blank : ∀ c ∈ kept, isBlank c = true
    · have empty_ := Text.trim_blank kept blank
      rw [step_empty s line kept empty_, step_empty s line _ (same.trans empty_)]
    · have indent : (kept ++ ['\r']).takeWhile isBlank = kept.takeWhile isBlank := by
        rw [List.takeWhile_append, if_neg]
        intro all
        have whole := (List.takeWhile_prefix isBlank).eq_of_length all
        exact blank fun c member => List.mem_takeWhile_imp (whole.symm ▸ member)
      unfold step
      rw [indent, same]
  · rfl

theorem lines_line (l rest : List Char) (line : '\n' ∉ l) :
    Text.lines (l ++ '\n' :: rest) = Text.dropReturn l :: Text.lines rest := by
  rw [Text.lines, pieces_line l rest line]
  rfl

theorem marksFrom_below (closed : Bool) (ls : List (List Char)) (lines : ∀ l ∈ ls, '\n' ∉ l)
    (s : State) (line : Nat) :
    marksFrom s line (Text.lines (Document.below closed ls)) = marksFrom s line ls := by
  induction ls generalizing s line with
  | nil => rfl
  | cons l ls ih =>
    have first := lines l (.head ls)
    have closed_ (rest : List Char) (same : ∀ s line,
        marksFrom s line (Text.lines rest) = marksFrom s line ls) :
        marksFrom s line (Text.lines (l ++ '\n' :: rest)) = marksFrom s line (l :: ls) := by
      rw [lines_line l rest first, marksFrom, step_dropReturn, marksFrom]
      simp only [same]
    cases ls with
    | cons m ls => exact closed_ _ (ih fun l member => lines l (.tail _ member))
    | nil =>
      cases closed with
      | true => exact closed_ [] fun _ _ => rfl
      | false =>
        -- An empty last line is not read, and the scan would pass over it.
        have unended : Text.lines (Document.below false [l]) = if l = [] then [] else [l] := by
          rw [Document.below, if_neg Bool.false_ne_true, Text.lines, pieces_last l first]
          split <;> rfl
        rw [unended]
        split
        · rename_i empty_
          rw [marksFrom, marksFrom, empty_, step_empty s line [] rfl]
          rfl
        · rfl

theorem OneLine.spaced (text : OneLine) : '\n' ∉ spaced text.1 := by
  have line := text.2
  unfold LineIndex.spaced
  split <;> simp [line]

theorem not_mem_spaces (n : Nat) : '\n' ∉ spaces n := by
  simp [spaces]

theorem gap_line (gap : List Filler) : ∀ r ∈ gap.map Filler.row, '\n' ∉ r.text := by
  refine List.forall_mem_map.2 fun f _ => ?_
  cases f with
  | blank cs => exact cs.line
  | comment indent text => simp [Filler.row, not_mem_spaces, text.2]

theorem Key.line_written (k : Key) : '\n' ∉ k.written := by
  obtain ⟨text, quote, spelled, slash, line⟩ := k
  cases quote with
  | none => exact line
  | some quote => rcases spelled.1 with rfl | rfl <;> simp [Key.written, line]

theorem head_line (path : List String) (indent : Nat) (head : Head) (value : OneLine) :
    ∀ r ∈ head.rows path indent value.1, '\n' ∉ r.text := by
  refine List.forall_mem_append.2 ⟨gap_line head.gap, ?_⟩
  simp [not_mem_spaces, head.key.line_written, value.spaced]

theorem itemRows_line (path : List String) (indent i : Nat) (list : List Item) :
    ∀ r ∈ itemRows path indent i list, '\n' ∉ r.text := by
  induction list generalizing i with
  | nil => simp [itemRows]
  | cons item list ih =>
    refine List.forall_mem_append.2 ⟨gap_line item.gap, List.forall_mem_cons.2 ⟨?_, ih (i + 1)⟩⟩
    simp [not_mem_spaces, item.text.spaced]

theorem rows_line (o : Outline) (path : List String) (indent : Nat) :
    ∀ r ∈ o.rows path indent, '\n' ∉ r.text := by
  induction o generalizing path indent with
  | done gap => exact gap_line gap
  | text head value rest ih =>
    exact List.forall_mem_append.2 ⟨head_line path indent head value, ih path indent⟩
  | block head header lines rest ih =>
    have marked : '\n' ∉ header.text := by
      rcases header.marked with same | same <;> simp [Header.text, same, header.more.2]
    refine List.forall_mem_append.2 ⟨head_line path indent head ⟨header.text, marked⟩,
      List.forall_mem_append.2 ⟨List.forall_mem_map.2 fun b _ => ?_, ih path indent⟩⟩
    cases b with
    | blank cs => exact cs.line
    | deeper more text => simp [BlockLine.row, not_mem_spaces, text.2]
  | items head deeper list rest ih =>
    exact List.forall_mem_append.2 ⟨head_line path indent head ⟨[], by simp⟩,
      List.forall_mem_append.2 ⟨itemRows_line _ _ 0 list, ih path indent⟩⟩
  | mapping head deeper inner rest ihInner ih =>
    exact List.forall_mem_append.2 ⟨head_line path indent head ⟨[], by simp⟩,
      List.forall_mem_append.2 ⟨ihInner _ _, ih path indent⟩⟩

theorem entries_insertAll (x : LineIndex) (ms : List Mark)
    (distinct : (x.entries.map Prod.fst ++ ms.map fun m => joined m.path).Nodup) :
    (ms.foldl insert x).entries = x.entries ++ ms.map fun m => (joined m.path, m.position) := by
  induction ms generalizing x with
  | nil => simp
  | cons m ms ih =>
    have fresh : (x.entries.any fun e => e.1 == joined m.path) = false := by
      rw [List.any_eq_false]
      intro e member same
      obtain ⟨-, -, other⟩ := List.nodup_append.1 distinct
      exact other e.1 (List.mem_map_of_mem member) (joined m.path) (.head _) (beq_iff_eq.1 same)
    have added : (insert x m).entries = x.entries ++ [(joined m.path, m.position)] := by
      rw [insert, fresh]
      rfl
    rw [List.foldl_cons, ih (insert x m) (by simpa [added] using distinct), added]
    simp

theorem position_of_get? (x : LineIndex) (path : List String) (p : Position) (filled : path ≠ [])
    (found : x.get? path = some p) : x.position path = some p := by
  obtain ⟨first, rest, rfl⟩ := List.exists_cons_of_ne_nil filled
  rw [position, starts, List.length_cons, List.range_succ, List.reverse_append]
  simp [found]

namespace Document

theorem scans_lead (d : Document) : Scans .start 1 d.lead .start := by
  unfold lead
  cases d.tag with
  | none => exact .done _ 1
  | some gap =>
    obtain ⟨t, before, rests⟩ := scans_gap gap .start 1
    obtain rfl := rests.eq_of_none
    obtain ⟨u, here, rests_⟩ := step_passed ⟨[], none⟩ (1 + (gap.map Filler.row).length)
      "!ZenPackSpec".toList (by decide)
    obtain rfl := rests_.eq_of_none
    exact before.append (.one here)

theorem line_lead (d : Document) : ∀ r ∈ d.lead, '\n' ∉ r.text := by
  unfold lead
  cases d.tag with
  | none => simp
  | some gap =>
    refine List.forall_mem_append.2 ⟨gap_line gap, ?_⟩
    simp

theorem marks_text (d : Document) (closed : Bool) : marks (d.text closed) = d.nodes := by
  have ready : Ready [] d.indent .start := ⟨rfl, by simp [State.start]⟩
  obtain ⟨t, root, -⟩ := scans_outline d.root ready (1 + d.lead.length)
  have lines : ∀ l ∈ d.rows.map Row.text, '\n' ∉ l :=
    List.forall_mem_map.2 (List.forall_mem_append.2 ⟨d.line_lead, rows_line d.root [] d.indent⟩)
  rw [marks, text, String.toList_ofList, marksFrom_below closed _ lines, nodes]
  exact (d.scans_lead.append root).marks

theorem paths_nodes (d : Document) : d.nodes.map Mark.path = d.root.paths := by
  have none_ : pathsOf d.lead = [] := by
    unfold lead
    cases d.tag with
    | none => rfl
    | some gap =>
      rw [pathsOf_append, pathsOf_gap]
      rfl
  rw [nodes, paths_marksOf, rows, pathsOf_append, none_, Outline.pathsOf_rows]
  simp

end Document

/-- The index of a written document has the keys and the items of its tree, in their order, each with
the line and the column at which it is written. -/
theorem locates_every_node (d : Document) (closed : Bool) :
    d.nodes.map Mark.path = d.root.paths ∧
      (scan (d.text closed)).entries = d.nodes.map (fun m => (joined m.path, m.position)) ∧
      ∀ m ∈ d.nodes, (scan (d.text closed)).position m.path = some m.position := by
  have paths_ := d.paths_nodes
  have distinct := d.root.nodup_joined d.distinct
  rw [← paths_, List.map_map] at distinct
  have entries_ : (scan (d.text closed)).entries =
      d.nodes.map fun m => (joined m.path, m.position) := by
    rw [scan, d.marks_text closed]
    exact entries_insertAll empty d.nodes distinct
  refine ⟨paths_, entries_, fun m member => ?_⟩
  have filled : m.path ≠ [] := by
    intro none_
    have there : [] ∈ d.root.paths := paths_ ▸ none_ ▸ List.mem_map_of_mem member
    obtain ⟨key, -, first⟩ := d.root.key_of_mem_paths [] there
    cases first
  refine position_of_get? _ m.path m.position filled ?_
  have unique : Entries.Distinct (scan (d.text closed)).entries := by
    rw [Entries.Distinct, Entries.names, entries_, List.map_map]
    exact distinct
  exact Entries.get?_of_mem _ (joined m.path, m.position) unique
    (entries_ ▸ List.mem_map_of_mem member)

def shelf : Document where
  tag := some [.comment 0 ⟨" a shelf".toList, by decide +kernel⟩]
  indent := 0
  root :=
    .mapping ⟨[], ⟨"classes".toList, none, by decide +kernel, by decide +kernel, by decide +kernel⟩⟩ 1
      (.text ⟨[.blank ⟨spaces 1, not_mem_spaces 1, blank_spaces 1⟩],
            ⟨"Pod: A".toList, some '\x27', by decide +kernel, by decide +kernel, by decide +kernel⟩⟩
          ⟨[], by simp⟩
        (.block ⟨[.comment 5 ⟨[], by simp⟩],
            ⟨"notes".toList, none, by decide +kernel, by decide +kernel, by decide +kernel⟩⟩
          ⟨'|', .inl rfl, ⟨[], by simp⟩⟩ [.deeper 1 ⟨"free: text".toList, by decide +kernel⟩]
          (.done [])))
      (.items ⟨[], ⟨"fans".toList, none, by decide +kernel, by decide +kernel, by decide +kernel⟩⟩ 0
        [⟨[], ⟨"front".toList, by decide +kernel⟩⟩, ⟨[], ⟨"back: 2".toList, by decide +kernel⟩⟩]
        (.done []))
  distinct := ⟨by decide +kernel, ⟨by decide +kernel, by decide +kernel, trivial⟩,
    by decide +kernel, trivial⟩

example : shelf.text true = "# a shelf\n!ZenPackSpec\nclasses:\n \n  'Pod: A':\n     #\n  notes: |\n" ++
    "    free: text\nfans:\n- front\n- back: 2\n" := by
  decide +kernel

theorem locates_shelf :
    ⟨["classes", "notes"], ⟨7, 3⟩⟩ ∈ shelf.nodes ∧
      (scan (shelf.text true)).position ["classes", "notes"] = some ⟨7, 3⟩ ∧
      ⟨["fans", "1"], ⟨11, 1⟩⟩ ∈ shelf.nodes ∧
      (scan (shelf.text true)).position ["fans", "1"] = some ⟨11, 1⟩ := by
  have notes : ⟨["classes", "notes"], ⟨7, 3⟩⟩ ∈ shelf.nodes := by decide +kernel
  have back : ⟨["fans", "1"], ⟨11, 1⟩⟩ ∈ shelf.nodes := by decide +kernel
  obtain ⟨-, -, located⟩ := locates_every_node shelf true
  exact ⟨notes, located _ notes, back, located _ back⟩

end LineIndex

end PackSpec
