import PackSpec.Proofs.Build.Recorded
import PackSpec.Proofs.Document.Reread
import PackSpec.Proofs.Node.Building
import PackSpec.Proofs.Relationship.Rereading

set_option autoImplicit false

namespace PackSpec

namespace Diagram

def outcome? (raw : List Char) : Option (Except Problem Decl) :=
  match readLine (String.ofList raw) with
  | .ok none => none
  | .ok (some d) => some (.ok d)
  | .error e => some (.error e)

def outcomes (n : Nat) (lines : List (List Char)) : List (Nat × Except Problem Decl) :=
  (lines.zipIdx n).filterMap fun r => (outcome? r.1).map fun o => (r.2, o)

def accepted (os : List (Nat × Except Problem Decl)) : List Decl :=
  os.filterMap fun
    | (_, .ok d) => some d
    | _ => none

def refused (place : Nat → Location) (os : List (Nat × Except Problem Decl)) : List Diagnostic :=
  os.filterMap fun
    | (i, .error e) => some ⟨.error, place i, e⟩
    | _ => none

/-- The answer of a reader, and what it records. In lenient mode it passes over the refused lines
and records each of them, in strict mode the first of them ends it. -/
def answer (m : Mode) (place : Nat → Location) (os : List (Nat × Except Problem Decl)) :
    Except Diagnostic (List Decl) × List Diagnostic :=
  match m, refused place os with
  | .strict, d :: _ => (.error d, [])
  | .strict, [] => (.ok (accepted os), [])
  | .lenient, ds => (.ok (accepted os), ds)

def lineOf (source : String) (i : Nat) : Location :=
  (Location.root source).placed i 1

def said (r : Except Diagnostic (List Decl) × List Diagnostic) :
    Except Problem (List Decl) × List Problem :=
  (r.1.mapError Diagnostic.error, r.2.map Diagnostic.error)

section Answers

variable (m : Mode) (place : Nat → Location) (i : Nat) (os : List (Nat × Except Problem Decl))

theorem answer_nil : answer m place [] = (.ok [], []) := by
  cases m <;> rfl

theorem answer_ok (d : Decl) :
    answer m place ((i, .ok d) :: os) =
      ((answer m place os).1.map (d :: ·), (answer m place os).2) := by
  have more : accepted ((i, .ok d) :: os) = d :: accepted os := rfl
  have same : refused place ((i, .ok d) :: os) = refused place os := rfl
  unfold answer
  rw [more, same]
  cases m with
  | strict => cases refused place os <;> rfl
  | lenient => rfl

theorem answer_error_strict (e : Problem) :
    answer .strict place ((i, .error e) :: os) = (.error ⟨.error, place i, e⟩, []) := rfl

theorem answer_error_lenient (e : Problem) :
    answer .lenient place ((i, .error e) :: os) =
      ((answer .lenient place os).1,
        ⟨.error, place i, e⟩ :: (answer .lenient place os).2) := rfl

end Answers

theorem said_answer_congr (m : Mode) (place place' : Nat → Location)
    (os os' : List (Nat × Except Problem Decl)) (same : os.map Prod.snd = os'.map Prod.snd) :
    said (answer m place os) = said (answer m place' os') := by
  induction os generalizing os' with
  | nil =>
    obtain rfl : os' = [] := by simpa using same.symm
    rw [answer_nil, answer_nil]
  | cons o os ih =>
    cases os' with
    | nil => simp at same
    | cons o' os' =>
      obtain ⟨i, r⟩ := o
      obtain ⟨j, r'⟩ := o'
      obtain ⟨rfl, rest⟩ : r = r' ∧ os.map Prod.snd = os'.map Prod.snd := by simpa using same
      have tail := ih os' rest
      simp only [said, Prod.mk.injEq] at tail
      cases r with
      | ok d =>
        simp only [said, answer_ok, Prod.mk.injEq]
        refine ⟨?_, tail.2⟩
        have mapped (a : Except Diagnostic (List Decl)) :
            (a.map (d :: ·)).mapError Diagnostic.error =
              (a.mapError Diagnostic.error).map (d :: ·) := by
          cases a <;> rfl
        rw [mapped, mapped, tail.1]
      | error e =>
        cases m with
        | strict => rfl
        | lenient =>
          simp only [said, answer_error_lenient, List.map_cons, Prod.mk.injEq]
          exact ⟨tail.1, by rw [tail.2]⟩

theorem outcome?_eq_none_iff (raw : List Char) :
    outcome? raw = none ↔ isPassedOver (String.ofList raw) = true := by
  unfold outcome? readLine
  by_cases skipped : isPassedOver (String.ofList raw) = true
  · simp [skipped]
  · rw [if_neg skipped]
    cases Drawn.find (String.ofList raw).toList with
    | none => simp [skipped]
    | some drawn =>
      dsimp only
      cases oriented drawn.decl <;> simp [Except.map, skipped]

theorem outcomes_passed (n : Nat) (raw : List Char) (rest : List (List Char))
    (skipped : outcome? raw = none) : outcomes n (raw :: rest) = outcomes (n + 1) rest := by
  simp [outcomes, List.zipIdx_cons, skipped]

theorem outcomes_held (n : Nat) (raw : List Char) (rest : List (List Char))
    (o : Except Problem Decl) (held : outcome? raw = some o) :
    outcomes n (raw :: rest) = (n, o) :: outcomes (n + 1) rest := by
  simp [outcomes, List.zipIdx_cons, held]

theorem outcomes_snd (n : Nat) (lines : List (List Char)) :
    (outcomes n lines).map Prod.snd = lines.filterMap outcome? := by
  induction lines generalizing n with
  | nil => rfl
  | cons raw rest ih =>
    cases held : outcome? raw with
    | none => rw [outcomes_passed n raw rest held, ih, List.filterMap_cons_none held]
    | some o => rw [outcomes_held n raw rest o held, List.map_cons, ih, List.filterMap_cons_some held]

theorem outcomes_fst (n : Nat) (lines : List (List Char)) :
    (outcomes n lines).map Prod.fst =
      ((lines.zipIdx n).filter fun r => !isPassedOver (String.ofList r.1)).map Prod.snd := by
  induction lines generalizing n with
  | nil => rfl
  | cons raw rest ih =>
    cases held : outcome? raw with
    | none =>
      have skipped := (outcome?_eq_none_iff raw).1 held
      rw [outcomes_passed n raw rest held, ih, List.zipIdx_cons,
        List.filter_cons_of_neg (by simp [skipped])]
    | some o =>
      have kept : ¬ isPassedOver (String.ofList raw) = true := fun skipped => by
        rw [(outcome?_eq_none_iff raw).2 skipped] at held
        simp at held
      rw [outcomes_held n raw rest o held, List.map_cons, ih, List.zipIdx_cons,
        List.filter_cons_of_pos (by simp [kept]), List.map_cons]

theorem ofText_of_bracket (raw : List Char) (bracket : (Text.trimStart raw).head? = some '[') :
    outcome? raw = some (Decl.ofText (String.ofList raw)) := by
  obtain ⟨rest, begins⟩ := List.head?_eq_some_iff.1 bracket
  have kept : ¬ isPassedOver (String.ofList raw) = true := by
    simp [isPassedOver, begins]
  have held : outcome? raw ≠ none := fun none_ => kept ((outcome?_eq_none_iff raw).1 none_)
  unfold Decl.ofText
  unfold outcome? at held ⊢
  rw [String.toList_ofList, begins]
  cases read_ : readLine (String.ofList raw) with
  | error e => rfl
  | ok found =>
    cases found with
    | none => simp [read_] at held
    | some d => rfl

theorem readLines_eq (source : String) (n : Nat) (lines : List (List Char)) (s : Diagnostics) :
    readLines source n lines s =
      ((answer s.mode (lineOf source) (outcomes n lines)).1,
        s.record (answer s.mode (lineOf source) (outcomes n lines)).2) := by
  -- By induction on the lines, for any sink: what was recorded for the lines before is in it.
  induction lines generalizing n s with
  | nil => simp [readLines, outcomes, answer_nil, s.record_nil]
  | cons raw rest ih =>
    unfold readLines
    cases read_ : readLine (String.ofList raw) with
    | ok found =>
      dsimp only
      rw [ih]
      cases found with
      | none =>
        have skipped : outcome? raw = none := by simp [outcome?, read_]
        rw [outcomes_passed n raw rest skipped]
        cases (answer s.mode (lineOf source) (outcomes (n + 1) rest)).1 <;> rfl
      | some d =>
        have held : outcome? raw = some (.ok d) := by simp [outcome?, read_]
        rw [outcomes_held n raw rest _ held, answer_ok]
        rfl
    | error e =>
      have held : outcome? raw = some (.error e) := by simp [outcome?, read_]
      rw [outcomes_held n raw rest _ held]
      dsimp only
      cases mode : s.mode with
      | strict =>
        rw [s.reportRelationship_strict _ e mode, answer_error_strict, s.record_nil]
        rfl
      | lenient =>
        rw [s.reportRelationship_lenient _ e mode (readLine_error _ e read_), answer_error_lenient]
        dsimp only
        rw [ih, s.record_record]
        have same (ds : List Diagnostic) : (s.record ds).mode = .lenient := mode
        rw [same]
        rfl

end Diagram

namespace Decode

open Diagram

def itemOf (c : Context) (i : Nat) : Location :=
  c.diagnostics.locate (c.enter (toString i)).location

def Tells (c : Context) (b : Build (List Decl)) (os : List (Nat × Except Problem Decl)) : Prop :=
  ∀ ds, b.run (c.record ds) =
    ((answer c.diagnostics.mode (itemOf c) os).1,
      c.record (ds ++ (answer c.diagnostics.mode (itemOf c) os).2))

variable {c : Context} {rest : Build (List Decl)} {os : List (Nat × Except Problem Decl)}

theorem tells_nil : Tells c (pure []) [] := by
  intro ds
  rw [Build.run_pure, answer_nil, List.append_nil]

theorem tells_passed (later : Tells c rest os) :
    Tells c (do let d ← pure (none : Option Decl); return d.toList ++ (← rest)) os := by
  intro ds
  rw [pure_bind, Build.run_bind, later ds]
  cases (answer c.diagnostics.mode (itemOf c) os).1 <;> rfl

theorem run_relationship (text : String) (c : Context) :
    (relationship (.str text)).run c =
      match Decl.ofText text with
      | .ok d => (.ok (some d), c)
      | .error e =>
        match c.diagnostics.mode with
        | .strict => (.error ⟨.error, c.diagnostics.locate c.location, e⟩, c)
        | .lenient => (.ok none, c.record [⟨.error, c.diagnostics.locate c.location, e⟩]) := by
  rw [relationship_str]
  cases read_ : Decl.ofText text with
  | ok d => rfl
  | error e =>
    dsimp only
    rw [Build.run_bind, Build.run_reportRelationship]
    cases mode : c.diagnostics.mode with
    | strict => rw [c.diagnostics.reportRelationship_strict _ e mode]
    | lenient =>
      rw [c.diagnostics.reportRelationship_lenient _ e mode (Decl.ofText_error text e read_)]
      rfl

theorem tells_relationship (i : Nat) (text : String) (later : Tells c rest os) :
    Tells c (do
      let d ← Build.within (toString i) (relationship (.str text))
      return d.toList ++ (← rest)) ((i, Decl.ofText text) :: os) := by
  intro ds
  -- Neither the mode nor the place depends on what was recorded before.
  have inside : ((c.record ds).enter (toString i)).diagnostics.mode = c.diagnostics.mode := rfl
  have there : ((c.record ds).enter (toString i)).diagnostics.locate
      ((c.record ds).enter (toString i)).location = itemOf c i := rfl
  rw [Build.run_bind, Build.run_within, run_relationship, inside, there]
  cases Decl.ofText text with
  | ok d =>
    dsimp only
    rw [Context.leave_enter, Build.run_bind, later ds, answer_ok]
    cases (answer c.diagnostics.mode (itemOf c) os).1 <;> rfl
  | error e =>
    dsimp only
    cases mode : c.diagnostics.mode with
    | strict =>
      dsimp only
      rw [Context.leave_enter, answer_error_strict, List.append_nil]
    | lenient =>
      dsimp only
      rw [Context.leave_record_enter, Context.record_record, Build.run_bind, later, mode,
        answer_error_lenient]
      dsimp only
      rw [List.append_assoc, List.singleton_append]
      cases (answer .lenient (itemOf c) os).1 <;> rfl

theorem tells_relationshipLines (i : Nat) (lines : List (List Char))
    (drawn : ∀ raw ∈ lines, isPassedOver (String.ofList raw) = true ∨
      (Text.trimStart raw).head? = some '[') :
    Tells c (relationshipLines i lines) (outcomes i lines) := by
  induction lines generalizing i with
  | nil => exact tells_nil
  | cons raw rest ih =>
    have later := ih (i + 1) fun line member => drawn line (List.mem_cons_of_mem _ member)
    unfold relationshipLines
    dsimp only
    by_cases skipped : isPassedOver (String.ofList raw) = true
    · rw [if_pos skipped, outcomes_passed i raw rest ((outcome?_eq_none_iff raw).2 skipped)]
      exact tells_passed later
    · have bracket := (drawn raw List.mem_cons_self).resolve_left skipped
      rw [if_neg skipped, outcomes_held i raw rest _ (ofText_of_bracket raw bracket)]
      exact tells_relationship i _ later

theorem tells_relationshipItems (i : Nat) (lines : List (List Char))
    (drawn : ∀ raw ∈ lines, (Text.trimStart raw).head? = some '[') :
    Tells c (relationshipItems i (lines.map fun raw => .str (String.ofList raw)))
      (outcomes i lines) := by
  induction lines generalizing i with
  | nil => exact tells_nil
  | cons raw rest ih =>
    have later := ih (i + 1) fun line member => drawn line (List.mem_cons_of_mem _ member)
    have bracket := drawn raw List.mem_cons_self
    rw [outcomes_held i raw rest _ (ofText_of_bracket raw bracket)]
    exact tells_relationship i _ later

def declaring (v : Yaml) : Yaml := .map [(.str "class_relationships", v)]

def declared (ds : List Decl) : Params := [("class_relationships", .relationships ds)]

theorem run_declaring (v : Yaml) (filled : v.isNull = false) (c : Context)
    (os : List (Nat × Except Problem Decl))
    (tells : Tells (c.enter "class_relationships") (relationships v) os) :
    (params .zenPack (declaring v)).run c =
      ((answer c.diagnostics.mode (itemOf (c.enter "class_relationships")) os).1.map declared,
        c.record (answer c.diagnostics.mode (itemOf (c.enter "class_relationships")) os).2) := by
  have ran := tells []
  rw [Context.record_nil, List.nil_append] at ran
  have known : Node.relationshipsParam ∈ Kind.params .zenPack := by decide
  have run_value (read : Kind → Yaml → Build (Option Params)) (all : List (Yaml × Yaml)) :
      value read .zenPack Node.relationshipsParam
        (shapeAt .zenPack all Node.relationshipsParam) v = (do
          return some (.relationships (← relationships v))) := by
    have shape : shapeAt .zenPack all Node.relationshipsParam = .relationships := rfl
    unfold value
    rw [filled, shape]
    rfl
  have key (read : Kind → Yaml → Build (Option Params)) (all : List (Yaml × Yaml)) :=
    keys_declared read .zenPack all [] Node.relationshipsParam known v []
  have external : Node.relationshipsParam.external = "class_relationships" := rfl
  rw [external] at key
  unfold params paramsWith declaring
  dsimp only
  rw [key, run_value, Build.run_bind, Build.run_within, Build.run_bind, ran]
  have mode : (c.enter "class_relationships").diagnostics.mode = c.diagnostics.mode := rfl
  rw [mode]
  cases (answer c.diagnostics.mode (itemOf (c.enter "class_relationships")) os).1 with
  | error d =>
    dsimp only
    rw [Context.leave_record_enter]
    rfl
  | ok ds =>
    dsimp only
    rw [Build.run_pure]
    dsimp only
    rw [Context.leave_record_enter]
    rfl

/-- A block in which every line is passed over or in brackets is read alike as text, as a string
and as the sequence of the lines that are kept: the answers and the recorded errors are the same,
and what they are follows from what each kept line comes to. -/
theorem readers_agree (source text : String) (s : Diagnostics) (c c' : Context)
    (mode : c.diagnostics.mode = s.mode) (mode' : c'.diagnostics.mode = s.mode)
    (broken : '\n' ∈ text.toList)
    (drawn : ∀ raw ∈ Text.lines text.toList, isPassedOver (String.ofList raw) = true ∨
      (Text.trimStart raw).head? = some '[') :
    let lines := Text.lines text.toList
    let kept := lines.filter fun raw => !isPassedOver (String.ofList raw)
    let read := answer s.mode (lineOf source) (outcomes 1 lines)
    let block := answer s.mode (itemOf (c.enter "class_relationships")) (outcomes 0 lines)
    let items := answer s.mode (itemOf (c'.enter "class_relationships")) (outcomes 0 kept)
    Diagram.read source text s = (read.1, s.record read.2) ∧
      (params .zenPack (declaring (.str text))).run c =
        (block.1.map declared, c.record block.2) ∧
      (params .zenPack (declaring (.seq (kept.map fun raw => .str (String.ofList raw))))).run c' =
        (items.1.map declared, c'.record items.2) ∧
      said block = said read ∧ said items = said read ∧
      (outcomes 1 lines).map Prod.fst =
        ((lines.zipIdx 1).filter fun r => !isPassedOver (String.ofList r.1)).map Prod.snd := by
  intro lines kept read block items
  have brackets : ∀ raw ∈ kept, (Text.trimStart raw).head? = some '[' := by
    intro raw member
    obtain ⟨inside, held⟩ := List.mem_filter.1 member
    exact (drawn raw inside).resolve_left (by simpa using held)
  have same : kept.filterMap outcome? = lines.filterMap outcome? := by
    rw [List.filterMap_filter]
    refine List.filterMap_congr fun raw _ => ?_
    by_cases skipped : isPassedOver (String.ofList raw) = true
    · simp [skipped, (outcome?_eq_none_iff raw).2 skipped]
    · simp [skipped]
  have string : relationships (.str text) = relationshipLines 0 lines := by
    have contained : text.toList.contains '\n' = true := by simpa using broken
    simp only [relationships, contained, if_true]
    rfl
  have first := run_declaring (.str text) rfl c (outcomes 0 lines)
    (string ▸ tells_relationshipLines 0 lines drawn)
  have second := run_declaring (.seq (kept.map fun raw => .str (String.ofList raw))) rfl c'
    (outcomes 0 kept) (tells_relationshipItems 0 kept brackets)
  rw [mode] at first
  rw [mode'] at second
  refine ⟨readLines_eq source 1 lines s, first, second, ?_, ?_, outcomes_fst 1 lines⟩
  · exact said_answer_congr _ _ _ _ _ (by rw [outcomes_snd, outcomes_snd])
  · exact said_answer_congr _ _ _ _ _ (by rw [outcomes_snd, outcomes_snd, same])

def hosts : String :=
  "// hosts\n\n[Pod]++-[Fan]\n[Pod]++-++[Fan]\n[Pod\n"

theorem readers_agree_hosts :
    let s := Diagnostics.empty .lenient
    let c := Context.start s "pods.yaml" false
    let fans : Decl := ⟨⟨"Pod", none, .multiOwning⟩, ⟨"Fan", none, .single⟩⟩
    let turned : Problem := .orientation "Pod(fans) ToManyCont" "ToManyCont (pods)Fan"
    let cut : Problem := ambiguous "[Pod"
      "expected [Left]<marker><relname> <separator> <relname><marker>[Right]"
    let item (n : String) : Location := ⟨"pods.yaml", ["class_relationships", n], none, none⟩
    Diagram.read "pods.txt" hosts s =
        (.ok [fans], s.record [⟨.error, ⟨"pods.txt", [], some 4, some 1⟩, turned⟩,
          ⟨.error, ⟨"pods.txt", [], some 5, some 1⟩, cut⟩]) ∧
      (params .zenPack (declaring (.str hosts))).run c =
        (.ok (declared [fans]), c.record [⟨.error, item "3", turned⟩, ⟨.error, item "4", cut⟩]) ∧
      (params .zenPack (declaring (.seq [.str "[Pod]++-[Fan]", .str "[Pod]++-++[Fan]",
          .str "[Pod"]))).run c =
        (.ok (declared [fans]), c.record [⟨.error, item "1", turned⟩, ⟨.error, item "2", cut⟩]) := by
  intro s c fans turned cut item
  obtain ⟨text, block, items, -⟩ := readers_agree "pods.txt" hosts s c c rfl rfl (by decide +kernel)
    (by decide +kernel)
  exact ⟨text, block, items⟩

end Decode

end PackSpec
