import PackSpec.Proofs.Relationship.CompactForm

set_option autoImplicit false

namespace PackSpec

theorem isOriented_of_kindsOfCardinality? (text : String) (left right : Multiplicity)
    (found : kindsOfCardinality? text = some (left, right)) : isOrientation left right = true := by
  unfold kindsOfCardinality? at found
  split at found <;> simp only [Option.some.injEq, Prod.mk.injEq, reduceCtorEq] at found
  all_goals obtain ⟨rfl, rfl⟩ := found; rfl

namespace Text

theorem dropWhile_stop (stop : Char) (cs : List Char) :
    cs.dropWhile (· != stop) = [] ∨ ∃ rest, cs.dropWhile (· != stop) = stop :: rest := by
  induction cs with
  | nil => exact .inl rfl
  | cons c cs ih =>
    by_cases same : c = stop
    · exact .inr ⟨cs, by simp [same]⟩
    · simpa [same] using ih

theorem takeWhile_stop (stop : Char) (cs : List Char) :
    ∀ c ∈ cs.takeWhile (· != stop), (c != stop) = true := by
  intro c member
  exact List.mem_takeWhile_imp (p := (· != stop)) member

theorem split_stop (stop : Char) (cs rest : List Char)
    (stopped : cs.dropWhile (· != stop) = stop :: rest) :
    cs = cs.takeWhile (· != stop) ++ stop :: rest := by
  rw [← stopped, List.takeWhile_append_dropWhile]

end Text

namespace Compact

theorem parenthesized_some (cs name rest : List Char)
    (found : parenthesized cs = some (name, rest)) :
    name ≠ [] ∧ (∀ c ∈ name, (c != ')') = true) ∧ cs = '(' :: (name ++ ')' :: rest) := by
  unfold parenthesized at found
  split at found
  · next tail =>
    rcases Text.dropWhile_stop ')' tail with none_ | ⟨after, stopped⟩
    · simp [none_] at found
    · have parts := Text.split_stop ')' tail after stopped
      simp only [stopped, Option.ite_none_left_eq_some, Option.some.injEq, Prod.mk.injEq,
        List.isEmpty_iff] at found
      obtain ⟨filled, rfl, rfl⟩ := found
      exact ⟨filled, Text.takeWhile_stop ')' tail, by rw [← parts]⟩
  · simp at found

theorem named_some (cs name : List Char) (relation : Option (List Char))
    (found : named cs = some (name, relation)) :
    name ≠ [] ∧ (∀ c ∈ name, (c != '(') = true) ∧ (∀ c ∈ name, c ∈ cs) ∧
      ∀ r ∈ relation, r ≠ [] ∧ (∀ c ∈ r, (c != ')') = true) ∧ ∀ c ∈ r, c ∈ cs := by
  have inside : ∀ c ∈ cs.takeWhile (· != '('), c ∈ cs :=
    fun c member => (List.takeWhile_prefix _).subset member
  simp only [named, Option.ite_none_left_eq_some, List.isEmpty_iff] at found
  obtain ⟨filled, found⟩ := found
  split at found
  · obtain ⟨rfl, rfl⟩ := by simpa using found
    exact ⟨filled, Text.takeWhile_stop '(' cs, inside, by simp⟩
  · split at found
    · next relationName inParentheses =>
      obtain ⟨rfl, rfl⟩ := by simpa using found
      obtain ⟨named_, plain, text⟩ := parenthesized_some _ _ _ inParentheses
      refine ⟨filled, Text.takeWhile_stop '(' cs, inside, ?_⟩
      intro r member
      obtain rfl := Option.some.inj member
      refine ⟨named_, plain, fun c inName => ?_⟩
      have later : c ∈ cs.dropWhile (· != '(') := by simp [text, inName]
      exact (List.dropWhile_suffix _).subset later
    · simp at found

theorem side_some (cs name : List Char) (relation : Option (List Char)) (token : isToken cs = true)
    (found : side cs = some (name, relation)) :
    isClassName name = true ∧ ∀ r ∈ relation, isRelationName r = true := by
  have visible : ∀ c ∈ cs, Text.isBlank c = false := by
    simpa using visible_of_isToken cs token
  -- The text of a side is read behind a relation name or from its beginning.
  have fromNamed (part name_ : List Char) (relation_ : Option (List Char))
      (inside : ∀ c ∈ part, c ∈ cs) (found_ : named part = some (name_, relation_)) :
      isClassName name_ = true ∧ ∀ r ∈ relation_, isRelationName r = true := by
    obtain ⟨filled, plain, within, relations⟩ := named_some part name_ relation_ found_
    refine ⟨(isClassName_iff _).2 ⟨filled, fun c m => visible c (inside c (within c m)), plain⟩, ?_⟩
    intro r member
    obtain ⟨filled_, plain_, within_⟩ := relations r member
    exact (isRelationName_iff _).2
      ⟨filled_, fun c m => visible c (inside c (within_ c m)), plain_⟩
  unfold side at found
  split at found
  · split at found
    · next tail _ relationName rest inParentheses =>
      obtain ⟨filled, plain, text⟩ := parenthesized_some _ _ _ inParentheses
      obtain ⟨⟨name_, relation_⟩, named_, same⟩ := Option.map_eq_some_iff.1 found
      obtain ⟨rfl, rfl⟩ := by simpa using same
      have inside : ∀ c ∈ rest, c ∈ '(' :: tail := fun c m => by rw [text]; simp [m]
      refine ⟨(fromNamed rest name_ relation_ inside named_).1, ?_⟩
      intro r member
      obtain rfl := Option.some.inj member
      have within : ∀ c ∈ relationName, c ∈ '(' :: tail := fun c m => by rw [text]; simp [m]
      exact (isRelationName_iff _).2 ⟨filled, fun c m => visible c (within c m), plain⟩
    · simp at found
  · exact fromNamed cs name relation (fun c m => m) found

theorem endpoint_ok (text which : String) (kind : Multiplicity) (raw : List Char) (e : Endpoint)
    (token : isToken raw = true) (read_ : endpoint text which kind raw = .ok e) :
    e.kind = kind ∧ isClassName e.className.toList = true ∧
      ∀ r ∈ e.relationName, isRelationName r.toList = true := by
  unfold endpoint at read_
  split at read_
  · next name relation found =>
    obtain ⟨class_, relations⟩ := side_some raw name relation token found
    obtain rfl := Except.ok.inj read_
    refine ⟨rfl, by simpa [Endpoint.of] using class_, ?_⟩
    intro r member
    have given_ : r ∈ relation.map String.ofList := by
      simp only [Endpoint.of, given, Option.mem_def, Option.filter_eq_some_iff] at member
      exact member.1
    obtain ⟨cs, inRelation, rfl⟩ := Option.map_eq_some_iff.1 given_
    simpa using relations cs inRelation
  · simp at read_

theorem read_ok (text : String) (d : Decl) (accepted : read text = .ok d) :
    d.isOriented = true ∧ Compact.isClassName d.left.className.toList = true ∧
      Compact.isClassName d.right.className.toList = true ∧ d.NamesFit := by
  unfold read at accepted
  split at accepted
  · next left cardinality right parts =>
    have token (w : List Char) (member : w ∈ [left, cardinality, right]) : isToken w = true :=
      isToken_of_mem_words text.toList w (parts ▸ member)
    split at accepted
    · next leftKind rightKind kinds =>
      simp only [bind, Except.bind] at accepted
      split at accepted
      · simp at accepted
      · next leftEnd leftRead =>
        split at accepted
        · simp at accepted
        · next rightEnd rightRead =>
          obtain rfl := Except.ok.inj accepted
          obtain ⟨leftKind_, leftClass, leftFits⟩ :=
            endpoint_ok text "left" leftKind left leftEnd (token left (by simp)) leftRead
          obtain ⟨rightKind_, rightClass, rightFits⟩ :=
            endpoint_ok text "right" rightKind right rightEnd (token right (by simp)) rightRead
          refine ⟨?_, leftClass, rightClass, leftFits, rightFits⟩
          simp only [Decl.isOriented, leftKind_, rightKind_]
          exact isOriented_of_kindsOfCardinality? _ _ _ kinds
    · simp at accepted
  · simp at accepted

theorem endpoint_error (text which : String) (kind : Multiplicity) (raw : List Char) (e : Problem)
    (refused : endpoint text which kind raw = .error e) : e.isRecoverable = true := by
  unfold endpoint at refused
  split at refused
  · simp at refused
  · rw [← Except.error.inj refused]
    rfl

theorem read_error (text : String) (e : Problem) (refused : read text = .error e) :
    e.isRecoverable = true := by
  unfold read at refused
  split at refused
  · split at refused
    · simp only [bind, Except.bind] at refused
      split at refused
      · next left =>
        rw [← Except.error.inj refused]
        exact endpoint_error _ _ _ _ _ left
      · split at refused
        · next right =>
          rw [← Except.error.inj refused]
          exact endpoint_error _ _ _ _ _ right
        · simp at refused
    · rw [← Except.error.inj refused]
      rfl
  · rw [← Except.error.inj refused]
    rfl

end Compact

namespace Drawn

def ShownIn (d : Drawn) (cs : List Char) : Prop :=
  ∃ before between after, cs =
    before ++ '[' :: (d.leftClass ++ ']' :: (between ++ '[' :: (d.rightClass ++ ']' :: after)))

def HasLetters (d : Drawn) : Prop :=
  (∀ c ∈ d.leftName, isLetter c = true) ∧ ∀ c ∈ d.rightName, isLetter c = true

theorem count_of_shownIn (d : Drawn) (cs : List Char) (shown : d.ShownIn cs) :
    d.leftClass.count '[' + d.rightClass.count '[' + 2 ≤ cs.count '[' := by
  obtain ⟨before, between, after, rfl⟩ := shown
  simp only [List.count_append, List.count_cons, beq_self_eq_true, if_true]
  omega

theorem letter_bounds (c : Char) (letter : isLetter c = true) : 65 ≤ c.toNat ∧ c.toNat ≤ 122 := by
  have opened : ((decide (65 ≤ c.val ∧ c.val ≤ 90) || (decide (97 ≤ c.val) && decide (c.val ≤ 122))) ||
      c == '_') = true := letter
  simp only [Bool.or_eq_true, Bool.and_eq_true, decide_eq_true_eq, beq_iff_eq,
    UInt32.le_iff_toNat_le] at opened
  have value : c.toNat = c.val.toNat := rfl
  rcases opened with (⟨low, high⟩ | ⟨low, high⟩) | rfl
  · simp at low high; omega
  · simp at low high; omega
  · decide

theorem letter_visible (c : Char) (letter : isLetter c = true) : Text.isBlank c = false := by
  obtain ⟨low, high⟩ := letter_bounds c letter
  simp only [Text.isBlank, Bool.or_eq_false_iff, Bool.and_eq_false_iff, decide_eq_false_iff_not,
    beq_eq_false_iff_ne]
  omega

theorem letter_ne_parenthesis (c : Char) (letter : isLetter c = true) : (c != ')') = true := by
  have other : c ≠ ')' := by
    rintro rfl
    exact absurd letter (by decide)
  simpa using other

theorem isRelationName_of_letters (name : List Char) (filled : name ≠ [])
    (letters : ∀ c ∈ name, isLetter c = true) : Compact.isRelationName name = true :=
  (Compact.isRelationName_iff name).2 ⟨filled, fun c member => letter_visible c (letters c member),
    fun c member => letter_ne_parenthesis c (letters c member)⟩

theorem letters_of_given (className : String) (name : List Char) (kind : Multiplicity) (r : String)
    (letters : ∀ c ∈ name, isLetter c = true)
    (named : r ∈ (Endpoint.of className (some (String.ofList name)) kind).relationName) :
    r.toList ≠ [] ∧ ∀ c ∈ r.toList, isLetter c = true := by
  simp only [Endpoint.of, given, Option.mem_def, Option.filter_eq_some_iff, Option.some.injEq]
    at named
  obtain ⟨rfl, filled⟩ := named
  refine ⟨?_, by simpa using letters⟩
  intro empty
  have same : String.ofList name = "" := String.toList_inj.1 empty
  simp [same] at filled

def Lettered (d : Decl) : Prop :=
  (∀ r ∈ d.left.relationName, r.toList ≠ [] ∧ ∀ c ∈ r.toList, isLetter c = true) ∧
    ∀ r ∈ d.right.relationName, r.toList ≠ [] ∧ ∀ c ∈ r.toList, isLetter c = true

theorem lettered_decl (d : Drawn) (letters : d.HasLetters) :
    Lettered d.decl ∧ Lettered d.decl.swapped :=
  have left := fun r => letters_of_given (String.ofList d.leftClass) d.leftName
    (kindOf d.leftMark d.rightMark) r letters.1
  have right := fun r => letters_of_given (String.ofList d.rightClass) d.rightName
    (kindOf d.rightMark d.leftMark) r letters.2
  ⟨⟨left, right⟩, ⟨right, left⟩⟩

end Drawn

namespace Diagram

theorem oriented_ok (e d : Decl) (accepted : oriented e = .ok d) :
    d.isOriented = true ∧ (d = e ∨ d = e.swapped) := by
  unfold oriented at accepted
  split at accepted
  · next permitted => exact Except.ok.inj accepted ▸ ⟨permitted, .inl rfl⟩
  · split at accepted
    · next permitted => exact Except.ok.inj accepted ▸ ⟨permitted, .inr rfl⟩
    · simp at accepted

theorem readLine_error (line : String) (e : Problem) (refused : readLine line = .error e) :
    e.isOrientation = true ∨ e.isRecoverable = true := by
  unfold readLine at refused
  split at refused
  · simp at refused
  · split at refused
    · next drawn _ =>
      unfold oriented at refused
      split at refused
      · simp [Except.map] at refused
      · split at refused
        · simp [Except.map] at refused
        · rw [← Except.error.inj refused]
          exact .inl rfl
    · rw [← Except.error.inj refused]
      exact .inr rfl

end Diagram

end PackSpec
