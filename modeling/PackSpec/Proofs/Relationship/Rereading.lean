import PackSpec.Proofs.Relationship.Figure

set_option autoImplicit false

namespace PackSpec

namespace Decl

theorem namesFit_of_lettered (d : Decl) (lettered : Drawn.Lettered d) : d.NamesFit := by
  constructor
  · intro r member
    obtain ⟨filled, letters⟩ := lettered.1 r member
    exact Drawn.isRelationName_of_letters r.toList filled letters
  · intro r member
    obtain ⟨filled, letters⟩ := lettered.2 r member
    exact Drawn.isRelationName_of_letters r.toList filled letters

theorem readLine_of_ofText (text : String) (d : Decl) (rest : List Char)
    (bracket : Text.trimStart text.toList = '[' :: rest) (accepted : ofText text = .ok d) :
    Diagram.readLine text = .ok (some d) := by
  simp only [ofText, bracket] at accepted
  split at accepted
  · next read_ => rw [read_, Except.ok.inj accepted]
  · simp at accepted
  · simp at accepted

theorem read_of_ofText (text : String) (d : Decl)
    (plain : ∀ rest, Text.trimStart text.toList ≠ '[' :: rest) (accepted : ofText text = .ok d) :
    Compact.read text = .ok d := by
  unfold ofText at accepted
  split at accepted
  · next rest same => exact absurd same (plain rest)
  · exact accepted

theorem ofText_ok (text : String) (d : Decl) (accepted : ofText text = .ok d) :
    d.isOriented = true ∧ d.NamesFit := by
  by_cases bracket : ∃ rest, Text.trimStart text.toList = '[' :: rest
  · obtain ⟨rest, bracket⟩ := bracket
    obtain ⟨permitted, lettered, _⟩ :=
      Diagram.readLine_ok text d (readLine_of_ofText text d rest bracket accepted)
    exact ⟨permitted, namesFit_of_lettered d lettered⟩
  · have plain : ∀ rest, Text.trimStart text.toList ≠ '[' :: rest :=
      fun rest same => bracket ⟨rest, same⟩
    obtain ⟨permitted, _, _, fit⟩ :=
      Compact.read_ok text d (read_of_ofText text d plain accepted)
    exact ⟨permitted, fit⟩

theorem ofText_error (text : String) (e : Problem) (refused : ofText text = .error e) :
    e.isOrientation = true ∨ e.isRecoverable = true := by
  unfold ofText at refused
  split at refused
  · split at refused
    · simp at refused
    · rw [← Except.error.inj refused]
      exact .inr rfl
    · next read_ =>
      rw [← Except.error.inj refused]
      exact Diagram.readLine_error text _ read_
  · exact .inr (Compact.read_error text e refused)

theorem sides_of_withRelationNames (a b : Decl)
    (same : a.withRelationNames = b.withRelationNames) :
    a.left.className = b.left.className ∧ a.right.className = b.right.className ∧
      shownName a.leftName a.defaultLeft = shownName b.leftName b.defaultLeft ∧
      shownName a.rightName a.defaultRight = shownName b.rightName b.defaultRight := by
  simp only [withRelationNames, Decl.mk.injEq, Endpoint.mk.injEq, Option.some.injEq] at same
  obtain ⟨⟨leftClass, leftName_, leftKind⟩, rightClass, rightName_, rightKind⟩ := same
  simp only [defaultLeft, defaultRight, leftClass, rightClass, leftKind, rightKind, leftName_,
    rightName_, and_self]

theorem compact_of_withRelationNames (a b : Decl)
    (same : a.withRelationNames = b.withRelationNames) : a.compact = b.compact := by
  simp only [withRelationNames, Decl.mk.injEq, Endpoint.mk.injEq, Option.some.injEq] at same
  obtain ⟨⟨leftClass, leftName_, leftKind⟩, rightClass, rightName_, rightKind⟩ := same
  simp only [compact, isOriented, defaultLeft, defaultRight, leftClass, rightClass, leftKind,
    rightKind, leftName_, rightName_]
  rfl

theorem given_of_shownName (given_ : Option String) (default r : String)
    (shown : r ∈ shownName (given_.getD default) default) : r ∈ given_ := by
  cases given_ with
  | none => simp [shownName] at shown
  | some name =>
    simp only [shownName, Option.getD_some] at shown
    split at shown <;> simp_all

theorem count_shown (given_ : Option String) (default : String)
    (letters : ∀ r ∈ given_, r.toList ≠ [] ∧ ∀ c ∈ r.toList, Drawn.isLetter c = true) :
    ∀ r ∈ (shownName (given_.getD default) default).map String.toList, r.count '[' = 0 := by
  intro r member
  obtain ⟨name, shown, rfl⟩ := Option.map_eq_some_iff.1 member
  have plain := (letters name (given_of_shownName given_ default name shown)).2
  refine List.count_eq_zero.2 fun bracket => ?_
  exact absurd (plain '[' bracket) (by decide)

theorem count_leftText (name : List Char) (relation : Option (List Char))
    (plain : ∀ r ∈ relation, r.count '[' = 0) :
    (Compact.leftText name relation).count '[' = name.count '[' := by
  cases relation with
  | none => rfl
  | some r => simp [Compact.leftText, plain r rfl]

theorem count_rightText (name : List Char) (relation : Option (List Char))
    (plain : ∀ r ∈ relation, r.count '[' = 0) :
    (Compact.rightText name relation).count '[' = name.count '[' := by
  cases relation with
  | none => rfl
  | some r => simp [Compact.rightText, plain r rfl]

theorem count_cardinalityText (left right : Multiplicity) :
    (cardinalityText left right).toList.count '[' = 0 := by
  cases left <;> cases right <;> decide

theorem count_compact (d : Decl) (text : String) (written : d.compact = .ok text)
    (left : ∀ r ∈ (shownName d.leftName d.defaultLeft).map String.toList, r.count '[' = 0)
    (right : ∀ r ∈ (shownName d.rightName d.defaultRight).map String.toList, r.count '[' = 0) :
    text.toList.count '[' =
      d.left.className.toList.count '[' + d.right.className.toList.count '[' := by
  unfold compact at written
  split at written
  · rw [← Except.ok.inj written, compactForm_toList]
    simp only [List.count_append, List.count_cons, count_leftText _ _ left,
      count_rightText _ _ right, count_cardinalityText]
    simp
  · simp at written

theorem not_readLine_compact (d again : Decl) (text : String) (written : d.compact = .ok text)
    (same : again.withRelationNames = d.withRelationNames)
    (accepted : Diagram.readLine text = .ok (some again)) : False := by
  obtain ⟨_, lettered, count⟩ := Diagram.readLine_ok text again accepted
  obtain ⟨leftClass, rightClass, left, right⟩ := sides_of_withRelationNames again d same
  -- Names of letters have no brackets, and the relation names are the same in both declarations.
  have leftPlain := count_shown again.left.relationName again.defaultLeft lettered.1
  have rightPlain := count_shown again.right.relationName again.defaultRight lettered.2
  rw [← leftName, left] at leftPlain
  rw [← rightName, right] at rightPlain
  have total := count_compact d text written leftPlain rightPlain
  rw [leftClass, rightClass] at count
  omega

theorem isCarried_of_reread (d again : Decl) (text : String) (written : d.compact = .ok text)
    (accepted : ofText text = .ok again)
    (same : again.withRelationNames = d.withRelationNames) : d.isCarried = true := by
  have plain : ∀ rest, Text.trimStart text.toList ≠ '[' :: rest := fun rest bracket =>
    not_readLine_compact d again text written same
      (readLine_of_ofText text again rest bracket accepted)
  obtain ⟨_, left, right, _⟩ := Compact.read_ok text again (read_of_ofText text again plain accepted)
  obtain ⟨leftClass, rightClass, _⟩ := sides_of_withRelationNames again d same
  rw [leftClass] at left
  rw [rightClass] at right
  have start : d.left.className.toList.head? ≠ some '[' := by
    intro bracket
    obtain ⟨cs, split⟩ := List.head?_eq_some_iff.1 bracket
    obtain ⟨rest, trimmed⟩ := trimStart_compact d text '[' cs written split (by decide)
    exact plain rest trimmed
  simp [isCarried, left, right, start]

/-- A relationship that either reader accepts can always be written; it reads back as the same
relationship exactly if its class names are carried. -/
theorem rereads_iff_isCarried (text : String) (d : Decl) (accepted : ofText text = .ok d) :
    ∃ written, d.compact = .ok written ∧
      ((∃ again, ofText written = .ok again ∧
          again.withRelationNames = d.withRelationNames) ↔ d.isCarried = true) := by
  obtain ⟨permitted, fit⟩ := ofText_ok text d accepted
  refine ⟨_, by rw [compact, if_pos permitted], ?_⟩
  constructor
  · rintro ⟨again, read_, same⟩
    exact isCarried_of_reread d again _ (by rw [compact, if_pos permitted]) read_ same
  · intro carried
    obtain ⟨written, made, read_⟩ := ofText_compact d permitted carried fit
    rw [compact, if_pos permitted] at made
    obtain rfl := Except.ok.inj made
    exact ⟨d.shortened, read_, withRelationNames_shortened d⟩

def pools : Decl :=
  ⟨⟨"SR", some "default_for_pools", .multi⟩, ⟨"Pool", some "default_sr", .single⟩⟩

theorem rereads_pools :
    ofText "[Pool]*default_sr -.-default_for_pools 0..1[SR]" = .ok pools ∧
      ∃ written, pools.compact = .ok written ∧
        ((∃ again, ofText written = .ok again ∧
            again.withRelationNames = pools.withRelationNames) ↔ pools.isCarried = true) :=
  have accepted : ofText "[Pool]*default_sr -.-default_for_pools 0..1[SR]" = .ok pools := by rfl
  ⟨accepted, rereads_iff_isCarried _ _ accepted⟩

def blankClass : Decl := ⟨⟨"My Class", none, .multiOwning⟩, ⟨"Fan", none, .single⟩⟩

/-- A class name with a blank, as a diagram line may have it, is written but not read again. -/
theorem blank_class_not_reread :
    ofText "[My Class]++-[Fan]" = .ok blankClass ∧
      blankClass.compact = .ok "My Class 1:MC Fan" ∧
      ∃ e, ofText "My Class 1:MC Fan" = .error e :=
  ⟨by rfl, by rfl, ⟨_, by rfl⟩⟩

end Decl

namespace Compact

/-- What the compact reader accepts has a permitted orientation and can be written. Read again it is
the same but for relation names that are the derived ones, which are left out, and it is written as
before. -/
theorem reads_settled (text : String) (d : Decl) (accepted : read text = .ok d) :
    d.isOriented = true ∧ ∃ written, d.compact = .ok written ∧ read written = .ok d.shortened ∧
      d.shortened.withRelationNames = d.withRelationNames ∧ d.shortened.compact = .ok written := by
  obtain ⟨oriented, leftClass, rightClass, fit⟩ := read_ok text d accepted
  obtain ⟨written, made, again⟩ := d.read_compact oriented leftClass rightClass fit
  have same := d.withRelationNames_shortened
  exact ⟨oriented, written, made, again, same, (Decl.compact_of_withRelationNames _ _ same).trans made⟩

def rack : Decl :=
  ⟨⟨"[Rack]", some "(slots", .multiOwning⟩, ⟨"Fan-Tray", some "[Rack]", .single⟩⟩

theorem reads_settled_rack :
    let text := "\t((slots)[Rack]  1:MC\tFan-Tray([Rack])\n"
    read text = .ok rack ∧ rack.isOriented = true ∧
      ∃ written, rack.compact = .ok written ∧ read written = .ok rack.shortened ∧
        rack.shortened.withRelationNames = rack.withRelationNames ∧
        rack.shortened.compact = .ok written :=
  have accepted : read "\t((slots)[Rack]  1:MC\tFan-Tray([Rack])\n" = .ok rack := by rfl
  ⟨accepted, reads_settled _ _ accepted⟩

end Compact

end PackSpec
