import PackSpec.Document.Decode
import PackSpec.Param.Access
import PackSpec.Proofs.Text.Spans

set_option autoImplicit false

namespace PackSpec

namespace Shorthand

def IsDigits (cs : List Char) : Prop := cs ≠ [] ∧ ∀ c ∈ cs, Text.isDigit c = true

inductive IsPart : List Char → Prop
  | nothing : IsPart []
  | point (digits : List Char) (more : IsDigits digits) : IsPart ('.' :: digits)

inductive IsBound : List Char → Prop
  | unknown : IsBound ['U']
  | number (sign whole part : List Char) (signed : sign = [] ∨ sign = ['-'])
      (digits : IsDigits whole) (ends : IsPart part) : IsBound (sign ++ whole ++ part)

/-- The parts that a shorthand may have. -/
structure Formed (s : Shorthand) : Prop where
  filled : s.type ≠ []
  capitals : ∀ c ∈ s.type, isCapital c = true
  least : ∀ b ∈ s.least, IsBound b
  greatest : ∀ b ∈ s.greatest, IsBound b

section

variable {cs b rest : List Char}

def Ends (rest : List Char) : Prop := Text.Stops (fun c => Text.isDigit c || c == '.') rest

theorem Ends.digits (ends : Ends rest) : Text.Stops Text.isDigit rest :=
  fun c first => (Bool.or_eq_false_iff.1 (ends c first)).1

theorem fraction_of_ends (ends : Ends rest) : fraction rest = ([], rest) := by
  unfold fraction
  split
  · next more => simp [Ends] at ends
  · rfl

theorem fraction_append (digits : List Char) (more : IsDigits digits) (ends : Ends rest) :
    fraction ('.' :: (digits ++ rest)) = ('.' :: digits, rest) := by
  simp [fraction, Text.takeWhile_append_stops more.2 ends.digits,
    Text.dropWhile_append_stops more.2 ends.digits, more.1]

theorem fraction_sound (cs : List Char) :
    IsPart (fraction cs).1 ∧ cs = (fraction cs).1 ++ (fraction cs).2 := by
  unfold fraction
  split
  · next more =>
    split
    · exact ⟨.nothing, rfl⟩
    · next filled =>
      refine ⟨.point _ ⟨by simpa using filled, fun c member => List.mem_takeWhile_imp member⟩, ?_⟩
      simp
  · exact ⟨.nothing, rfl⟩

theorem stops_digits_part (part : List Char) (is : IsPart part) (ends : Ends rest) :
    Text.Stops Text.isDigit (part ++ rest) := by
  cases is with
  | nothing => exact ends.digits
  | point digits _ => exact (Text.stops_cons _ _).2 (by decide)

def unsigned (cs : List Char) : Option (List Char × List Char) :=
  if (cs.takeWhile Text.isDigit).isEmpty then none
  else
    let part := fraction (cs.dropWhile Text.isDigit)
    some (cs.takeWhile Text.isDigit ++ part.1, part.2)

theorem unsigned_append (whole part : List Char) (digits : IsDigits whole) (is : IsPart part)
    (ends : Ends rest) : unsigned (whole ++ part ++ rest) = some (whole ++ part, rest) := by
  have stops := stops_digits_part part is ends
  have behind : fraction (part ++ rest) = (part, rest) := by
    cases is with
    | nothing => exact fraction_of_ends ends
    | point digits more => exact fraction_append digits more ends
  rw [unsigned, List.append_assoc, Text.takeWhile_append_stops digits.2 stops,
    Text.dropWhile_append_stops digits.2 stops, behind, if_neg (by simpa using digits.1)]

theorem unsigned_some (found : unsigned cs = some (b, rest)) :
    ∃ whole part, IsDigits whole ∧ IsPart part ∧ b = whole ++ part ∧ cs = b ++ rest := by
  unfold unsigned at found
  split at found
  · cases found
  · next filled =>
    obtain ⟨is, behind⟩ := fraction_sound (cs.dropWhile Text.isDigit)
    obtain ⟨rfl, rfl⟩ := Prod.mk.inj (Option.some.inj found)
    refine ⟨_, _, ⟨by simpa using filled, fun c member => List.mem_takeWhile_imp member⟩, is, rfl, ?_⟩
    rw [List.append_assoc, ← behind, List.takeWhile_append_dropWhile]

theorem bound_unknown (rest : List Char) : bound ('U' :: rest) = some (['U'], rest) := rfl

theorem bound_negative (rest : List Char) :
    bound ('-' :: rest) = (unsigned rest).map fun found => ('-' :: found.1, found.2) := by
  have opened : bound ('-' :: rest) =
      if (rest.takeWhile Text.isDigit).isEmpty then none
      else
        let part := fraction (rest.dropWhile Text.isDigit)
        some (['-'] ++ rest.takeWhile Text.isDigit ++ part.1, part.2) := rfl
  rw [opened, unsigned]
  split <;> rfl

theorem bound_plain (cs : List Char) (known : ∀ rest, cs ≠ 'U' :: rest)
    (positive : ∀ rest, cs ≠ '-' :: rest) : bound cs = unsigned cs := by
  unfold bound unsigned
  split
  · next rest => exact absurd rfl (known rest)
  · split
    next sign digits signed =>
      split at signed
      · exact absurd rfl (positive _)
      · obtain ⟨rfl, rfl⟩ := Prod.mk.inj signed
        rfl

theorem bound_append (is : IsBound b) (ends : Ends rest) : bound (b ++ rest) = some (b, rest) := by
  cases is with
  | unknown => exact bound_unknown rest
  | number sign whole part signed digits is =>
    rcases signed with rfl | rfl
    · -- A digit is neither the letter nor the sign.
      have first (c : Char) (other : Text.isDigit c = false) (more : List Char) :
          whole ++ part ++ rest ≠ c :: more := by
        intro same
        obtain ⟨d, ds, rfl⟩ := List.exists_cons_of_ne_nil digits.1
        have digit := digits.2 d (by simp)
        rw [(List.cons.inj same).1, other] at digit
        cases digit
      rw [List.nil_append, bound_plain _ (first 'U' (by decide)) (first '-' (by decide)),
        unsigned_append whole part digits is ends]
    · rw [List.singleton_append, List.cons_append, List.cons_append, bound_negative,
        unsigned_append whole part digits is ends]
      rfl

theorem bound_some (found : bound cs = some (b, rest)) : IsBound b ∧ cs = b ++ rest := by
  by_cases known : ∃ more, cs = 'U' :: more
  · obtain ⟨more, rfl⟩ := known
    obtain ⟨rfl, rfl⟩ := Prod.mk.inj (Option.some.inj found)
    exact ⟨.unknown, rfl⟩
  by_cases negative : ∃ more, cs = '-' :: more
  · obtain ⟨more, rfl⟩ := negative
    rw [bound_negative] at found
    obtain ⟨⟨text, behind⟩, there, same⟩ := Option.map_eq_some_iff.1 found
    obtain ⟨rfl, rfl⟩ := Prod.mk.inj same
    obtain ⟨whole, part, digits, is, rfl, rfl⟩ := unsigned_some there
    exact ⟨.number ['-'] whole part (.inr rfl) digits is, rfl⟩
  · rw [bound_plain cs (fun more same => known ⟨more, same⟩)
      fun more same => negative ⟨more, same⟩] at found
    obtain ⟨whole, part, digits, is, rfl, rfl⟩ := unsigned_some found
    exact ⟨.number [] whole part (.inl rfl) digits is, rfl⟩

def optional (mark : List Char) : Option (List Char) → List Char
  | some b => mark ++ b
  | none => []

theorem after?_append (mark rest : List Char) : after? mark (mark ++ rest) = some rest := by
  simp [after?]

theorem after?_some (mark : List Char) (found : after? mark cs = some rest) : cs = mark ++ rest := by
  unfold after? at found
  split at found
  · next begins =>
    obtain ⟨more, rfl⟩ := List.isPrefixOf_iff_prefix.1 begins
    simpa using found
  · cases found

theorem marked_optional (mark : List Char) (b : Option (List Char)) (is : ∀ x ∈ b, IsBound x)
    (ends : Ends rest) (absent : b = none → after? mark rest = none) :
    marked mark (optional mark b ++ rest) = some (b, rest) := by
  cases b with
  | none => simp [marked, optional, absent rfl]
  | some x =>
    rw [optional, List.append_assoc, marked, after?_append]
    dsimp only
    rw [bound_append (is x rfl) ends]
    rfl

theorem marked_some (mark : List Char) (b : Option (List Char))
    (found : marked mark cs = some (b, rest)) :
    (∀ x ∈ b, IsBound x) ∧ cs = optional mark b ++ rest := by
  unfold marked at found
  cases begun : after? mark cs with
  | none =>
    rw [begun] at found
    obtain ⟨rfl, rfl⟩ := Prod.mk.inj (Option.some.inj found)
    exact ⟨by simp, rfl⟩
  | some behind =>
    rw [begun] at found
    obtain ⟨⟨x, last⟩, there, same⟩ := Option.map_eq_some_iff.1 found
    obtain ⟨rfl, rfl⟩ := Prod.mk.inj same
    obtain ⟨is, rfl⟩ := bound_some there
    obtain rfl := after?_some mark begun
    exact ⟨by simpa using is, by simp [optional]⟩

end

theorem written_eq (s : Shorthand) :
    s.written = s.type ++ optional leastMark s.least ++ optional greatestMark s.greatest := by
  unfold written optional
  cases s.least <;> cases s.greatest <;> rfl

theorem ends_greatest (b : Option (List Char)) : Ends (optional greatestMark b) := by
  cases b with
  | none => simp [Ends, Text.Stops, optional]
  | some x => exact (Text.stops_cons _ _).2 (by decide)

theorem after?_least (b : Option (List Char)) : after? leastMark (optional greatestMark b) = none := by
  cases b <;> rfl

theorem stops_type (s : Shorthand) :
    Text.Stops isCapital (optional leastMark s.least ++ optional greatestMark s.greatest) := by
  cases s.least with
  | some x => exact (Text.stops_cons _ _).2 (by decide)
  | none =>
    cases s.greatest with
    | some x => exact (Text.stops_cons _ _).2 (by decide)
    | none => simp [Text.Stops, optional]

theorem read?_of_written (text : String) (s : Shorthand) (formed : s.Formed)
    (written_ : s.written = Text.trim text.toList) : read? text = some s := by
  rw [written_eq, List.append_assoc] at written_
  have least := marked_optional leastMark s.least formed.least (ends_greatest s.greatest)
    fun _ => after?_least s.greatest
  have greatest : marked greatestMark (optional greatestMark s.greatest) = some (s.greatest, []) := by
    have ended : Ends [] := by simp [Ends, Text.Stops]
    simpa using marked_optional greatestMark s.greatest formed.greatest ended fun _ => rfl
  unfold read?
  rw [← written_]
  dsimp only
  rw [Text.takeWhile_append_stops formed.capitals s.stops_type,
    Text.dropWhile_append_stops formed.capitals s.stops_type, if_neg (by simpa using formed.filled),
    least]
  dsimp only
  rw [greatest]

theorem written_of_read? (text : String) (s : Shorthand) (found : read? text = some s) :
    s.Formed ∧ s.written = Text.trim text.toList := by
  unfold read? at found
  dsimp only at found
  split at found
  · cases found
  next filled =>
    split at found
    · cases found
    next least rest least_ =>
      split at found
      · next greatest greatest_ =>
        obtain rfl := Option.some.inj found
        obtain ⟨is, behind⟩ := marked_some leastMark least least_
        obtain ⟨is_, rfl⟩ := marked_some greatestMark greatest greatest_
        refine ⟨⟨by simpa using filled, fun c member => List.mem_takeWhile_imp member, is, is_⟩, ?_⟩
        rw [List.append_nil] at behind
        rw [written_eq, List.append_assoc, ← behind, List.takeWhile_append_dropWhile]
      · cases found

theorem read?_eq_some_iff (text : String) (s : Shorthand) :
    read? text = some s ↔ s.Formed ∧ s.written = Text.trim text.toList :=
  ⟨written_of_read? text s, fun ⟨formed, written_⟩ => read?_of_written text s formed written_⟩

def params (s : Shorthand) : Params :=
  ("rrdtype", .str (String.ofList s.type)) ::
    (s.least.map fun b => ("rrdmin", .str (String.ofList b))).toList ++
      (s.greatest.map fun b => ("rrdmax", .str (String.ofList b))).toList

def spelled (ps : Params) : String :=
  Params.str ps "rrdtype" ++ ((Params.str? ps "rrdmin").map ("_MIN_" ++ ·)).getD "" ++
    ((Params.str? ps "rrdmax").map ("_MAX_" ++ ·)).getD ""

theorem spelled_params (s : Shorthand) : spelled s.params = String.ofList s.written := by
  have least : String.ofList leastMark = "_MIN_" := rfl
  have greatest : String.ofList greatestMark = "_MAX_" := rfl
  rw [written_eq]
  obtain ⟨type, _ | b, _ | d⟩ := s <;>
    simp [spelled, params, optional, Params.str, Params.str?, Params.value, Entries.get?,
      List.lookup_cons, String.ofList_append, least, greatest, String.append_assoc]

structure Told (s : Shorthand) (ps : Params) : Prop where
  type : Entries.get? ps "rrdtype" = some (.str (String.ofList s.type))
  least : Entries.get? ps "rrdmin" = s.least.map fun b => .str (String.ofList b)
  greatest : Entries.get? ps "rrdmax" = s.greatest.map fun b => .str (String.ofList b)
  once : (Entries.names ps).Nodup
  only : ∀ name ∈ Entries.names ps, name ∈ ["rrdtype", "rrdmin", "rrdmax"]

theorem told_params (s : Shorthand) : Told s s.params := by
  obtain ⟨type, _ | b, _ | d⟩ := s <;>
    constructor <;> simp [params, Entries.get?, Entries.names, List.lookup_cons]

theorem decoded (text : String) :
    Decode.shorthand text =
      match read? text with
      | some s => .ok s.params
      | none => .error (rejection text) := by
  unfold Decode.shorthand read
  cases read? text <;> rfl

/-- A scalar is read as a datapoint exactly if without its outer blanks it is a type with an optional
least value and then an optional greatest value. Then it is so in one way, its parts are the parameters
and there are no others, and they spell the text out again; any other scalar is refused. -/
theorem reads_exactly (text : String) :
    ((∃ ps, Decode.shorthand text = .ok ps) ↔
      ∃ s : Shorthand, s.Formed ∧ s.written = Text.trim text.toList) ∧
    match Decode.shorthand text with
    | .ok ps => spelled ps = Text.trimmed text ∧
        ∃ s : Shorthand, (s.Formed ∧ s.written = Text.trim text.toList) ∧ s.Told ps ∧
          ∀ t : Shorthand, t.Formed ∧ t.written = Text.trim text.toList → t = s
    | .error e => e = .typeCoercion "RRDDatapointSpec" "shorthand"
        "TYPE, TYPE_MIN_n, TYPE_MAX_n or TYPE_MIN_n_MAX_n" ("'" ++ text ++ "'") := by
  simp only [← read?_eq_some_iff, decoded]
  cases found : read? text with
  | none => simp [rejection]
  | some s =>
    have written_ := (written_of_read? text s found).2
    refine ⟨by simp, ?_, s, rfl, s.told_params, fun t same => (Option.some.inj same).symm⟩
    rw [spelled_params, written_, Text.trimmed]

-- The bounds come in one order only, and no text goes on behind them.
example : [" COUNTER_MIN_-0.5_MAX_U ", "GAUGE_MAX_1_MIN_2", "GAUGE_MIN_5.", "GAUGE2"].map read? =
    [some ⟨"COUNTER".toList, some "-0.5".toList, some ['U']⟩, none, none, none] := by
  decide

end Shorthand

end PackSpec
