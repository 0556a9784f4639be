import PackSpec.Yaml.Cursor
import PackSpec.Yaml.Plain

set_option autoImplicit false

namespace PackSpec.Yaml

/-- A string is plain where it reads back as itself, and otherwise in the first of single quotes, a
literal block (for several lines) and double quotes that can hold it. -/
inductive Style where
  | plain
  | single
  | double
  | literal
deriving DecidableEq, Repr

namespace Style

def isPrintable (c : Char) : Bool :=
  let n := c.toNat
  n == 0x0A || (0x20 ≤ n && n ≤ 0x7E) || (0xA0 ≤ n && n ≤ 0xD7FF) ||
    (0xE000 ≤ n && n ≤ 0xFFFD && n != 0xFEFF) || 0x10000 ≤ n

def startsIndicator (c : Char) : Bool :=
  "#,[]\x7b\x7d&*!|>\x27\x22%@\x60".toList.contains c

def beginsOther (cs : List Char) : Bool :=
  match cs with
  | '-' :: '-' :: '-' :: _ | '.' :: '.' :: '.' :: _ => true
  | c :: rest =>
    startsIndicator c || ((c == '?' || c == ':' || c == '-') && endsWord rest.head?)
  | [] => false

def hasSeparator : List Char → Bool
  | a :: b :: rest =>
    (b == ':' && endsWord rest.head?) || (isGap a && b == '#') || hasSeparator (b :: rest)
  | _ => false

def hasPair (p q : Char → Bool) : List Char → Bool
  | a :: b :: rest => (p a && q b) || hasPair p q (b :: rest)
  | _ => false

def isBlank (c : Char) : Bool := c == ' '

structure Traits where
  isMultiline : Bool
  allowsPlain : Bool
  allowsSingle : Bool
  allowsBlock : Bool

def traits (cs : List Char) : Traits :=
  let special := cs.any (!isPrintable ·) || hasPair isBlank isBreak cs
  let edged := cs.head?.any (fun c => isBlank c || isBreak c) ||
    cs.getLast?.any (fun c => isBlank c || isBreak c)
  let multiline := cs.any isBreak
  let afterBreak := hasPair isBreak isBlank cs
  { isMultiline := multiline
    allowsPlain := !special && !edged && !multiline && !beginsOther cs && !hasSeparator cs
    allowsSingle := !special && !afterBreak
    allowsBlock := !cs.isEmpty && !special && !cs.getLast?.any isBlank }

def readsBack (text : String) : Bool :=
  match ofPlain text with
  | some (.str _) => !Plain.isZeroLed text
  | _ => false

def wanted (text : String) : Style :=
  if text.toList.contains '\n' then .literal
  else if readsBack text then .plain
  else .single

def of (text : String) : Style :=
  let t := traits text.toList
  match wanted text with
  | .plain => if t.allowsPlain then .plain else if t.allowsSingle then .single else .double
  | .single => if t.allowsSingle then .single else .double
  | .literal => if t.allowsBlock then .literal else .double
  | .double => .double

end Style

namespace Text

def spaces (n : Nat) : String := String.ofList (List.replicate n ' ')

def hex (width n : Nat) : List Char :=
  let digits := (Nat.toDigits 16 n).map Char.toUpper
  List.replicate (width - digits.length) '0' ++ digits

def escapeName : Char → Option Char
  | '\x00' => some '0'
  | '\x07' => some 'a'
  | '\x08' => some 'b'
  | '\t' => some 't'
  | '\n' => some 'n'
  | '\x0b' => some 'v'
  | '\x0c' => some 'f'
  | '\r' => some 'r'
  | '\x1b' => some 'e'
  | '\x22' => some '\x22'
  | '\\' => some '\\'
  | '\x85' => some 'N'
  | '\u2028' => some 'L'
  | '\u2029' => some 'P'
  | _ => none

def escaped (c : Char) : List Char :=
  match escapeName c with
  | some name => ['\\', name]
  | none =>
    if Style.isPrintable c then [c]
    else if c.toNat ≤ 0xFF then ['\\', 'x'] ++ hex 2 c.toNat
    else if c.toNat ≤ 0xFFFF then ['\\', 'u'] ++ hex 4 c.toNat
    else ['\\', 'U'] ++ hex 8 c.toNat

def double (text : String) : String :=
  String.ofList ('\x22' :: text.toList.flatMap escaped ++ ['\x22'])

def withMargin (margin : List Char) : List Char → List Char
  | [] => []
  | [c] => [c]
  | c :: d :: rest =>
    c :: (if isBreak c && !isBreak d then margin else []) ++ withMargin margin (d :: rest)

def singleChars (margin : Nat) (text : String) : List Char :=
  let quoted := text.toList.flatMap fun c => if c == '\x27' then ['\x27', '\x27'] else [c]
  let pad := List.replicate margin ' '
  withMargin pad quoted ++ if text.toList.getLast?.any isBreak then pad else []

def single (margin : Nat) (text : String) : String :=
  String.ofList ('\x27' :: singleChars margin text ++ ['\x27'])

def chompMark (cs : List Char) : String :=
  match cs.reverse with
  | [] => "-"
  | c :: before =>
    if !isBreak c then "-"
    else if before.head?.all isBreak then "+"
    else ""

def literalHeader (cs : List Char) : String :=
  "|" ++ (if cs.head?.any fun c => c == ' ' || isBreak c then "2" else "") ++ chompMark cs

def literal (margin : Nat) (text : String) : String :=
  let cs := text.toList
  let pad := List.replicate margin ' '
  let first := if cs.head?.any (!isBreak ·) then pad else []
  literalHeader cs ++ "\n" ++ String.ofList (first ++ withMargin pad cs) ++
    if cs.getLast?.any isBreak then "" else "\n"

def string (margin : Nat) (text : String) : String :=
  match Style.of text with
  | .plain => text ++ "\n"
  | .single => single margin text ++ "\n"
  | .double => double text ++ "\n"
  | .literal => literal margin text

def tagChar (c : Char) : List Char :=
  if isNameChar c || ";/?:@&=+$,_.~*\x27()[]".toList.contains c then [c]
  else c.toString.toUTF8.data.toList.flatMap fun b => '%' :: hex 2 b.toNat

def tag (name : String) : String :=
  let cs := name.toList
  if cs == ['!'] then "!<%21>"
  else String.ofList ('!' :: (if cs.head? == some '!' then cs.tail else cs).flatMap tagChar)

def tagSize (name : String) : Nat :=
  if name.toList.head? == some '!' then name.utf8ByteSize else name.utf8ByteSize + 1

def isEmptyCollection : Yaml → Bool
  | .seq [] | .map [] => true
  | _ => false

def word? : Yaml → Option String
  | .null => some "null"
  | .bool b => some (if b then "true" else "false")
  | .int n => some (intText n)
  | .float x => some (floatText x)
  | .seq [] => some "[]"
  | .map [] => some "\x7b\x7d"
  | _ => none

def keyText? : Yaml → Option (String × Nat)
  | .str text =>
    if (Style.traits text.toList).isMultiline then none
    else some ((string 0 text).dropEnd 1 |>.toString, text.utf8ByteSize)
  | v => (word? v).map fun w => (w, if isEmptyCollection v then 0 else w.utf8ByteSize)

def longestKey : Nat := 128

def simpleKey? : Yaml → Option String
  | .tagged name v =>
    match keyText? v with
    | some (text, size) =>
      if size + tagSize name ≤ longestKey then some (tag name ++ " " ++ text) else none
    | none => none
  | v =>
    match keyText? v with
    | some (text, size) => if size ≤ longestKey then some text else none
    | none => none

inductive Place where
  | root
  | item (column : Nat)
  | entry (column : Nat)
  | side (column : Nat)

namespace Place

def margin : Place → Nat
  | .root => 2
  | .item c | .entry c | .side c => c + 2

def gap (isTagged : Bool) : Place → String
  | .root => if isTagged then " " else ""
  | _ => " "

def mapColumn : Place → Nat
  | .root => 0
  | .item c | .entry c | .side c => c + 2

def seqColumn (isTagged : Bool) : Place → Nat
  | .root => 0
  | .item c => c + 2
  | .entry c => c
  | .side c => if isTagged then c else c + 2

def lead (isTagged : Bool) (column : Nat) : Place → String
  | .root => if isTagged then "\n" else ""
  | .entry _ => "\n" ++ spaces column
  | .item _ | .side _ => if isTagged then "\n" ++ spaces column else " "

end Place

mutual

def value (place : Place) (isTagged : Bool) : Yaml → String
  | .str text => place.gap isTagged ++ string place.margin text
  | .seq (x :: rest) =>
    let column := place.seqColumn isTagged
    place.lead isTagged column ++ "-" ++ value (.item column) false x ++ items column rest
  | .map (e :: rest) =>
    let column := place.mapColumn
    place.lead isTagged column ++ entry column e ++ entries column rest
  | .tagged name v => place.gap isTagged ++ tag name ++ value place true v
  | v => place.gap isTagged ++ (word? v).getD "" ++ "\n"

def items (column : Nat) : List Yaml → String
  | [] => ""
  | x :: rest => spaces column ++ "-" ++ value (.item column) false x ++ items column rest

def entry (column : Nat) : Yaml × Yaml → String
  | (k, v) =>
    match simpleKey? k with
    | some text => text ++ ":" ++ value (.entry column) false v
    | none =>
      "?" ++ value (.side column) false k ++ spaces column ++ ":" ++ value (.side column) false v

def entries (column : Nat) : List (Yaml × Yaml) → String
  | [] => ""
  | e :: rest => spaces column ++ entry column e ++ entries column rest

end

/-- A mapping of one entry with such a key would be taken for a tag. -/
def looksTagged : Yaml → Bool
  | .tagged .. => true
  | .map [_] => true
  | _ => false

mutual

def isWritable (isTagged : Bool) : Yaml → Bool
  | .seq xs => areWritable xs
  | .map [(k, v)] => (isTagged || !looksTagged k) && isWritable false k && isWritable false v
  | .map es => entriesWritable es
  | .tagged _ v => !isTagged && isWritable true v
  | _ => true

def areWritable : List Yaml → Bool
  | [] => true
  | x :: rest => isWritable false x && areWritable rest

def entriesWritable : List (Yaml × Yaml) → Bool
  | [] => true
  | (k, v) :: rest => isWritable false k && isWritable false v && entriesWritable rest

end

end Text

def write? (v : Yaml) : Option String :=
  if Text.isWritable false v then some (Text.value .root false v) else none

end PackSpec.Yaml
