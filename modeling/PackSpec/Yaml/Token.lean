import PackSpec.Yaml.Scalar

set_option autoImplicit false

namespace PackSpec.Yaml

/-- Bytes, since an escape in a tag may give any. -/
abbrev TagText := List UInt8

def tagText (cs : List Char) : TagText := (String.ofList cs).toUTF8.data.toList

inductive Token where
  | version (major minor : Nat)
  | tagStart (handle : List Char) (start : TagText)
  | documentStart
  | documentEnd
  | blockSequence
  | blockMapping
  | blockEnd
  | flowSequence
  | flowSequenceEnd
  | flowMapping
  | flowMappingEnd
  | blockEntry
  | flowEntry
  | key
  | value
  | alias (name : List Char)
  | anchor (name : List Char)
  | tag (handle : List Char) (suffix : TagText)
  | scalar (form : Form) (text : String)
deriving DecidableEq, Repr

structure Lexeme where
  token : Token
  mark : Mark
deriving DecidableEq, Repr

structure Tokens where
  lexemes : List Lexeme
  stop : Except Fault Mark

/-- Where a block collection begins is known only from what follows its first key, so its tokens are
put before ones already read. Each flow level has at most one place for that, before `number`. -/
structure PendingKey where
  number : Nat
  required : Bool
  mark : Mark

structure Lexer where
  cursor : Cursor
  flowLevel : Nat
  indent : Int
  outer : List Int
  keyAllowed : Bool
  pending : Option PendingKey
  outerPending : List (Option PendingKey)
  lexemes : List Lexeme
  count : Nat

namespace Lexer

def start (cs : List Char) : Lexer :=
  ⟨.start cs, 0, -1, [], true, none, [], [], 0⟩

def inFlow (l : Lexer) : Bool := l.flowLevel != 0

def add (l : Lexer) (x : Lexeme) : Lexer :=
  { l with lexemes := x :: l.lexemes, count := l.count + 1 }

def insertAt (l : Lexer) (number : Nat) (x : Lexeme) : Lexer :=
  let after := l.count - number
  { l with
    lexemes := l.lexemes.take after ++ x :: l.lexemes.drop after
    count := l.count + 1 }

def skip (l : Lexer) (n : Nat) : Lexer := { l with cursor := l.cursor.skip n }

def take (l : Lexer) (n : Nat) (t : Token) : Lexer := (l.add ⟨t, l.cursor.mark⟩).skip n

def allowKey (l : Lexer) (allowed : Bool) : Lexer := { l with keyAllowed := allowed }

/-- Past blanks, comments and line ends. A line end in block context lets a key follow. A byte order
mark that begins a line is passed too, and takes a column. -/
def skipGap : Nat → Lexer → Lexer
  | 0, l => l
  | fuel + 1, l =>
    let c := if l.cursor.column == 0 && l.cursor.next == some '\ufeff' then l.cursor.skip 1
      else l.cursor
    let tabs := l.inFlow || !l.keyAllowed
    let c := (c.skipWhile fun x => x == ' ' || (tabs && x == '\t')).skipComment
    if c.next.any isBreak then
      skipGap fuel { l with cursor := c.skipBreak, keyAllowed := l.keyAllowed || !l.inFlow }
    else { l with cursor := c }

def isStale (c : Cursor) (k : PendingKey) : Bool :=
  k.mark.line < c.mark.line || k.mark.index + 1024 < c.mark.index

def giveUp (c : Cursor) (k : PendingKey) : Except Fault (Option PendingKey) :=
  if k.required then c.refuse ⟨"while scanning a simple key", k.mark⟩ "could not find expected ':'"
  else .ok none

def freshen (c : Cursor) : Option PendingKey → Except Fault (Option PendingKey)
  | none => .ok none
  | some k => if isStale c k then giveUp c k else .ok (some k)

def dropStale (l : Lexer) : Except Fault Lexer := do
  let pending ← freshen l.cursor l.pending
  let outerPending ← l.outerPending.mapM (freshen l.cursor)
  return { l with pending, outerPending }

def dropPending (l : Lexer) : Except Fault Lexer :=
  match l.pending with
  | none => .ok l
  | some k => (giveUp l.cursor k).map fun pending => { l with pending }

def savePending (l : Lexer) : Except Fault Lexer := do
  if !l.keyAllowed then return l
  else
    let m := l.cursor.mark
    let l ← l.dropPending
    return { l with pending := some ⟨l.count, !l.inFlow && l.indent == m.column, m⟩ }

def unroll (column : Int) : List Int → Lexer → Lexer
  | [], l => l
  | i :: rest, l =>
    if column < l.indent then
      unroll column rest { l.add ⟨.blockEnd, l.cursor.mark⟩ with indent := i, outer := rest }
    else l

def unrollTo (l : Lexer) (column : Int) : Lexer :=
  if l.inFlow then l else unroll column l.outer l

def roll (l : Lexer) (m : Mark) (number : Nat) (t : Token) : Lexer :=
  if l.inFlow || (m.column : Int) ≤ l.indent then l
  else { l with outer := l.indent :: l.outer, indent := m.column }.insertAt number ⟨t, m⟩

def marker (l : Lexer) (t : Token) : Except Fault Lexer := do
  let l ← (l.unrollTo (-1)).dropPending
  return (l.allowKey false).take 3 t

def flowStart (l : Lexer) (t : Token) : Except Fault Lexer := do
  let l ← l.savePending
  let deeper := { l with
    flowLevel := l.flowLevel + 1, outerPending := l.pending :: l.outerPending, pending := none }
  return (deeper.allowKey true).take 1 t

def flowEnd (l : Lexer) (t : Token) : Except Fault Lexer := do
  let l ← l.dropPending
  let shallower := match l.outerPending with
    | [] => l
    | pending :: rest =>
      { l with flowLevel := l.flowLevel - 1, pending, outerPending := rest }
  return (shallower.allowKey false).take 1 t

def flowEntry (l : Lexer) : Except Fault Lexer := do
  let l ← l.dropPending
  return (l.allowKey true).take 1 .flowEntry

def begin (l : Lexer) (t : Token) (named : String) : Except Fault Lexer :=
  if l.inFlow then .ok l
  else if l.keyAllowed then .ok (l.roll l.cursor.mark l.count t)
  else .error ⟨named ++ " are not allowed in this context", some l.cursor.mark, none⟩

def blockEntry (l : Lexer) : Except Fault Lexer := do
  let l ← (← l.begin .blockSequence "block sequence entries").dropPending
  return (l.allowKey true).take 1 .blockEntry

def key (l : Lexer) : Except Fault Lexer := do
  let l ← (← l.begin .blockMapping "mapping keys").dropPending
  return (l.allowKey !l.inFlow).take 1 .key

def value (l : Lexer) : Except Fault Lexer :=
  match l.pending with
  | some k =>
    let l := (l.insertAt k.number ⟨.key, k.mark⟩).roll k.mark k.number .blockMapping
    .ok (({ l with pending := none }.allowKey false).take 1 .value)
  | none => do
    let l ← l.begin .blockMapping "mapping values"
    return (l.allowKey !l.inFlow).take 1 .value

def mayEndName (next : Option Char) : Bool :=
  endsWord next || next.any fun x => "?:,]\x7d%@\x60".toList.contains x

def name (l : Lexer) (reading : String) (t : List Char → Token) : Except Fault Lexer := do
  let l := (← l.savePending).allowKey false
  let start := l.cursor.mark
  let text := l.cursor.rest.tail.takeWhile isNameChar
  let after := l.cursor.skip (text.length + 1)
  if text.isEmpty || !mayEndName after.next then
    after.refuse ⟨reading, start⟩ "did not find expected alphabetic or numeric character"
  else return { l with cursor := after }.add ⟨t text, start⟩

def octet (t : Task) (c : Cursor) : Except Fault UInt8 :=
  match c.rest with
  | '%' :: a :: b :: _ =>
    match Decimal.natOf 16 [a, b] with
    | some n => .ok (.ofNat n)
    | none => c.refuse t "did not find URI escaped octet"
  | _ => c.refuse t "did not find URI escaped octet"

def trailing (b : UInt8) : Option Nat :=
  if b < 0x80 then some 0
  else if b &&& 0xE0 == 0xC0 then some 1
  else if b &&& 0xF0 == 0xE0 then some 2
  else if b &&& 0xF8 == 0xF0 then some 3
  else none

def octets (t : Task) : Nat → Cursor → Except Fault (TagText × Cursor)
  | 0, c => .ok ([], c)
  | n + 1, c => do
    let b ← octet t c
    if b &&& 0xC0 != 0x80 then c.refuse t "found an incorrect trailing UTF-8 octet"
    else
      let (more, c) ← octets t n (c.skip 3)
      return (b :: more, c)

def escaped (t : Task) (c : Cursor) : Except Fault (TagText × Cursor) := do
  let b ← octet t c
  match trailing b with
  | none => c.refuse t "found an incorrect leading UTF-8 octet"
  | some n =>
    let (more, c) ← octets t n (c.skip 3)
    return (b :: more, c)

def isUriChar (verbatim : Bool) (x : Char) : Bool :=
  isNameChar x || ";/?:@&=+$.%!~*\x27()".toList.contains x || (verbatim && ",[]".toList.contains x)

def uri (t : Task) (verbatim : Bool) : Nat → Cursor → Except Fault (TagText × Cursor)
  | 0, c => .ok ([], c)
  | fuel + 1, c => do
    match c.next with
    | none => return ([], c)
    | some x =>
      if !isUriChar verbatim x then return ([], c)
      else
        let (bytes, c) ← if x == '%' then escaped t c else .ok (tagText [x], c.skip 1)
        let (more, c) ← uri t verbatim fuel c
        return (bytes ++ more, c)

def uriAt (t : Task) (verbatim : Bool) (c : Cursor) : Except Fault (TagText × Cursor) :=
  uri t verbatim c.rest.length c

def someUriAt (t : Task) (verbatim : Bool) (c : Cursor) : Except Fault (TagText × Cursor) := do
  let (text, c) ← uriAt t verbatim c
  if text.isEmpty then c.refuse t "did not find expected tag URI" else return (text, c)

def handle (t : Task) (c : Cursor) : Except Fault (List Char × Cursor) :=
  if c.next != some '!' then c.refuse t "did not find expected '!'"
  else
    let name := c.rest.tail.takeWhile isNameChar
    let after := c.skip (name.length + 1)
    if after.next == some '!' then .ok ('!' :: name ++ ['!'], after.skip 1)
    else .ok ('!' :: name, after)

def isNamed (handle : List Char) : Bool := handle.length ≥ 2 && handle.getLast? == some '!'

/-- A tag as handle and suffix. A verbatim tag has no handle; nor has a lone mark, its own suffix.
-/
def tagAt (c : Cursor) : Except Fault (List Char × TagText × Cursor) := do
  let scanning : Task := ⟨"while scanning a tag", c.mark⟩
  let parsing : Task := ⟨"while parsing a tag", c.mark⟩
  if c.afterNext == some '<' then
    let (suffix, c) ← someUriAt parsing true (c.skip 2)
    if c.next == some '>' then return ([], suffix, c.skip 1)
    else c.refuse scanning "did not find the expected '>'"
  else
    let (handle, c) ← handle scanning c
    if isNamed handle then
      let (suffix, c) ← someUriAt parsing false c
      return (handle, suffix, c)
    else
      let (suffix, c) ← uriAt parsing false c
      let suffix := tagText handle.tail ++ suffix
      if suffix.isEmpty then return ([], tagText ['!'], c) else return (['!'], suffix, c)

def tag (l : Lexer) : Except Fault Lexer := do
  let l := (← l.savePending).allowKey false
  let start := l.cursor.mark
  let (handle, suffix, after) ← tagAt l.cursor
  if endsWord after.next || (l.inFlow && after.next == some ',') then
    return { l with cursor := after }.add ⟨.tag handle suffix, start⟩
  else
    after.refuse ⟨"while scanning a tag", start⟩ "did not find expected whitespace or line break"

def versionNumber (t : Task) (c : Cursor) : Except Fault (Nat × Cursor) :=
  let text := c.rest.takeWhile Char.isDigit
  if 9 < text.length then (c.skip 9).refuse t "found extremely long version number"
  else
    match Decimal.natOf 10 text with
    | some n => .ok (n, c.skip text.length)
    | none => c.refuse t "did not find expected version number"

def version (t : Task) (c : Cursor) : Except Fault (Token × Cursor) := do
  let (major, c) ← versionNumber t c
  if c.next != some '.' then c.refuse t "did not find expected digit or '.' character"
  else
    let (minor, c) ← versionNumber t (c.skip 1)
    return (.version major minor, c)

def tagStart (start : Mark) (c : Cursor) : Except Fault (Token × Cursor) := do
  let t : Task := ⟨"while scanning a %TAG directive", start⟩
  let (handle, c) ← handle ⟨"while scanning a tag directive", start⟩ c
  if handle.length ≥ 2 && !isNamed handle then
    c.refuse ⟨"while parsing a tag directive", start⟩ "did not find expected '!'"
  else if !c.next.any isSpace then c.refuse t "did not find expected whitespace"
  else
    let (text, c) ← someUriAt ⟨"while parsing a %TAG directive", start⟩ true (c.skipWhile isSpace)
    if endsWord c.next then return (.tagStart handle text, c)
    else c.refuse t "did not find expected whitespace or line break"

def directiveToken (start : Mark) (name : List Char) (c : Cursor) :
    Except Fault (Token × Cursor) :=
  let content := c.skipWhile isSpace
  if name == ['Y', 'A', 'M', 'L'] then version ⟨"while scanning a %YAML directive", start⟩ content
  else if name == ['T', 'A', 'G'] then tagStart start content
  else c.refuse ⟨"while scanning a directive", start⟩ "found unknown directive name"

def directive (l : Lexer) : Except Fault Lexer := do
  let l := (← (l.unrollTo (-1)).dropPending).allowKey false
  let start := l.cursor.mark
  let t : Task := ⟨"while scanning a directive", start⟩
  let name := l.cursor.rest.tail.takeWhile isNameChar
  let c := l.cursor.skip (name.length + 1)
  if name.isEmpty then c.refuse t "could not find expected directive name"
  else if !endsWord c.next then c.refuse t "found unexpected non-alphabetical character"
  else
    let (token, c) ← directiveToken start name c
    let c := (c.skipWhile isSpace).skipComment
    if endsLine c.next then return { l with cursor := c.skipBreak }.add ⟨token, start⟩
    else c.refuse t "did not find expected comment or line break"

def scalar (l : Lexer) (form : Form) (text : List Char) (after : Cursor) : Lexer :=
  { l with cursor := after }.add ⟨.scalar form (String.ofList text), l.cursor.mark⟩

def blockScalar (l : Lexer) (folded : Bool) : Except Fault Lexer := do
  let l := (← l.dropPending).allowKey true
  let (text, after) ← Block.read folded l.indent l.cursor
  return l.scalar (if folded then .other else .literal) text after

def quotedScalar (l : Lexer) (double : Bool) : Except Fault Lexer := do
  let l := (← l.savePending).allowKey false
  let (text, after) ← quoted double l.cursor
  return l.scalar .other text after

def plainScalar (l : Lexer) : Except Fault Lexer := do
  let l ← l.savePending
  let (text, broken, after) ← plain l.inFlow (l.indent + 1).toNat l.cursor
  return (l.scalar .plain text after).allowKey broken

def isIndicator (x : Char) : Bool :=
  "-?:,[]\x7b\x7d#&*!|>\x27\x22%@\x60".toList.contains x

def token (l : Lexer) (x : Char) : Except Fault Lexer :=
  let after := l.cursor.afterNext
  if l.cursor.column == 0 && x == '%' then l.directive
  else if l.cursor.atMarker then l.marker (if x == '-' then .documentStart else .documentEnd)
  else if x == '[' then l.flowStart .flowSequence
  else if x == '\x7b' then l.flowStart .flowMapping
  else if x == ']' then l.flowEnd .flowSequenceEnd
  else if x == '\x7d' then l.flowEnd .flowMappingEnd
  else if x == ',' then l.flowEntry
  else if x == '-' && endsWord after then l.blockEntry
  else if x == '?' && (l.inFlow || endsWord after) then l.key
  else if x == ':' && (l.inFlow || endsWord after) then l.value
  else if x == '*' then l.name "while scanning an alias" .alias
  else if x == '&' then l.name "while scanning an anchor" .anchor
  else if x == '!' then l.tag
  else if x == '|' && !l.inFlow then l.blockScalar false
  else if x == '>' && !l.inFlow then l.blockScalar true
  else if x == '\x27' then l.quotedScalar false
  else if x == '\x22' then l.quotedScalar true
  else if x == '-' || (!l.inFlow && (x == '?' || x == ':')) then l.plainScalar
  else if !isIndicator x && !isGap x then l.plainScalar
  else
    l.cursor.refuse ⟨"while scanning for the next token", l.cursor.mark⟩
      "found character that cannot start any token"

def endLine (c : Cursor) : Cursor :=
  if c.column == 0 then c else ⟨c.rest, c.mark.index, c.mark.line + 1, 0⟩

def finish (l : Lexer) : Except Fault Lexer :=
  ({ l with cursor := endLine l.cursor }.unrollTo (-1)).dropPending

def step (l : Lexer) : Except Fault (Lexer × Bool) := do
  let l ← (l.skipGap (l.cursor.rest.length + 1)).dropStale
  let l := l.unrollTo l.cursor.column
  match l.cursor.next with
  | none => return (← l.finish, false)
  | some x => return (← (← l.token x).dropStale, true)

/-- A token that a pending key would be put before cannot be used yet. -/
def stopped (l : Lexer) (f : Fault) : Tokens :=
  let pending := (l.pending :: l.outerPending).reduceOption.map PendingKey.number
  ⟨l.lexemes.reverse.take (pending.foldl min l.count), .error f⟩

def run : Nat → Lexer → Tokens
  | 0, l => ⟨l.lexemes.reverse, .ok l.cursor.mark⟩
  | fuel + 1, l =>
    match l.step with
    | .error f => l.stopped f
    | .ok (l, true) => run fuel l
    | .ok (l, false) => ⟨l.lexemes.reverse, .ok l.cursor.mark⟩

end Lexer

def isAllowed (c : Char) : Bool :=
  let n := c.toNat
  n == 0x09 || n == 0x0A || n == 0x0D || (0x20 ≤ n && n ≤ 0x7E) || n == 0x85 ||
    (0xA0 ≤ n && n ≤ 0xD7FF) || (0xE000 ≤ n && n ≤ 0xFFFD) || 0x10000 ≤ n

/-- A character that no document may hold is found before any token is read. -/
def controlFault (cs : List Char) : Fault :=
  let offset := (String.ofList (cs.takeWhile isAllowed)).utf8ByteSize
  let place := if offset == 0 then "" else " at position " ++ toString offset
  ⟨"control characters are not allowed" ++ place, some .start, none⟩

def Tokens.scan (cs : List Char) : Tokens :=
  if cs.all isAllowed then Lexer.run (cs.length + 1) (.start cs)
  else ⟨[], .error (controlFault cs)⟩

end PackSpec.Yaml
