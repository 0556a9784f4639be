import PackSpec.Decimal.Reading
import PackSpec.Yaml.Cursor

set_option autoImplicit false

namespace PackSpec.Yaml

inductive Form where
  | plain
  | literal
  | other
deriving DecidableEq, Repr

/-- Blanks and line ends between two words. One line end becomes a space, and of several the first
is dropped. -/
structure Gap where
  blanks : List Char
  first : List Char
  more : List Char
  broken : Bool

namespace Gap

def none : Gap := ⟨[], [], [], false⟩
def escaped : Gap := ⟨[], [], [], true⟩

def text (g : Gap) : List Char :=
  if g.broken then
    if g.first == ['\n'] then if g.more.isEmpty then [' '] else g.more
    else g.first ++ g.more
  else g.blanks

def addBreak (g : Gap) (text : List Char) : Gap :=
  if g.broken then { g with more := g.more ++ text } else ⟨[], text, g.more, true⟩

/-- The gap at a cursor. After a line end no tab may stand left of column `indent`. -/
def read (t : Task) (indent : Nat) : Nat → Gap → Cursor → Except Fault (Gap × Cursor)
  | 0, g, c => .ok (g, c)
  | fuel + 1, g, c =>
    match c.next with
    | some x =>
      if isSpace x then
        if g.broken && c.column < indent && x == '\t' then
          c.refuse t "found a tab character that violates indentation"
        else
          read t indent fuel (if g.broken then g else { g with blanks := g.blanks ++ [x] })
            (c.skip 1)
      else if isBreak x then read t indent fuel (g.addBreak c.breakText) c.skipBreak
      else .ok (g, c)
    | .none => .ok (g, c)

end Gap

def isFlowMark (c : Char) : Bool :=
  c == ',' || c == '[' || c == ']' || c == '\x7b' || c == '\x7d'

/-- The length of the plain word at the start of `cs`, and whether a colon that cannot stand there
ends it. -/
def plainLength (inFlow : Bool) : List Char → Nat × Bool
  | [] => (0, false)
  | x :: rest =>
    if isGap x then (0, false)
    else if inFlow && x == ':' && rest.head?.any fun y => isFlowMark y || y == '?' then (0, true)
    else if x == ':' && endsWord rest.head? then (0, false)
    else if inFlow && isFlowMark x then (0, false)
    else
      let (n, isStray) := plainLength inFlow rest
      (n + 1, isStray)

def plainFrom (t : Task) (inFlow : Bool) (indent : Nat) :
    Nat → Gap → Cursor → Except Fault (List Char × Bool × Cursor)
  | 0, g, c => .ok ([], g.broken, c)
  | fuel + 1, g, c => do
    if c.atMarker || c.next == some '#' then .ok ([], g.broken, c)
    else
      let (n, isStray) := plainLength inFlow c.rest
      let word := if n == 0 then [] else g.text ++ c.rest.take n
      let g := if n == 0 then g else .none
      let c := c.skip n
      if isStray then c.refuse t "found unexpected ':'"
      else if !c.next.any isGap then .ok (word, g.broken, c)
      else
        let (g, c) ← g.read t indent (c.rest.length + 1) c
        if !inFlow && c.column < indent then .ok (word, g.broken, c)
        else
          let (more, broken, c) ← plainFrom t inFlow indent fuel g c
          .ok (word ++ more, broken, c)

def plain (inFlow : Bool) (indent : Nat) (c : Cursor) : Except Fault (List Char × Bool × Cursor) :=
  plainFrom ⟨"while scanning a plain scalar", c.mark⟩ inFlow indent (c.rest.length + 1) .none c

def escapeOf : Char → Option Char
  | '0' => some '\x00'
  | 'a' => some '\x07'
  | 'b' => some '\x08'
  | 't' | '\t' => some '\t'
  | 'n' => some '\n'
  | 'v' => some '\x0b'
  | 'f' => some '\x0c'
  | 'r' => some '\r'
  | 'e' => some '\x1b'
  | ' ' => some ' '
  | '\x22' => some '\x22'
  | '/' => some '/'
  | '\\' => some '\\'
  | 'N' => some '\x85'
  | '_' => some '\xa0'
  | 'L' => some '\u2028'
  | 'P' => some '\u2029'
  | _ => none

def escapeWidth : Char → Option Nat
  | 'x' => some 2
  | 'u' => some 4
  | 'U' => some 8
  | _ => none

def charOf (code : Nat) : Option Char :=
  if h : code.isValidChar then some (Char.ofNatAux code h) else none

def escape (t : Task) (c : Cursor) : Except Fault (Char × Nat) :=
  match c.afterNext.bind escapeOf, c.afterNext.bind escapeWidth with
  | some x, _ => .ok (x, 2)
  | none, some w =>
    let code := c.skip 2
    if code.rest.length < w then code.refuse t "did not find expected hexdecimal number"
    else
      match Decimal.natOf 16 (code.rest.take w) with
      | none => code.refuse t "did not find expected hexdecimal number"
      | some n =>
        match charOf n with
        | none => code.refuse t "found invalid Unicode character escape code"
        | some x => .ok (x, w + 2)
  | none, none => c.refuse t "found unknown escape character"

def quotedWord (start : Mark) (double : Bool) :
    Nat → Cursor → Except Fault (List Char × Bool × Cursor)
  | 0, c => .ok ([], false, c)
  | fuel + 1, c =>
    match c.rest with
    | [] => .ok ([], false, c)
    | x :: rest =>
      if isGap x then .ok ([], false, c)
      else if !double && x == '\x27' then
        if rest.head? == some '\x27' then do
          let (word, b, c) ← quotedWord start double fuel (c.skip 2)
          .ok ('\x27' :: word, b, c)
        else .ok ([], false, c)
      else if double && x == '\x22' then .ok ([], false, c)
      else if double && x == '\\' then
        if rest.head?.any isBreak then .ok ([], true, (c.skip 1).skipBreak)
        else do
          let (y, n) ← escape ⟨"while parsing a quoted scalar", start⟩ c
          let (word, b, c) ← quotedWord start double fuel (c.skip n)
          .ok (y :: word, b, c)
      else do
        let (word, b, c) ← quotedWord start double fuel (c.skip 1)
        .ok (x :: word, b, c)

def quotedFrom (start : Mark) (double : Bool) : Nat → Cursor → Except Fault (List Char × Cursor)
  | 0, c => .ok ([], c)
  | fuel + 1, c => do
    let t : Task := ⟨"while scanning a quoted scalar", start⟩
    if c.atMarker then c.refuse t "found unexpected document indicator"
    else if c.rest.isEmpty then c.refuse t "found unexpected end of stream"
    else
      let (word, escaped, c) ← quotedWord start double (c.rest.length + 1) c
      if c.next == some (if double then '\x22' else '\x27') then .ok (word, c.skip 1)
      else
        let gap := if escaped then Gap.escaped else Gap.none
        let (g, c) ← gap.read t 0 (c.rest.length + 1) c
        let (more, c) ← quotedFrom start double fuel c
        .ok (word ++ g.text ++ more, c)

def quoted (double : Bool) (c : Cursor) : Except Fault (List Char × Cursor) :=
  quotedFrom c.mark double (c.rest.length + 1) (c.skip 1)

inductive Chomp where
  | strip
  | clip
  | keep
deriving DecidableEq, Repr

namespace Block

def chompOf : Char → Option Chomp
  | '+' => some .keep
  | '-' => some .strip
  | _ => none

def givenIndent (t : Task) (c : Cursor) : Except Fault (Nat × Cursor) :=
  match c.next with
  | some x =>
    if !x.isDigit then .ok (0, c)
    else if x == '0' then c.refuse t "found an indentation indicator equal to 0"
    else .ok (x.toNat - '0'.toNat, c.skip 1)
  | none => .ok (0, c)

def header (t : Task) (c : Cursor) : Except Fault (Chomp × Nat × Cursor) := do
  match c.next.bind chompOf with
  | some chomp =>
    let (n, c) ← givenIndent t (c.skip 1)
    .ok (chomp, n, c)
  | none =>
    let (n, c) ← givenIndent t c
    if n == 0 then .ok (.clip, 0, c)
    else
      match c.next.bind chompOf with
      | some chomp => .ok (chomp, n, c.skip 1)
      | none => .ok (.clip, n, c)

def margin (t : Task) (indent : Nat) (c : Cursor) : Except Fault Cursor :=
  let spaces := (c.rest.takeWhile (· == ' ')).length
  let c := c.skip (if indent == 0 then spaces else min spaces (indent - c.column))
  if (indent == 0 || c.column < indent) && c.next == some '\t' then
    c.refuse t "found a tab character where an indentation space is expected"
  else .ok c

/-- The blank lines at a cursor, and the widest margin met; an `indent` of 0 is not known yet. -/
def blankLines (t : Task) (indent : Nat) :
    Nat → Nat → Cursor → Except Fault (List Char × Nat × Cursor)
  | 0, widest, c => .ok ([], widest, c)
  | fuel + 1, widest, c => do
    let c ← margin t indent c
    let widest := max widest c.column
    if c.next.any isBreak then
      let (more, widest, rest) ← blankLines t indent fuel widest c.skipBreak
      .ok (c.breakText ++ more, widest, rest)
    else .ok ([], widest, c)

structure Ending where
  last : List Char
  blank : List Char

def joint (folded fromBlank toBlank : Bool) (e : Ending) : List Char :=
  if folded && e.last.head? == some '\n' && !fromBlank && !toBlank then
    if e.blank.isEmpty then [' '] else e.blank
  else e.last ++ e.blank

def textLines (t : Task) (folded : Bool) (indent : Nat) :
    Nat → Bool → Ending → Cursor → Except Fault (List Char × Ending × Cursor)
  | 0, _, e, c => .ok ([], e, c)
  | fuel + 1, fromBlank, e, c => do
    if c.column != indent || c.rest.isEmpty then .ok ([], e, c)
    else
      let toBlank := c.next.any isSpace
      let line := c.rest.takeWhile (!isBreak ·)
      let ended := c.skip line.length
      let (blank, _, rest) ← blankLines t indent (ended.rest.length + 2) 0 ended.skipBreak
      let (more, last, rest) ← textLines t folded indent fuel toBlank ⟨ended.breakText, blank⟩ rest
      .ok (joint folded fromBlank toBlank e ++ line ++ more, last, rest)

def read (folded : Bool) (outer : Int) (c : Cursor) : Except Fault (List Char × Cursor) := do
  let t : Task := ⟨"while scanning a block scalar", c.mark⟩
  let (chomp, given, c) ← header t (c.skip 1)
  let c := (c.skipWhile isSpace).skipComment
  if !endsLine c.next then c.refuse t "did not find expected comment or line break"
  else
    let c := c.skipBreak
    let indent := if given == 0 then 0 else (max outer 0).toNat + given
    let (blank, widest, c) ← blankLines t indent (c.rest.length + 1) 0 c
    let indent := if indent == 0 then max widest (max (outer + 1) 1).toNat else indent
    let (text, e, c) ← textLines t folded indent (c.rest.length + 1) false ⟨[], blank⟩ c
    match chomp with
    | .strip => .ok (text, c)
    | .clip => .ok (text ++ e.last, c)
    | .keep => .ok (text ++ e.last ++ e.blank, c)

end Block

end PackSpec.Yaml
