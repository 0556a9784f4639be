import Mathlib.Data.List.Infix
import PackSpec.LineIndex
import PackSpec.Proofs.Text.Spans

set_option autoImplicit false

namespace PackSpec

namespace LineIndex

abbrev OneLine : Type := { cs : List Char // '\n' ∉ cs }

def lineMarkers : List (List Char) :=
  [['-', ' '], ['#'], ['!'], ['-', '-', '-'], ['.', '.', '.']]

def markers : List (List Char) :=
  lineMarkers ++ [['\x22'], ['\x27'], ['\x7b'], ['[']]

structure Bare (text : List Char) : Prop where
  filled : text ≠ []
  trimmed : Text.trim text = text
  colon : ¬ [':', ' '] <:+: text
  marker : ∀ marker ∈ markers, ¬ marker <+: text

instance (text : List Char) : Decidable (Bare text) :=
  decidable_of_iff (text ≠ [] ∧ Text.trim text = text ∧ ¬ [':', ' '] <:+: text ∧
      ∀ marker ∈ markers, ¬ marker <+: text)
    ⟨fun ⟨filled, trimmed, colon, marker⟩ => ⟨filled, trimmed, colon, marker⟩,
      fun bare => ⟨bare.filled, bare.trimmed, bare.colon, bare.marker⟩⟩

def Spelled (text : List Char) : Option Char → Prop
  | none => Bare text
  | some quote => (quote = '\x22' ∨ quote = '\x27') ∧ quote ∉ text ∧ '\x5c' ∉ text

instance (text : List Char) (quote : Option Char) : Decidable (Spelled text quote) :=
  match quote with
  | none => inferInstanceAs (Decidable (Bare text))
  | some quote =>
    inferInstanceAs (Decidable ((quote = '\x22' ∨ quote = '\x27') ∧ quote ∉ text ∧ '\x5c' ∉ text))

structure Key where
  text : List Char
  quote : Option Char
  spelled : Spelled text quote
  slash : '/' ∉ text
  line : '\n' ∉ text

namespace Key

def name (k : Key) : String := String.ofList k.text

def written (k : Key) : List Char :=
  match k.quote with
  | none => k.text
  | some quote => quote :: (k.text ++ [quote])

end Key

structure Blank where
  text : List Char
  line : '\n' ∉ text
  blank : ∀ c ∈ text, Text.isBlank c = true

inductive Filler
  | blank (cs : Blank)
  | comment (indent : Nat) (text : OneLine)

inductive BlockLine
  | blank (cs : Blank)
  | deeper (more : Nat) (text : OneLine)

structure Header where
  mark : Char
  marked : mark = '|' ∨ mark = '>'
  more : OneLine

structure Head where
  gap : List Filler
  key : Key

structure Item where
  gap : List Filler
  text : OneLine

/-- The entries of a mapping, each with what its key has. Indentations are relative: a mapping inside
is deeper than its key by one and some more, and items may stand below their key. -/
inductive Outline
  | done (gap : List Filler)
  | text (head : Head) (value : OneLine) (rest : Outline)
  | block (head : Head) (header : Header) (lines : List BlockLine) (rest : Outline)
  | items (head : Head) (deeper : Nat) (list : List Item) (rest : Outline)
  | mapping (head : Head) (deeper : Nat) (inner rest : Outline)

namespace Outline

def keys : Outline → List String
  | done _ => []
  | text head _ rest | block head _ _ rest | items head _ _ rest | mapping head _ _ rest =>
    head.key.name :: rest.keys

def Distinct : Outline → Prop
  | done _ => True
  | text head _ rest | block head _ _ rest | items head _ _ rest =>
    head.key.name ∉ rest.keys ∧ rest.Distinct
  | mapping head _ inner rest => head.key.name ∉ rest.keys ∧ inner.Distinct ∧ rest.Distinct

end Outline

structure Row where
  text : List Char
  node : Option (List String × Nat)

def Row.mark? (r : Row) (line : Nat) : Option Mark :=
  r.node.map fun node => ⟨node.1, ⟨line, node.2 + 1⟩⟩

def marksOf (line : Nat) : List Row → List Mark
  | [] => []
  | row :: rows => (row.mark? line).toList ++ marksOf (line + 1) rows

def spaces (n : Nat) : List Char := List.replicate n ' '

def spaced (text : List Char) : List Char :=
  if text = [] then [] else ' ' :: text

def Filler.row : Filler → Row
  | blank cs => ⟨cs.text, none⟩
  | comment indent text => ⟨spaces indent ++ '#' :: text.1, none⟩

def BlockLine.row (indent : Nat) : BlockLine → Row
  | blank cs => ⟨cs.text, none⟩
  | deeper more text => ⟨spaces (indent + 1 + more) ++ text.1, none⟩

def Head.rows (path : List String) (indent : Nat) (head : Head) (value : List Char) : List Row :=
  head.gap.map Filler.row ++
    [⟨spaces indent ++ (head.key.written ++ ':' :: spaced value),
      some (path ++ [head.key.name], indent)⟩]

def itemRows (path : List String) (indent : Nat) (i : Nat) : List Item → List Row
  | [] => []
  | item :: rest =>
    item.gap.map Filler.row ++
      ⟨spaces indent ++ '-' :: spaced item.text.1, some (path ++ [toString i], indent)⟩ ::
        itemRows path indent (i + 1) rest

def Header.text (h : Header) : List Char := h.mark :: h.more.1

def Outline.rows (path : List String) (indent : Nat) : Outline → List Row
  | done gap => gap.map Filler.row
  | text head value rest => head.rows path indent value.1 ++ rest.rows path indent
  | block head header lines rest =>
    head.rows path indent header.text ++ (lines.map (BlockLine.row indent) ++ rest.rows path indent)
  | items head deeper list rest =>
    head.rows path indent [] ++
      (itemRows (path ++ [head.key.name]) (indent + deeper) 0 list ++ rest.rows path indent)
  | mapping head deeper inner rest =>
    head.rows path indent [] ++
      (inner.rows (path ++ [head.key.name]) (indent + deeper + 1) ++ rest.rows path indent)

structure Document where
  tag : Option (List Filler)
  indent : Nat
  root : Outline
  distinct : root.Distinct

namespace Document

def lead (d : Document) : List Row :=
  match d.tag with
  | none => []
  | some gap => gap.map Filler.row ++ [⟨"!ZenPackSpec".toList, none⟩]

def rows (d : Document) : List Row := d.lead ++ d.root.rows [] d.indent

def nodes (d : Document) : List Mark := marksOf 1 d.rows

def below (closed : Bool) : List (List Char) → List Char
  | [] => []
  | [line] => if closed then line ++ ['\n'] else line
  | line :: lines => line ++ '\n' :: below closed lines

def text (d : Document) (closed : Bool) : String :=
  String.ofList (below closed (d.rows.map Row.text))

end Document

end LineIndex

end PackSpec
