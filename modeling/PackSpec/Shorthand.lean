import PackSpec.Problem
import PackSpec.Text.Basic

set_option autoImplicit false

namespace PackSpec

structure Shorthand where
  type : List Char
  least : Option (List Char)
  greatest : Option (List Char)
deriving DecidableEq, Repr

namespace Shorthand

def isCapital (c : Char) : Bool := 'A' ≤ c && c ≤ 'Z'

def after? (start cs : List Char) : Option (List Char) :=
  if start.isPrefixOf cs then some (cs.drop start.length) else none

def fraction (cs : List Char) : List Char × List Char :=
  match cs with
  | '.' :: rest =>
    if (rest.takeWhile Text.isDigit).isEmpty then ([], cs)
    else ('.' :: rest.takeWhile Text.isDigit, rest.dropWhile Text.isDigit)
  | _ => ([], cs)

def bound (cs : List Char) : Option (List Char × List Char) :=
  match cs with
  | 'U' :: rest => some (['U'], rest)
  | _ =>
    let (sign, unsigned) := match cs with
      | '-' :: rest => (['-'], rest)
      | _ => ([], cs)
    let whole := unsigned.takeWhile Text.isDigit
    if whole.isEmpty then none
    else
      let (part, rest) := fraction (unsigned.dropWhile Text.isDigit)
      some (sign ++ whole ++ part, rest)

def leastMark : List Char := ['_', 'M', 'I', 'N', '_']
def greatestMark : List Char := ['_', 'M', 'A', 'X', '_']

def marked (mark cs : List Char) : Option (Option (List Char) × List Char) :=
  match after? mark cs with
  | none => some (none, cs)
  | some rest => (bound rest).map fun (b, rest) => (some b, rest)

def read? (text : String) : Option Shorthand :=
  let cs := Text.trim text.toList
  let type := cs.takeWhile isCapital
  if type.isEmpty then none
  else
    match marked leastMark (cs.dropWhile isCapital) with
    | none => none
    | some (least, rest) =>
      match marked greatestMark rest with
      | some (greatest, []) => some ⟨type, least, greatest⟩
      | _ => none

def rejection (text : String) : Problem :=
  .typeCoercion "RRDDatapointSpec" "shorthand" "TYPE, TYPE_MIN_n, TYPE_MAX_n or TYPE_MIN_n_MAX_n"
    ("'" ++ text ++ "'")

def read (text : String) : Except Problem Shorthand :=
  match read? text with
  | some s => .ok s
  | none => .error (rejection text)

def written (s : Shorthand) : List Char :=
  let part (mark : List Char) (b : Option (List Char)) : List Char :=
    match b with
    | some b => mark ++ b
    | none => []
  s.type ++ part leastMark s.least ++ part greatestMark s.greatest

end Shorthand

end PackSpec
