import PackSpec.Text.CaseTable

set_option autoImplicit false

namespace PackSpec.Text.Case

def holds (ranges : List (Nat × Nat × Nat)) (c : Char) : Bool :=
  ranges.any fun (first, last, step) =>
    first ≤ c.toNat && c.toNat ≤ last && (c.toNat - first) % step == 0

def isUpper (c : Char) : Bool := holds upperRanges c
def isCased (c : Char) : Bool := holds casedRanges c
def isIgnorable (c : Char) : Bool := holds ignorableRanges c

def convert (sequences : List (Nat × List Nat)) (rows : List (Nat × Nat × Nat × Nat)) (c : Char) :
    List Char :=
  match sequences.lookup c.toNat with
  | some codes => codes.map Char.ofNat
  | none =>
    match rows.find? fun (first, last, step, _) =>
        first ≤ c.toNat && c.toNat ≤ last && (c.toNat - first) % step == 0 with
    | some (first, _, _, target) => [Char.ofNat (target + (c.toNat - first))]
    | none => [c]

def lower (c : Char) : List Char := convert lowerSequences lowerRows c
def upper (c : Char) : List Char := convert upperSequences upperRows c

def nextIsCased (cs : List Char) : Bool :=
  (cs.dropWhile isIgnorable).head?.any isCased

/-- `before` is what precedes, nearest first. -/
def lowerSigma (before after : List Char) : Char :=
  if nextIsCased before && !nextIsCased after then 'ς' else 'σ'

def lowerFrom (before : List Char) : List Char → List Char
  | [] => []
  | c :: rest =>
    (if c = 'Σ' then [lowerSigma before rest] else lower c) ++ lowerFrom (c :: before) rest

def lowerText (cs : List Char) : List Char :=
  lowerFrom [] cs

def lowered (s : String) : String :=
  String.ofList (lowerText s.toList)

end PackSpec.Text.Case
