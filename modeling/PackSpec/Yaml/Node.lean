import PackSpec.Yaml.Token

set_option autoImplicit false

namespace PackSpec.Yaml

structure Props where
  anchor : Option Nat
  tag : Option TagText
deriving DecidableEq, Repr

inductive Node where
  | alias (anchor : Nat)
  | scalar (mark : Mark) (props : Props) (form : Form) (text : String)
  | seq (mark : Mark) (props : Props) (items : List Node)
  | map (mark : Mark) (props : Props) (entries : List (Node × Node))
  | broken (fault : Fault)
deriving Inhabited

namespace Node

/-- Anchors are numbered by how many names had been used when their node began, so a name used twice
may share its number with the next one. -/
structure State where
  tokens : Tokens
  anchors : List (List Char × Nat)
  handles : List (List Char × TagText)

abbrev Read := StateM State

def next : Read (Option Token) := do
  return (← get).tokens.lexemes.head?.map Lexeme.token

def mark : Read Mark := do
  let s ← get
  match s.tokens.lexemes, s.tokens.stop with
  | x :: _, _ => return x.mark
  | [], .ok m => return m
  | [], .error _ => return .start

def skip : Read Unit :=
  modify fun s => { s with tokens := ⟨s.tokens.lexemes.tail, s.tokens.stop⟩ }

def take (t : Token) : Read Bool := do
  if (← next) == some t then
    skip
    return true
  else return false

def isNext (ts : List Token) : Read Bool := do
  return (← next).any ts.contains

def stopped? : Read (Option Fault) := do
  match (← get).tokens with
  | ⟨[], .error f⟩ => return some f
  | _ => return none

def refuseAt (m : Mark) (problem : String) (task : Option Task) : Read Node := do
  let f := (← stopped?).getD ⟨problem, some m, task⟩
  modify fun s => { s with tokens := ⟨[], .error f⟩ }
  return .broken f

def refuse (reading : String) (start : Mark) (problem : String) : Read Node := do
  refuseAt (← mark) problem (some ⟨reading, start⟩)

def number (name : List Char) : Read Nat := do
  let s ← get
  let n := s.anchors.length
  if (s.anchors.lookup name).isSome then
    set { s with
      anchors := s.anchors.map fun (other, m) => if other == name then (name, n) else (other, m) }
  else set { s with anchors := s.anchors ++ [(name, n)] }
  return n

def empty : Read Node := do
  return .scalar (← mark) ⟨none, none⟩ .plain ""

structure WrittenTag where
  handle : List Char
  suffix : TagText
  mark : Mark

def WrittenTag.full? (t : WrittenTag) (handles : List (List Char × TagText)) : Option TagText :=
  if t.handle.isEmpty then some t.suffix else (handles.lookup t.handle).map (· ++ t.suffix)

def takeAnchor : Read (Option (List Char)) := do
  match ← next with
  | some (.anchor name) =>
    skip
    return some name
  | _ => return none

def takeTag : Read (Option WrittenTag) := do
  match ← next with
  | some (.tag handle suffix) =>
    let m ← mark
    skip
    return some ⟨handle, suffix, m⟩
  | _ => return none

def takeProps : Read (Option (List Char) × Option WrittenTag) := do
  match ← takeAnchor with
  | some name => return (some name, ← takeTag)
  | none =>
    match ← takeTag with
    | some tag => return (← takeAnchor, some tag)
    | none => return (none, none)

def props (anchor : Option (List Char)) (tag : Option TagText) : Read Props := do
  return ⟨← anchor.mapM number, tag⟩

def separated (isFirst : Bool) : Read Bool :=
  if isFirst then pure true else take .flowEntry

def readAlias (name : List Char) : Read Node := do
  match (← get).anchors.lookup name with
  | some n =>
    skip
    return .alias n
  | none => refuseAt (← mark) "unknown anchor" none

mutual

def read (inBlock indentless : Bool) : Nat → Read Node
  | 0 => empty
  | fuel + 1 => do
    if let some (.alias name) ← next then readAlias name
    else
      let start ← mark
      let (anchor, written) ← takeProps
      if let some f ← stopped? then return .broken f
      let handles := (← get).handles
      match written, written.bind fun t => t.full? handles with
      | some t, none =>
        refuseAt t.mark "found undefined tag handle" (some ⟨"while parsing a node", start⟩)
      | _, tag => readContent inBlock indentless start anchor tag fuel

def readContent (inBlock indentless : Bool) (start : Mark) (anchor : Option (List Char))
    (tag : Option TagText) : Nat → Read Node
  | 0 => empty
  | fuel + 1 => do
    let here ← mark
    match ← next with
    | some (.scalar form text) =>
      skip
      return .scalar start (← props anchor tag) form text
    | some .flowSequence =>
      skip
      let p ← props anchor tag
      return .seq start p (← flowItems here true fuel)
    | some .flowMapping =>
      skip
      let p ← props anchor tag
      return .map start p (← flowEntries here true fuel)
    | t =>
      if indentless && t == some .blockEntry then
        let p ← props anchor tag
        return .seq start p (← entryItems fuel)
      else if inBlock && t == some .blockSequence then
        skip
        let p ← props anchor tag
        return .seq start p (← blockItems here fuel)
      else if inBlock && t == some .blockMapping then
        skip
        let p ← props anchor tag
        return .map start p (← blockEntries here fuel)
      else if anchor.isSome || tag.isSome then
        return .scalar start (← props anchor tag) .plain ""
      else
        refuse (if inBlock then "while parsing a block node" else "while parsing a flow node")
          start "did not find expected node content"

def readBefore (inBlock indentless : Bool) (ends : List Token) : Nat → Read Node
  | 0 => empty
  | fuel + 1 => do
    if ← isNext ends then empty else read inBlock indentless fuel

def blockItems (start : Mark) : Nat → Read (List Node)
  | 0 => return []
  | fuel + 1 => do
    if ← take .blockEntry then
      let item ← readBefore true false [.blockEntry, .blockEnd] fuel
      return item :: (← blockItems start fuel)
    else if ← take .blockEnd then return []
    else
      return [← refuse "while parsing a block collection" start
        "did not find expected '-' indicator"]

def entryItems : Nat → Read (List Node)
  | 0 => return []
  | fuel + 1 => do
    if ← take .blockEntry then
      let item ← readBefore true false [.blockEntry, .key, .value, .blockEnd] fuel
      return item :: (← entryItems fuel)
    else return []

def blockEntries (start : Mark) : Nat → Read (List (Node × Node))
  | 0 => return []
  | fuel + 1 => do
    if ← take .key then
      let key ← readBefore true true [.key, .value, .blockEnd] fuel
      let value ← if ← take .value then readBefore true true [.key, .value, .blockEnd] fuel
        else empty
      return (key, value) :: (← blockEntries start fuel)
    else if ← take .blockEnd then return []
    else
      let end_ ← refuse "while parsing a block mapping" start "did not find expected key"
      return [(end_, end_)]

def flowItems (start : Mark) (isFirst : Bool) : Nat → Read (List Node)
  | 0 => return []
  | fuel + 1 => do
    if ← take .flowSequenceEnd then return []
    else if ← separated isFirst then
      let here ← mark
      if ← take .key then
        let pair ← flowPair here fuel
        return pair :: (← flowItems start false fuel)
      else if ← take .flowSequenceEnd then return []
      else
        let item ← read false false fuel
        return item :: (← flowItems start false fuel)
    else
      return [← refuse "while parsing a flow sequence" start "did not find expected ',' or ']'"]

/-- A mapping of one entry without brackets. Where the key is empty the token after it is dropped.
-/
def flowPair (start : Mark) : Nat → Read Node
  | 0 => empty
  | fuel + 1 => do
    let ends := [.value, .flowEntry, .flowSequenceEnd]
    let isEmpty ← isNext ends
    let key ← readBefore false false ends fuel
    if isEmpty then skip
    let value ← if ← take .value then readBefore false false [.flowEntry, .flowSequenceEnd] fuel
      else empty
    return .map start ⟨none, none⟩ [(key, value)]

def flowEntries (start : Mark) (isFirst : Bool) : Nat → Read (List (Node × Node))
  | 0 => return []
  | fuel + 1 => do
    if ← take .flowMappingEnd then return []
    else if ← separated isFirst then
      if ← take .key then
        let key ← readBefore false false [.value, .flowEntry, .flowMappingEnd] fuel
        let value ← if ← take .value then
            readBefore false false [.flowEntry, .flowMappingEnd] fuel
          else empty
        return (key, value) :: (← flowEntries start false fuel)
      else if ← take .flowMappingEnd then return []
      else
        let key ← read false false fuel
        return (key, ← empty) :: (← flowEntries start false fuel)
    else
      let end_ ← refuse "while parsing a flow mapping" start "did not find expected ',' or '\x7d'"
      return [(end_, end_)]

end

def isDirective : Token → Bool
  | .version .. | .tagStart .. => true
  | _ => false

def standardHandles : List (List Char × TagText) :=
  [(['!'], tagText ['!']), (['!', '!'], tagText "tag:yaml.org,2002:".toList)]

def handlesOf (hasVersion : Bool) (given : List (List Char × TagText)) :
    List Lexeme → Except Fault (List (List Char × TagText))
  | ⟨.version major minor, m⟩ :: rest =>
    if hasVersion then .error ⟨"found duplicate %YAML directive", some m, none⟩
    else if major != 1 || (minor != 1 && minor != 2) then
      .error ⟨"found incompatible YAML document", some m, none⟩
    else handlesOf true given rest
  | ⟨.tagStart handle start, m⟩ :: rest =>
    if (given.lookup handle).isSome then .error ⟨"found duplicate %TAG directive", some m, none⟩
    else handlesOf hasVersion (given ++ [(handle, start)]) rest
  | _ => .ok (given ++ standardHandles)

def startsContent (t : Option Token) : Bool :=
  t.any fun t => !isDirective t && t != .documentStart && t != .documentEnd

def readRoot (isDirected : Bool) (fuel : Nat) : Read Node := do
  if ← take .documentStart then
    if startsContent (← next) || (← stopped?).isSome then read true false fuel else empty
  else if isDirected then refuseAt (← mark) "did not find expected <document start>" none
  else read true false fuel

def endFault : Tokens → Option Fault
  | ⟨[], .error f⟩ => some f
  | ⟨lexemes, stop⟩ =>
    if stop.toBool && lexemes.all (·.token == .documentEnd) then none
    else
      some ⟨"deserializing from YAML containing more than one document is not supported", none, none⟩

structure Parsed where
  root : Option Node
  fault : Option Fault

def ofTokens (tokens : Tokens) : Parsed :=
  let content := tokens.lexemes.dropWhile fun x => isDirective x.token
  let isDirected := content.length < tokens.lexemes.length
  match tokens, handlesOf false [] tokens.lexemes with
  | ⟨[], .ok _⟩, _ => ⟨none, none⟩
  | _, .error f => ⟨some (.broken f), some f⟩
  | _, .ok handles =>
    let (root, s) := (readRoot isDirected (5 * (content.length + 1))).run
      ⟨⟨content, tokens.stop⟩, [], handles⟩
    ⟨some root, endFault s.tokens⟩

mutual

def anchored : Node → List (Nat × Node)
  | .alias _ | .broken _ => []
  | .scalar m p form text => (p.anchor.map fun n => (n, .scalar m p form text)).toList
  | .seq m p items => (p.anchor.map fun n => (n, .seq m p items)).toList ++ anchoredItems items
  | .map m p entries =>
    (p.anchor.map fun n => (n, .map m p entries)).toList ++ anchoredEntries entries

def anchoredItems : List Node → List (Nat × Node)
  | [] => []
  | x :: rest => anchored x ++ anchoredItems rest

def anchoredEntries : List (Node × Node) → List (Nat × Node)
  | [] => []
  | (k, v) :: rest => anchored k ++ anchored v ++ anchoredEntries rest

end

mutual

def parts : Node → Nat
  | .broken _ => 0
  | .alias _ | .scalar .. => 1
  | .seq _ _ items => 1 + partsOfItems items
  | .map _ _ entries => 1 + partsOfEntries entries

def partsOfItems : List Node → Nat
  | [] => 1
  | .broken _ :: _ => 0
  | x :: rest => parts x + partsOfItems rest

def partsOfEntries : List (Node × Node) → Nat
  | [] => 1
  | (.broken _, _) :: _ => 0
  | (k, v) :: rest => parts k + parts v + partsOfEntries rest

end

end Node

end PackSpec.Yaml
