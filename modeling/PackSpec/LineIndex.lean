import PackSpec.Text.Basic

set_option autoImplicit false

namespace PackSpec

structure Position where
  line : Nat
  column : Nat
deriving DecidableEq, Repr, Inhabited

structure Mark where
  path : List String
  position : Position
deriving DecidableEq, Repr

namespace LineIndex

structure Frame where
  indent : Nat
  key : String
  opensBlock : Bool
  childIndent : Option Nat
  items : Nat

structure State where
  frames : List Frame
  blockText : Option Nat

def State.start : State := ⟨[], none⟩

def trail (frames : List Frame) : List String :=
  (frames.map Frame.key).reverse

def width (cs : List Char) : Nat :=
  cs.foldl (fun n c => n + c.utf8Size) 0

def splitAtColon : List Char → Option (List Char × List Char)
  | [] => none
  | ':' :: ' ' :: rest => some ([], rest)
  | c :: rest => (splitAtColon rest).map fun (key, value) => (c :: key, value)

def quotedKey (quote : Char) (cs : List Char) : Option (List Char × List Char) :=
  match cs.dropWhile (· != quote) with
  | [] => none
  | _ :: after =>
    match Text.trimStart after with
    | ':' :: value => some (cs.takeWhile (· != quote), Text.trim value)
    | _ => none

def plainKey (content : List Char) : Option (List Char × List Char) :=
  match splitAtColon content with
  | some (key, value) => some (Text.trimEnd key, Text.trim value)
  | none =>
    if content.getLast? == some ':' then some (Text.trimEnd content.dropLast, []) else none

def keyOf (content : List Char) : Option (List Char × List Char) :=
  match content with
  | '\x7b' :: _ | '[' :: _ => none
  | '\x22' :: rest => quotedKey '\x22' rest
  | '\x27' :: rest => quotedKey '\x27' rest
  | _ => plainKey content

def begins (start content : List Char) : Bool :=
  start.isPrefixOf content

def isPassedOver (content : List Char) : Bool :=
  content.isEmpty || begins ['#'] content || begins ['-', '-', '-'] content ||
    begins ['.', '.', '.'] content || begins ['!'] content

def isItem (content : List Char) : Bool :=
  content == ['-'] || begins ['-', ' '] content

/-- Items may stand at the indentation of the key they belong to. -/
def endsBeforeItem (indent : Nat) (f : Frame) : Bool :=
  indent < f.indent ||
    (f.indent == indent && !(f.opensBlock && f.childIndent.all (· == indent)))

def withChild (indent : Nat) (f : Frame) : Frame :=
  { f with childIndent := some (f.childIndent.getD indent) }

def item (frames : List Frame) (line indent : Nat) : List Frame × Option Mark :=
  match frames.dropWhile (endsBeforeItem indent) with
  | [] => ([], none)
  | top :: outer =>
    let path := trail (top :: outer) ++ [toString top.items]
    ({ withChild indent top with items := top.items + 1 } :: outer,
      some ⟨path, ⟨line, indent + 1⟩⟩)

def enclosing (frames : List Frame) (indent : Nat) : List Frame :=
  match frames.dropWhile fun f => indent ≤ f.indent with
  | [] => []
  | top :: outer => withChild indent top :: outer

def isBlockText : List Char → Bool
  | '|' :: _ | '>' :: _ => true
  | _ => false

def keyed (frames : List Frame) (line indent : Nat) (key : String) (value : List Char) :
    State × Option Mark :=
  let outer := enclosing frames indent
  let frame : Frame := ⟨indent, key, value.isEmpty || begins ['#'] value, none, 0⟩
  (⟨frame :: outer, if isBlockText value then some indent else none⟩,
    some ⟨trail (frame :: outer), ⟨line, indent + 1⟩⟩)

def node (frames : List Frame) (line indent : Nat) (content : List Char) : State × Option Mark :=
  if isPassedOver content then (⟨frames, none⟩, none)
  else if isItem content then
    let (frames, mark) := item frames line indent
    (⟨frames, none⟩, mark)
  else
    match keyOf content with
    | none => (⟨frames, none⟩, none)
    | some (key, value) => keyed frames line indent (String.ofList key) value

def step (s : State) (line : Nat) (raw : List Char) : State × Option Mark :=
  let indent := width (raw.takeWhile Text.isBlank)
  let content := Text.trim raw
  match s.blockText with
  | some owner =>
    if content.isEmpty || owner < indent then (s, none) else node s.frames line indent content
  | none => node s.frames line indent content

def marksFrom (s : State) (line : Nat) : List (List Char) → List Mark
  | [] => []
  | raw :: rest =>
    let (s, mark) := step s line raw
    mark.toList ++ marksFrom s (line + 1) rest

def marks (text : String) : List Mark :=
  marksFrom .start 1 (Text.lines text.toList)

def joined (path : List String) : String :=
  "/".intercalate path

end LineIndex

structure LineIndex where
  entries : List (String × Position)
deriving DecidableEq, Repr

namespace LineIndex

def empty : LineIndex := ⟨[]⟩

/-- A path that is already there keeps its position. -/
def insert (x : LineIndex) (m : Mark) : LineIndex :=
  if x.entries.any fun e => e.1 == joined m.path then x
  else ⟨x.entries ++ [(joined m.path, m.position)]⟩

def scan (text : String) : LineIndex :=
  (marks text).foldl insert empty

def get? (x : LineIndex) (path : List String) : Option Position :=
  x.entries.lookup (joined path)

def starts (path : List String) : List (List String) :=
  (List.range path.length).reverse.map fun n => path.take (n + 1)

/-- The position of the node at a path, or of the nearest node above it that has one. -/
def position (x : LineIndex) (path : List String) : Option Position :=
  (starts path).findSome? x.get?

def size (x : LineIndex) : Nat := x.entries.length
def isEmpty (x : LineIndex) : Bool := x.entries.isEmpty

end LineIndex

end PackSpec
