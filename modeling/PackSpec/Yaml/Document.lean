import PackSpec.Text.Quoted
import PackSpec.Yaml.Node
import PackSpec.Yaml.Plain

set_option autoImplicit false

namespace PackSpec.Yaml

namespace Document

def mostNesting : Nat := 128

structure Source where
  anchored : List (Nat × Node)
  mostFollowed : Nat

abbrev Build := StateT Nat (Except Fault)

abbrev Path := Option String

namespace Path

def text (p : Path) : String := p.getD "."

def item (p : Path) (n : Nat) : Path := some (p.text ++ "[" ++ toString n ++ "]")

def entry (p : Path) (key : Node) : Path :=
  let name := match key with
    | .scalar _ _ _ text => text
    | _ => "?"
  some ((p.map (· ++ ".")).getD "" ++ name)

def fault (p : Path) (m : Mark) (problem : String) : Fault :=
  ⟨if p.text == "." then problem else p.text ++ ": " ++ problem, some m, none⟩

end Path

def unresolved : Fault := ⟨"unresolved alias", none, none⟩

def Source.target (s : Source) (n : Nat) : Build Node := do
  let followed := (← get) + 1
  if s.mostFollowed < followed then throw ⟨"repetition limit exceeded", none, none⟩
  else
    set followed
    match s.anchored.reverse.lookup n with
    | some node => return node
    | none => throw unresolved

def tagName (tag : TagText) : Option String :=
  match String.fromUTF8? ⟨tag.toArray⟩ with
  | none => none
  | some text =>
    match text.toList with
    | ['!'] | ['!', '!'] => some "!"
    | '!' :: '!' :: rest | '!' :: rest => some (String.ofList rest)
    | _ => none

def isLocal (tag : TagText) : Bool := tag.head? == some 0x21

def standard (name : String) : TagText := tagText ("tag:yaml.org,2002:" ++ name).toList

def heldBack (n : Int) : String :=
  "invalid type: integer \x60" ++ toString n ++ "\x60 as " ++ (if n < 0 then "i128" else "u128") ++
    ", expected any YAML value"

def untagged (form : Form) (text : String) : Except String Yaml :=
  if form = .plain then
    match ofPlain text, Plain.int? text with
    | some v, _ => .ok v
    | none, some n => .error (heldBack n)
    | none, none => .ok (.str text)
  else .ok (.str text)

def expected {α : Type} (what text : String) : Option α → Except String α
  | some a => .ok a
  | none => .error ("invalid value: string " ++ Text.Quoted.encode text ++ ", expected " ++ what)

def integer (text : String) : Except String Yaml := do
  let n ← expected "an integer" text (Plain.int? text)
  match Integer.ofInt? n with
  | some i => return .int i
  | none => if Plain.isHeldBack n then throw (heldBack n) else expected "an integer" text none

def standardScalar (tag : TagText) (text : String) : Except String Yaml :=
  if tag == standard "bool" then (expected "a boolean" text (Plain.bool? text)).map .bool
  else if tag == standard "int" then integer text
  else if tag == standard "float" then (expected "a float" text (Plain.float? text)).map .float
  else if tag == standard "null" then
    expected "null" text (if Plain.isNull text then some .null else none)
  else .ok (.str text)

def scalar (tag : Option TagText) (form : Form) (text : String) : Except String Yaml :=
  match tag with
  | none => untagged form text
  | some tag =>
    if isLocal tag then
      match tagName tag with
      | some name => (untagged form text).map (.tagged name)
      | none => untagged form text
    else standardScalar tag text

def collectionTag (tag : Option TagText) : Option String :=
  tag.bind fun tag => if isLocal tag then tagName tag else none

def withTag (tag : Option String) (v : Yaml) : Yaml :=
  match tag with
  | some name => .tagged name v
  | none => v

def hasRepeatedKey : List (Yaml × Yaml) → Bool
  | [] => false
  | (k, _) :: rest => hasKey rest k || hasRepeatedKey rest

def repeated : Yaml → String
  | .null => "duplicate entry with null key"
  | .bool b => "duplicate entry with key \x60" ++ toString b ++ "\x60"
  | .int n => "duplicate entry with key " ++ intText n
  | .float x => "duplicate entry with key " ++ floatText x
  | .str text => "duplicate entry with key " ++ Text.Quoted.encode text
  | .seq _ | .map _ | .tagged .. => "duplicate entry in YAML map"

/-- The node that an alias stands for; its tag is always read. -/
def Source.follow (s : Source) (ignoreTag : Bool) : Node → Build (Bool × Node)
  | .alias n => do return (false, ← s.target n)
  | node => return (ignoreTag, node)

abbrev Builder := Path → Bool → Node → Build Yaml

def deeper (m : Mark) : Option Builder → Build Builder
  | some inside => return inside
  | none => throw ⟨"recursion limit exceeded", some m, none⟩

def buildScalar (path : Path) (m : Mark) (tag : Option TagText) (form : Form) (text : String) :
    Build Yaml :=
  match scalar tag form text with
  | .ok v => return v
  | .error problem => throw (path.fault m problem)

/-- A key is checked before its value is read. -/
def buildEntry (inside : Builder) (path : Path) (m : Mark) (ignoreTag : Bool)
    (before : List (Yaml × Yaml)) (e : Node × Node) : Build (List (Yaml × Yaml)) := do
  let key ← inside path ignoreTag e.1
  if hasKey before key then throw (path.fault m (repeated key))
  else return before ++ [(key, ← inside (path.entry e.1) false e.2)]

/-- The keys of a tagged mapping are read without tags. -/
def buildNode (s : Source) (inside : Option Builder) (path : Path) (ignoreTag : Bool) (node : Node) :
    Build Yaml := do
  match ← s.follow ignoreTag node with
  | (_, .alias _) => throw unresolved
  | (_, .broken f) => throw f
  | (ignoreTag, .scalar m p form text) =>
    buildScalar path m (if ignoreTag then none else p.tag) form text
  | (ignoreTag, .seq m p items) =>
    let tag := if ignoreTag then none else collectionTag p.tag
    let inside ← deeper m inside
    let values ← items.zipIdx.mapM fun (x, i) => inside (path.item i) false x
    return withTag tag (.seq values)
  | (ignoreTag, .map m p entries) =>
    let tag := if ignoreTag then none else collectionTag p.tag
    let inside ← deeper m inside
    let values ← entries.foldlM (buildEntry inside path m (ignoreTag || tag.isSome)) []
    return withTag tag (.map values)

def build (s : Source) : Nat → Builder
  | 0 => buildNode s none
  | nesting + 1 => buildNode s (some (build s nesting))

def ofNode (root : Node) : Except Fault Yaml :=
  let s : Source := ⟨root.anchored, 100 * root.parts⟩
  ((build s mostNesting none false root).run 0).map Prod.fst

end Document

def parse (text : String) : Node.Parsed := Node.ofTokens (.scan text.toList)

def valueOf : Option Node → Except Fault Yaml
  | some root => Document.ofNode root
  | none => .ok .null

def read (text : String) : Except Fault Yaml :=
  match valueOf (parse text).root, (parse text).fault with
  | .error f, _ | .ok _, some f => .error f
  | .ok v, none => .ok v

end PackSpec.Yaml
