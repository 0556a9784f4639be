import PackSpec.Document
import PackSpec.Text.Basic
import PackSpec.Yaml.Document

set_option autoImplicit false

namespace PackSpec

structure Config where
  mode : Option Mode
  keepsDefaults : Option Bool
  ns : Option String
deriving DecidableEq, Repr

namespace Config

def empty : Config := ⟨none, none, none⟩

structure Scalar where
  tag : Option Yaml.TagText
  form : Yaml.Form
  text : String
deriving DecidableEq, Repr

namespace Scalar

def ofNode? (root : Yaml.Node) : Yaml.Node → Option Scalar
  | .scalar _ p form text => some ⟨p.tag, form, text⟩
  | .alias n =>
    match root.anchored.reverse.lookup n with
    | some (.scalar _ p form text) => some ⟨p.tag, form, text⟩
    | _ => none
  | _ => none

def isPlain (s : Scalar) : Bool := s.form == .plain

def isNull (s : Scalar) : Bool := s.isPlain && (s.text.isEmpty || Yaml.Plain.isNull s.text)

def isGiven? (s : Scalar) : Option Bool :=
  if s.isPlain && s.tag == some (Yaml.Document.standard "null") then
    if Yaml.Plain.isNull s.text then some false else none
  else some (s.tag.isSome || !s.isNull)

def ownTag? (tag : Yaml.TagText) : Option String :=
  match tag with
  | 0x21 :: rest => String.fromUTF8? ⟨rest.toArray⟩
  | _ => none

def mode? (s : Scalar) : Option Mode :=
  match s.tag.bind ownTag? with
  | some name => if s.isNull then Mode.ofName? name else none
  | none => Mode.ofName? s.text

/-- A boolean is plain, or a literal block that is tagged as one. -/
def bool? (s : Scalar) : Option Bool :=
  if s.isPlain || s.form == .literal && s.tag == some (Yaml.Document.standard "bool") then
    Yaml.Plain.bool? s.text
  else none

end Scalar

def optional {α : Type} (read : Scalar → Option α) (s : Scalar) : Option (Option α) :=
  match s.isGiven? with
  | none => none
  | some false => some none
  | some true => (read s).map some

def set (c : Config) (name : String) (s : Scalar) : Option Config :=
  match name with
  | "mode" => (optional Scalar.mode? s).map fun mode => { c with mode }
  | "leave_defaults" => (optional Scalar.bool? s).map fun b => { c with keepsDefaults := b }
  | "namespace" => (optional (fun s => some s.text) s).map fun ns => { c with ns }
  | _ => none

def hasRepeated : List String → Bool
  | [] => false
  | name :: rest => rest.contains name || hasRepeated rest

def ofNode (root : Yaml.Node) : Option Config :=
  match root with
  | .scalar _ _ .plain "" => some empty
  | .map _ _ entries => do
    let settings ← entries.mapM fun (key, value) => do
      return ((← Scalar.ofNode? root key).text, ← Scalar.ofNode? root value)
    if hasRepeated (settings.map Prod.fst) then none
    else settings.foldlM (fun c (name, s) => c.set name s) empty
  | _ => none

def read (text : String) : Option Config :=
  if (Text.trim text.toList).isEmpty then some empty
  else
    match Yaml.parse text with
    | ⟨none, none⟩ => some empty
    | ⟨some root, none⟩ => ofNode root
    | ⟨_, some _⟩ => none

end Config

structure Flags where
  isStrict : Bool
  isLenient : Bool
  ns : Option String
deriving DecidableEq, Repr

namespace Flags

def mode (f : Flags) (c : Config) (fallback : Mode) : Mode :=
  if f.isStrict then .strict
  else if f.isLenient then .lenient
  else c.mode.getD fallback

def options (f : Flags) (c : Config) : Document.Options :=
  ⟨c.keepsDefaults.getD false, f.ns.or c.ns⟩

end Flags

end PackSpec
