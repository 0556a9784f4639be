import PackSpec.Document.Decode
import PackSpec.Document.Encode
import PackSpec.Specification
import PackSpec.Yaml.Document

set_option autoImplicit false

namespace PackSpec

namespace Document

def tag : String := "ZenPackSpec"

structure Options where
  keepsDefaults : Bool
  ns : Option String
deriving DecidableEq, Repr

def Options.plain : Options := ⟨false, none⟩

def untaggedError (v : Yaml) : Problem :=
  .structural "a !ZenPackSpec document" v.describe

def inner : Yaml → Yaml
  | .tagged _ v => v
  | v => v

def placeOf (source : String) (f : Yaml.Fault) : Location :=
  match f.position? with
  | some (line, column) => (Location.root source).placed line column
  | none => .root source

def unreadable (source : String) (f : Yaml.Fault) : Diagnostic :=
  ⟨.error, placeOf source f, .malformed f.message⟩

/-- The mapping of a document; another value is reported and then taken for it. -/
def body (source text : String) (s : Diagnostics) : Except Diagnostic Yaml × Diagnostics :=
  match Yaml.read text with
  | .error f => (.error (unreadable source f), s)
  | .ok v =>
    match v with
    | .tagged name inside =>
      if name == tag then (.ok inside, s) else reported v
    | v => reported v
where
  reported (v : Yaml) : Except Diagnostic Yaml × Diagnostics :=
    match s.report (.root source) (untaggedError v) with
    | (s, none) => (.ok (inner v), s)
    | (s, some d) => (.error d, s)

def withName (ns : Option String) (ps : Params) : Params :=
  match ns with
  | some name => if (Params.value ps "name").isNull then Entries.put ps "name" (.str name) else ps
  | none => ps

def compileBody (v : Yaml) (ns : Option String) : Build Specification := do
  let ps ← Decode.params .zenPack v
  Specification.build (withName ns ps)

def compile (source text : String) (s : Diagnostics) (options : Options) :
    Except Diagnostic Specification × Diagnostics :=
  match body source text (s.withIndex (LineIndex.scan text)) with
  | (.error d, s) => (.error d, s)
  | (.ok v, s) =>
    let (result, c) := (compileBody v options.ns).run (.start s source options.keepsDefaults)
    (result, c.diagnostics)

def ofSpecification (s : Specification) : Except Problem Yaml := do
  return .tagged tag (.map (← Encode.params .zenPack none s.params))

def text (s : Specification) : Except Problem String := do
  match Yaml.write? (← ofSpecification s) with
  | some text => return text
  | none =>
    throw (.encode Kind.zenPack.title "document"
      "serializing nested enums in YAML is not supported yet")

end Document

end PackSpec
