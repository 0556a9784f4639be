import PackSpec.Naming

set_option autoImplicit false

namespace PackSpec

inductive ClassRef where
  | own (name : String)
  | host (name : String)
deriving DecidableEq, Repr

namespace ClassRef

def ofToken (token : String) : ClassRef :=
  if Naming.isQualified token then .host token else .own token

def token : ClassRef → String
  | .own name | .host name => name

def isOwn : ClassRef → Bool
  | .own _ => true
  | .host _ => false

def qualified (ns : String) : ClassRef → String
  | .own name => Naming.qualify ns name
  | .host name => name

def own? : ClassRef → Option String
  | .own name => some name
  | .host _ => none

theorem token_ofToken (t : String) : (ofToken t).token = t := by
  unfold ofToken
  split <;> rfl

end ClassRef

end PackSpec
