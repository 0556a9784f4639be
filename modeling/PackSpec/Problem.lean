set_option autoImplicit false

namespace PackSpec

inductive Problem where
  | structural (expected found : String)
  | unknownParameter (subject param : String)
  | typeCoercion (subject param expected value : String)
  | orientation (left right : String)
  | ambiguousNotation (text reason : String)
  | construction (subject reason : String)
  | configuration (subject reason : String)
  | encode (subject param reason : String)
  | unresolved (subject name reason : String)
  | malformed (reason : String)
deriving DecidableEq, Repr

namespace Problem

def message : Problem → String
  | .structural expected found => "expected " ++ expected ++ ", but found " ++ found
  | .unknownParameter subject param =>
    "unrecognized parameter '" ++ param ++ "' found while processing " ++ subject
  | .typeCoercion subject param expected value =>
    subject ++ "." ++ param ++ ": cannot use " ++ value ++ " as " ++ expected
  | .orientation left right =>
    "in " ++ left ++ " - " ++ right ++ ", invalid orientation: left and right may be reversed"
  | .ambiguousNotation text reason =>
    "relationship notation '" ++ text ++ "' is not valid: " ++ reason
  | .construction subject reason => "cannot construct " ++ subject ++ ": " ++ reason
  | .configuration subject reason => "invalid parameter table for " ++ subject ++ ": " ++ reason
  | .encode subject param reason =>
    "unable to serialize " ++ subject ++ " object: parameter " ++ param ++ " " ++ reason
  | .unresolved subject name reason => subject ++ " '" ++ name ++ "': " ++ reason
  | .malformed reason => reason

def code : Problem → String
  | .structural .. => "structural"
  | .unknownParameter .. => "unknown-parameter"
  | .typeCoercion .. => "type-coercion"
  | .orientation .. => "orientation"
  | .ambiguousNotation .. => "ambiguous-notation"
  | .construction .. => "construction"
  | .configuration .. => "configuration"
  | .encode .. => "encode"
  | .unresolved .. => "unresolved"
  | .malformed .. => "syntax"

def isRecoverable : Problem → Bool
  | .structural .. | .unknownParameter .. | .typeCoercion .. | .ambiguousNotation ..
  | .unresolved .. => true
  | .orientation .. | .construction .. | .configuration .. | .encode .. | .malformed .. => false

def isOrientation : Problem → Bool
  | .orientation .. => true
  | _ => false

end Problem

end PackSpec
