import Stencil.Definition.Vocabulary
import Stencil.Store.Walk

/-! Everything that can go wrong in a run, by cause. A failure about a definition names the token
that it was written in. -/

namespace Stencil

/-- What was being done to a path when the store refused. -/
inductive Operation where
  | createDirectory
  | read
  | write
deriving DecidableEq, Repr

def Operation.text : Operation → String
  | createDirectory => "create directory"
  | read => "read"
  | write => "write"

inductive Failure where
  | missingName (token : String)
  | missingFilter (token : String)
  | unknownFilter (token word : String)
  | unknownRequirement (token word : String)
  | invalidName (token name : String)
  | duplicateName (name : String)
  | invalidTarget (name : String)
  | invalidTypeName (target typeName : String)
  | refused (operation : Operation) (path : Path) (fault : Fault)
deriving DecidableEq, Repr

namespace Failure

/-- All but refusals of the store concern what was asked for, not where it goes. -/
def isDefinition : Failure → Bool
  | refused .. => false
  | _ => true

def quoted (text : String) : String :=
  "\x60" ++ text ++ "\x60"

def listed (words : List String) : String :=
  ", ".intercalate words

def message : Failure → String
  | missingName token => "attribute definition " ++ quoted token ++ " is missing a name"
  | missingFilter token => "attribute definition " ++ quoted token ++ " is missing a filter type"
  | unknownFilter token word =>
    "invalid filter type " ++ quoted word ++ " in " ++ quoted token ++ ", must be one of: " ++
      listed Filter.names
  | unknownRequirement token word =>
    "invalid requirement " ++ quoted word ++ " in " ++ quoted token ++ ", must be one of: " ++
      listed Requirement.names
  | invalidName token name =>
    "attribute name " ++ quoted name ++ " in " ++ quoted token ++ " is not a valid identifier"
  | duplicateName name => "attribute " ++ quoted name ++ " is defined more than once"
  | invalidTarget name => "target name " ++ quoted name ++ " must be a snake_case identifier"
  | invalidTypeName target typeName =>
    "type name " ++ quoted typeName ++ " derived from target " ++ quoted target ++
      " is not a valid identifier"
  | refused operation path fault =>
    "failed to " ++ operation.text ++ " " ++ quoted path.text ++ ": " ++ fault.message

end Failure

end Stencil
