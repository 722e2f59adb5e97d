import Stencil.Failure
import Stencil.Identifier

/-! Attributes and the tokens that define them. A token is `name:filter` or
`name:filter:requirement`; what follows the second colon is the requirement, further colons
included. -/

namespace Stencil

def isAscii (text : String) : Bool :=
  text.toList.all fun c => decide (c.toNat < 128)

/-- An input of a mutation. Its name is ASCII. -/
structure Attribute where
  name : Identifier
  filter : Filter
  requirement : Requirement
  ascii : isAscii name.plain = true
deriving DecidableEq

structure Segments where
  name : String
  filter : Option String
  requirement : Option String
deriving DecidableEq, Repr

def Segments.ofToken (token : String) : Segments :=
  let (name, rest) := Text.cut ':' token.toList
  let (filter, requirement) :=
    match rest with
    | none => (none, none)
    | some rest =>
      let (filter, requirement) := Text.cut ':' rest
      (some filter, requirement)
  ⟨String.ofList name, filter.map String.ofList, requirement.map String.ofList⟩

namespace Attribute

def isOptional (a : Attribute) : Bool :=
  a.requirement.isOptional

/-- The token that says the same without words that are implied. -/
def display (a : Attribute) : String :=
  let optional := if a.isOptional then ":" ++ a.requirement.text else ""
  a.name.text ++ ":" ++ a.filter.text ++ optional

/-- An identifier as it is written, or else a reserved word in raw spelling. -/
def nameOf? (word : String) : Option { i : Identifier // isAscii i.plain = true } :=
  match (Identifier.ofText? word).or (Identifier.make? true word) with
  | none => none
  | some i => if h : isAscii i.plain = true then some ⟨i, h⟩ else none

/-- An absent or empty segment implies the usual requirement. -/
def requirementOf (token : String) : Option String → Except Failure Requirement
  | none => .ok .implied
  | some word =>
    if word = "" then .ok .implied
    else
      match Requirement.ofText? word with
      | some r => .ok r
      | none => .error (.unknownRequirement token word)

def filterOf (token : String) : Option String → Except Failure Filter
  | none => .error (.missingFilter token)
  | some word =>
    if word = "" then .error (.missingFilter token)
    else
      match Filter.ofText? word with
      | some f => .ok f
      | none => .error (.unknownFilter token word)

/-- Reads a token. The name must be there before anything else is looked at, and whether it is a
name is looked at last. -/
def parse (token : String) : Except Failure Attribute :=
  let segments := Segments.ofToken token
  if segments.name = "" then .error (.missingName token)
  else
    match filterOf token segments.filter with
    | .error failure => .error failure
    | .ok filter =>
      match requirementOf token segments.requirement with
      | .error failure => .error failure
      | .ok requirement =>
        match nameOf? segments.name with
        | none => .error (.invalidName token segments.name)
        | some ⟨name, ascii⟩ => .ok ⟨name, filter, requirement, ascii⟩

/-- Reads tokens in order; the first that cannot be read decides. -/
def parseAll : List String → Except Failure (List Attribute)
  | [] => .ok []
  | token :: rest =>
    match parse token with
    | .error failure => .error failure
    | .ok a =>
      match parseAll rest with
      | .error failure => .error failure
      | .ok as => .ok (a :: as)

def partition (as : List Attribute) : List Attribute × List Attribute :=
  (as.filter (!·.isOptional), as.filter (·.isOptional))

def repeatedName? (seen : List String) : List Attribute → Option String
  | [] => none
  | a :: as =>
    if seen.contains a.name.plain then some a.name.plain
    else repeatedName? (a.name.plain :: seen) as

end Attribute

end Stencil
