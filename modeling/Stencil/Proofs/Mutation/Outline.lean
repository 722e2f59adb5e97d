import Stencil.Mutation.Source
import Stencil.Proofs.Text.Lines

/-! What the source of a mutation says, read off its lines with no regard to what it was made from:
the fields that its struct declares with the notes on them, and its methods with their parameters
and their bodies. -/

namespace Stencil.Mutation

open Text

/-- A name that is given a type. -/
structure Typed where
  name : String
  type : String
deriving DecidableEq, Repr

/-- A name that is given a value. -/
structure Valued where
  name : String
  value : String
deriving DecidableEq, Repr

/-- What is noted of a field. -/
structure Note where
  kind : String
  filter : String
deriving DecidableEq, Repr

structure Method where
  name : String
  parameters : List Typed
  body : List String
deriving DecidableEq, Repr

structure Outline where
  target : Option String
  typeName : Option String
  notes : List Note
  fields : List Typed
  methods : List Method
deriving DecidableEq, Repr

/-- A name without the raw mark. -/
def unraw (name : String) : String :=
  match name.toList with
  | 'r' :: '#' :: rest => String.ofList rest
  | _ => name

/-! ### Pieces of a line -/

def dropBlank : List Char → List Char
  | ' ' :: cs => cs
  | cs => cs

/-- A word before a colon, and what comes after the colon if there is one. -/
def colon (text : List Char) : String × Option String :=
  let (name, rest) := cut ':' (dropBlank text)
  (String.ofList name, rest.map fun cs => String.ofList (dropBlank cs))

def depthAfter (depth : Nat) (c : Char) : Nat :=
  if c = '<' then depth + 1 else if c = '>' then depth - 1 else depth

/-- The pieces between commas that stand in no angle brackets. -/
def pieces (depth : Nat) : List Char → List (List Char)
  | [] => [[]]
  | c :: cs =>
    if c = ',' ∧ depth = 0 then [] :: pieces 0 cs
    else
      match pieces (depthAfter depth c) cs with
      | [] => [[c]]
      | w :: ws => (c :: w) :: ws

/-- A name that is given no type is the receiver. -/
def typed? (text : List Char) : Option Typed :=
  match colon text with
  | (_, none) => none
  | (name, some type) => some ⟨name, type⟩

def parametersOf (text : List Char) : List Typed :=
  (pieces 0 text).filterMap typed?

/-! ### Lines -/

def note? (line : String) : Option Note :=
  (between? (indent 1 "/// ") ")." line).map fun text =>
    ⟨String.ofList (cut ' ' text.toList).1, String.ofList ((cut '(' text.toList).2.getD [])⟩

def field? (line : String) : Option Typed :=
  (between? (indent 1 "pub ") "," line).bind fun text => typed? text.toList

/-- The name of a method, and its parameters. -/
def header? (line : String) : Option (String × List Typed) :=
  (between? (indent 1 "pub fn ") " \x7b" line).map fun text =>
    let (name, rest) := cut '(' text.toList
    (String.ofList name, parametersOf (cut ')' (rest.getD [])).1)

/-- A name that is given no value stands for its own. -/
def initialiser? (line : String) : Option Valued :=
  (between? (indent 3 "") "," line).map fun text =>
    let (name, value) := colon text.toList
    ⟨name, value.getD name⟩

def assignment? (line : String) : Option Valued :=
  (between? (indent 2 "self.") ";" line).bind fun text =>
    match cut ' ' text.toList with
    | (name, some ('=' :: ' ' :: value)) => some ⟨String.ofList name, String.ofList value⟩
    | _ => none

/-! ### Blocks of lines -/

def opensStruct (line : String) : Bool :=
  (between? "pub struct " " \x7b" line).isSome

def opensImpl (line : String) : Bool :=
  (between? "impl " " \x7b" line).isSome

/-- The methods, each with the lines up to the brace that closes it. -/
def methodsOf : List String → List Method
  | [] => []
  | line :: rest =>
    match header? line with
    | none => methodsOf rest
    | some (name, parameters) =>
      ⟨name, parameters, rest.takeWhile (· != indent 1 "\x7d")⟩ :: methodsOf rest

namespace Method

/-- What the fields of a new value are set to. -/
def initialisers (m : Method) : List Valued :=
  (block (· == indent 2 "Self \x7b") (indent 2 "\x7d") m.body).filterMap initialiser?

/-- What fields are set to in a value that is there. -/
def assignments (m : Method) : List Valued :=
  m.body.filterMap assignment?

def assigns (m : Method) (name : String) : Bool :=
  m.assignments.any (·.name == name)

end Method

def outline (text : String) : Outline :=
  let all := lines text
  let declared := block opensStruct "\x7d" all
  { target := all.findSome? (between? "/// Command object for \x60" "\x60.")
    typeName := all.findSome? (between? "pub struct " " \x7b")
    notes := declared.filterMap note?
    fields := declared.filterMap field?
    methods := methodsOf (block opensImpl "\x7d" all) }

end Stencil.Mutation
