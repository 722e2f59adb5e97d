import Stencil.Text.Fields

/-! The words of a command line, each by its own form, and the flags that they may name. -/

namespace Stencil.CommandLine

inductive Argument where
  /-- `--`, after which every word is a value. -/
  | escape
  /-- `--name`, or `--name=value`. -/
  | long (name : String) (value : Option String)
  /-- Letters after one dash. -/
  | short (letters : List Char)
  | value (text : String)
deriving DecidableEq, Repr

/-- A lone dash is a value. -/
def Argument.ofText (text : String) : Argument :=
  match text.toList with
  | ['-'] => .value text
  | ['-', '-'] => .escape
  | '-' :: '-' :: rest =>
    let (name, attached) := Text.cut '=' rest
    .long (String.ofList name) (attached.map String.ofList)
  | '-' :: letters => .short letters
  | _ => .value text

inductive Topic where
  | program
  | generate
  | help
deriving DecidableEq, Repr

/-- Why a command line asks for no run: it wants something shown, or it is wrong. -/
inductive Halt where
  | help (topic : Topic)
  | version
  | nothingAsked
  | missingCommand
  | unknownCommand
  | unknownArgument
  | missingArgument
  | invalidValue
  | conflict
  | tooManyValues
deriving DecidableEq, Repr

def Halt.exitCode : Halt → Nat
  | help _ | version => 0
  | _ => 2

/-- Flags stand before the command or after it. -/
inductive Position where
  | program
  | generate
deriving DecidableEq, Repr

def Position.topic : Position → Topic
  | program => .program
  | generate => .generate

inductive Flag where
  | help
  | version
  | verbose
  | quiet
  | pretend
  | skipSpec
deriving DecidableEq, Repr

namespace Flag

/-- The help and the two flags about output go anywhere, the others in one place. -/
def allowed : Position → Flag → Bool
  | _, help | _, verbose | _, quiet => true
  | .program, version => true
  | .generate, pretend | .generate, skipSpec => true
  | _, _ => false

def ofLetter? (position : Position) (c : Char) : Option Flag :=
  let flag? :=
    match c with
    | 'h' => some help
    | 'V' => some version
    | 'v' => some verbose
    | 'q' => some quiet
    | _ => none
  flag?.filter (allowed position)

def ofName? (position : Position) (name : String) : Option Flag :=
  let flag? :=
    match name with
    | "help" => some help
    | "version" => some version
    | "verbose" => some verbose
    | "quiet" => some quiet
    | "pretend" => some pretend
    | "skip-spec" => some skipSpec
    | _ => none
  flag?.filter (allowed position)

end Flag

end Stencil.CommandLine
