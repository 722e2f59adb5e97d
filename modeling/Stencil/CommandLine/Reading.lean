import Stencil.CommandLine.Argument

/-! Reading a command line from left to right. The first thing that wants to be shown, or that is
wrong, ends the reading. -/

namespace Stencil

structure Invocation where
  name : String
  attributes : List String
  root : String
  pretend : Bool
  skipSpec : Bool
  verbose : Nat
  quiet : Bool
deriving DecidableEq, Repr

namespace CommandLine

/-- A `--root` that is not yet done with. -/
inductive Pending where
  | nothing
  | awaiting
  | received (value : String)
deriving DecidableEq, Repr

structure Given where
  values : List String := []
  root : Option String := none
  pending : Pending := .nothing
  pretend : Bool := false
  skipSpec : Bool := false
  verbose : Nat := 0
  quiet : Bool := false
deriving DecidableEq, Repr

/-- Counting stops here. -/
def verboseLimit : Nat := 255

namespace Given

/-- Is done with a pending `--root`, which needs a value that is not empty, and only once. -/
def settle (g : Given) : Except Halt Given :=
  match g.pending with
  | .nothing => .ok g
  | .awaiting => .error .invalidValue
  | .received value =>
    if g.root.isSome then .error .conflict
    else if value = "" then .error .invalidValue
    else .ok { g with root := some value, pending := .nothing }

/-- Only `-v` may be repeated in one position. -/
def raise (g : Given) (position : Position) : Flag → Except Halt Given
  | .help => .error (.help position.topic)
  | .version => .error .version
  | .verbose => .ok { g with verbose := min verboseLimit (g.verbose + 1) }
  | .quiet => if g.quiet then .error .conflict else .ok { g with quiet := true }
  | .pretend => if g.pretend then .error .conflict else .ok { g with pretend := true }
  | .skipSpec => if g.skipSpec then .error .conflict else .ok { g with skipSpec := true }

/-- A flag ends a pending `--root` before it does anything itself. -/
def setFlag (g : Given) (position : Position) (flag : Flag) : Except Halt Given :=
  g.settle.bind fun g => g.raise position flag

def setLetters (position : Position) : List Char → Given → Except Halt Given
  | [], g => .ok g
  | c :: rest, g =>
    match Flag.ofLetter? position c with
    | none => .error .unknownArgument
    | some flag => (g.setFlag position flag).bind (setLetters position rest)

def setRoot (g : Given) (value : Option String) : Except Halt Given :=
  g.settle.bind fun g =>
    match value with
    | none => .ok { g with pending := .awaiting }
    | some value => { g with pending := .received value }.settle

def setLong (g : Given) (position : Position) (name : String) (value : Option String) :
    Except Halt Given :=
  if position = .generate ∧ name = "root" then g.setRoot value
  else
    match Flag.ofName? position name, value with
    | none, _ => .error .unknownArgument
    | some _, some _ => .error .tooManyValues
    | some flag, none => g.setFlag position flag

/-- A value goes to a waiting `--root`, or else to the name and the attributes. -/
def takeValue (g : Given) (value : String) : Except Halt Given :=
  match g.pending with
  | .awaiting => .ok { g with pending := .received value }
  | _ => g.settle.map fun g => { g with values := g.values ++ [value] }

def generate (g : Given) : List String → Except Halt Given
  | [] => g.settle
  | word :: rest =>
    match Argument.ofText word with
    | .escape => g.settle.map fun g => { g with values := g.values ++ rest }
    | .value value => (g.takeValue value).bind (generate · rest)
    | .short letters => (g.setLetters .generate letters).bind (generate · rest)
    | .long name value => (g.setLong .generate name value).bind (generate · rest)

/-- The run asked for. What was said after the command counts before what was said ahead of it. -/
def invocation (program g : Given) : Except Halt Invocation :=
  match g.values with
  | [] => .error .missingArgument
  | name :: attributes =>
    .ok
      { name, attributes
        root := g.root.getD "."
        pretend := g.pretend
        skipSpec := g.skipSpec
        verbose := if g.verbose = 0 then program.verbose else g.verbose
        quiet := program.quiet || g.quiet }

def withoutCommand (g : Given) : Halt :=
  if g.verbose = 0 && !g.quiet then .nothingAsked else .missingCommand

end Given

def isCommand (word : String) : Bool :=
  word == "generate" || word == "help"

def helpTopic : List String → Halt
  | [] => .help .program
  | ["generate"] => .help .generate
  | ["help"] => .help .help
  | _ => .unknownCommand

def readFrom (g : Given) : List String → Except Halt Invocation
  | [] => .error g.withoutCommand
  | word :: rest =>
    match Argument.ofText word with
    | .escape =>
      match rest with
      | [] => .error g.withoutCommand
      | next :: _ => .error (if isCommand next then .unknownArgument else .unknownCommand)
    | .value value =>
      if value = "generate" then (Given.generate {} rest).bind (Given.invocation g)
      else if value = "help" then .error (helpTopic rest)
      else .error .unknownCommand
    | .short letters => (g.setLetters .program letters).bind (readFrom · rest)
    | .long name value => (g.setLong .program name value).bind (readFrom · rest)

def read (words : List String) : Except Halt Invocation :=
  readFrom {} words

end CommandLine

end Stencil
