import Stencil.Definition.Attribute
import Stencil.Mutation.Brief
import Stencil.Report

/-! The events that a run records, in the order in which they happen. -/

namespace Stencil

inductive Event where
  | parsedAttribute (a : Attribute)
  | partitioned (required optional : Nat)
  | stubNotEmitted (path : Path)
  | creatingDirectory (path : Path)
  | wroteFile (template : Template) (path : Path) (status : Status)
deriving DecidableEq

namespace Event

inductive Level where
  | debug
  | info
deriving DecidableEq, Repr

def Level.text : Level → String
  | debug => "DEBUG"
  | info => "INFO"

def level : Event → Level
  | wroteFile .. => .info
  | _ => .debug

def message : Event → String
  | parsedAttribute a => "parsed attribute attribute=" ++ a.display
  | partitioned required optional =>
    "partitioned attributes required=" ++ required.repr ++ " optional=" ++ optional.repr
  | stubNotEmitted path => "test stub not emitted path=" ++ path.text
  | creatingDirectory path => "creating directory path=" ++ path.text
  | wroteFile template path status =>
    "wrote file template=" ++ template.name ++ " path=" ++ path.text ++ " status=" ++ status.label

/-- Whether an event is told at a count of `-v`: one tells of files written, two of all. -/
def isLogged (verbose : Nat) (e : Event) : Bool :=
  match e.level with
  | .info => decide (1 ≤ verbose)
  | .debug => decide (2 ≤ verbose)

def line (e : Event) : String :=
  e.level.text ++ " " ++ e.message

end Event

end Stencil
