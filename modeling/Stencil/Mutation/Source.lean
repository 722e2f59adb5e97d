import Stencil.Mutation.Brief
import Stencil.Mutation.ValueType
import Stencil.Text.Lines

/-! The source of a mutation, line by line: a struct with a field for every input, a constructor
that takes the required ones, a setter for each optional one, and a body left to be written. -/

namespace Stencil.Mutation

open Text

def ticked (word : String) : String :=
  "\x60" ++ word ++ "\x60"

def summary (kind : String) (inputs : List Attribute) : List String :=
  if inputs.isEmpty then []
  else
    ["///",
     "/// " ++ kind ++ " inputs: " ++
       ", ".intercalate (inputs.map fun a => ticked a.name.plain) ++ "."]

def heading (b : Brief) : List String :=
  ["//! " ++ ticked b.typeName.text ++ " mutation.",
   "",
   "/// Command object for " ++ ticked b.target ++ "."] ++
  summary "Required" b.required ++ summary "Optional" b.optional

def fieldLine (a : Attribute) : String :=
  "pub " ++ a.name.text ++ ": " ++ a.fieldType ++ ","

def field (a : Attribute) : List String :=
  let kind := if a.isOptional then "Optional" else "Required"
  [indent 1 ("/// " ++ kind ++ " " ++ ticked a.name.plain ++ " input (" ++ a.filter.text ++ ")."),
   indent 1 (fieldLine a)]

def declaration (b : Brief) : List String :=
  ["#[derive(Debug)]", "pub struct " ++ b.typeName.text ++ " \x7b"] ++
  b.inputs.flatMap field ++ ["\x7d"]

def parameter (a : Attribute) : String :=
  a.name.text ++ ": " ++ a.valueType

/-- Required inputs are passed on, optional ones begin empty. -/
def constructor (b : Brief) : List String :=
  [indent 1 "/// Build the mutation from its required inputs.",
   indent 1 ("pub fn new(" ++ ", ".intercalate (b.required.map parameter) ++ ") -> Self \x7b"),
   indent 2 "Self \x7b"] ++
  b.required.map (fun a => indent 3 (a.name.text ++ ",")) ++
  b.optional.map (fun a => indent 3 (a.name.text ++ ": None,")) ++
  [indent 2 "\x7d", indent 1 "\x7d"]

def setterName (a : Attribute) : String :=
  "with_" ++ a.name.plain

def setter (a : Attribute) : List String :=
  ["",
   indent 1 ("/// Set the optional " ++ ticked a.name.plain ++ " input."),
   indent 1 ("pub fn " ++ setterName a ++ "(mut self, " ++ parameter a ++ ") -> Self \x7b"),
   indent 2 ("self." ++ a.name.text ++ " = Some(" ++ a.name.text ++ ");"),
   indent 2 "self",
   indent 1 "\x7d"]

def execution (b : Brief) : List String :=
  ["",
   indent 1 "/// Run the mutation.",
   indent 1 "pub fn execute(self) -> Result<(), Box<dyn std::error::Error>> \x7b",
   indent 2 ("todo!(\"implement " ++ b.typeName.text ++ "::execute\")"),
   indent 1 "\x7d"]

def sourceLines (b : Brief) : List String :=
  heading b ++ declaration b ++ ["", "impl " ++ b.typeName.text ++ " \x7b"] ++
  constructor b ++ b.optional.flatMap setter ++ execution b ++ ["\x7d"]

def source (b : Brief) : String :=
  ofLines (sourceLines b)

end Stencil.Mutation
