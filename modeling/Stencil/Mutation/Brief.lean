import Stencil.Definition.Attribute

/-! What a template is filled with. -/

namespace Stencil

/-- The two files of a mutation: its source and a stub of its tests. -/
inductive Template where
  | mutation
  | spec
deriving DecidableEq, Repr

def Template.name : Template → String
  | mutation => "mutation"
  | spec => "mutation_spec"

structure Brief where
  target : String
  typeName : Identifier
  required : List Attribute
  optional : List Attribute
deriving DecidableEq

def Brief.inputs (b : Brief) : List Attribute :=
  b.required ++ b.optional

abbrev Renderer := Template → Brief → String

end Stencil
