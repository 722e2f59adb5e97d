import Stencil.Mutation.Source

/-! The stub of a mutation's tests: one for its execution and one for each input, all ignored until
somebody writes them. -/

namespace Stencil.Mutation

open Text

structure TestCase where
  name : String
  task : String
deriving DecidableEq, Repr

def testCases (b : Brief) : List TestCase :=
  let typeName := b.typeName.text
  ⟨"executes", "exercise " ++ typeName ++ "::execute"⟩ ::
  (b.required.map fun a =>
    ⟨"requires_" ++ a.name.plain,
     "check " ++ typeName ++ " rejects a missing " ++ ticked a.name.plain⟩) ++
  b.optional.map fun a =>
    ⟨"accepts_missing_" ++ a.name.plain,
     "check " ++ typeName ++ " runs without " ++ ticked a.name.plain⟩

def TestCase.lines (t : TestCase) : List String :=
  ["#[test]",
   "#[ignore = \"not yet implemented\"]",
   "fn " ++ t.name ++ "() \x7b",
   indent 1 ("todo!(\"" ++ t.task ++ "\")"),
   "\x7d"]

def testStubLines (b : Brief) : List String :=
  ("//! Tests for the " ++ ticked b.typeName.text ++ " mutation.") ::
  (testCases b).flatMap fun t => "" :: t.lines

def testStub (b : Brief) : String :=
  ofLines (testStubLines b)

/-- The texts that are written unless another renderer is chosen. -/
def render : Renderer
  | .mutation, b => source b
  | .spec, b => testStub b

end Stencil.Mutation
