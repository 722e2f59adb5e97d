import Stencil.Layout
import Stencil.Mutation.TestStub
import Stencil.Outcome

/-! Planning: a request is checked in full and its files are rendered before anything is written. -/

namespace Stencil

structure Request where
  target : String
  definitions : List String
deriving DecidableEq, Repr

structure PlannedFile where
  template : Template
  path : Path
  contents : String
deriving DecidableEq, Repr

structure Plan where
  typeName : String
  required : List Attribute
  optional : List Attribute
  files : List PlannedFile
  /-- Where the test stub would have gone that is not to be written. -/
  skipped : Option Path
deriving DecidableEq

/-- How requests are planned: where files go, what they say, how types are named, and whether a test
stub is written at all. -/
structure Generator where
  layout : Layout := {}
  renderer : Renderer := Mutation.render
  typeCase : String → String := pascalCase
  emitSpec : Bool := true

def isSnakeChar (c : Char) : Bool :=
  c.isLower || c.isDigit || c == '_'

/-- Targets become parts of file names as well as of type names. -/
def isTarget (name : String) : Bool :=
  name.toList.all isSnakeChar && (Identifier.ofText? name).isSome

namespace Request

def targetCheck (r : Request) : Except Failure Unit :=
  if isTarget r.target then .ok () else .error (.invalidTarget r.target)

/-- The inputs, once the target is known to be good. Each is recorded after all have been read. -/
def attributes (r : Request) : Traced (List Attribute) :=
  match r.targetCheck with
  | .error f => .fail f
  | .ok () =>
    match Attribute.parseAll r.definitions with
    | .error f => .fail f
    | .ok as => ⟨as.map .parsedAttribute, .ok as⟩

/-- The request in checked form. It does not depend on any store or layout. -/
def brief (r : Request) (typeCase : String → String) : Traced Brief :=
  r.attributes.andThen fun as =>
    match Attribute.repeatedName? [] as with
    | some name => .fail (.duplicateName name)
    | none =>
      let (required, optional) := Attribute.partition as
      let typeName := typeCase r.target
      ⟨[.partitioned required.length optional.length],
        match Identifier.ofText? typeName with
        | none => .error (.invalidTypeName r.target typeName)
        | some typeName => .ok ⟨r.target, typeName, required, optional⟩⟩

end Request

namespace Generator

def planned (g : Generator) (b : Brief) (template : Template) (path : Path) : PlannedFile :=
  ⟨template, path, g.renderer template b⟩

def wantsStub (g : Generator) (s : Store) : Bool :=
  g.emitSpec && g.layout.hasTestRoot s

/-- The plan for a checked request: the source, and the test stub if it is wanted. -/
def planFor (g : Generator) (stub : Bool) (b : Brief) : Plan :=
  let source := g.planned b .mutation (g.layout.sourcePath b.target)
  let testPath := g.layout.testPath b.target
  { typeName := b.typeName.text
    required := b.required
    optional := b.optional
    files := if stub then [source, g.planned b .spec testPath] else [source]
    skipped := if stub then none else some testPath }

/-- Plans a request. The store is asked only whether there is a test root. -/
def plan (g : Generator) (s : Store) (r : Request) : Traced Plan :=
  (r.brief g.typeCase).andThen fun b =>
    let plan := g.planFor (g.wantsStub s) b
    ⟨plan.skipped.toList.map .stubNotEmitted, .ok plan⟩

end Generator

end Stencil
