import Stencil.CommandLine.Help
import Stencil.CommandLine.Reading
import Stencil.Execution

/-! One run of the program, from its arguments and the store it finds to what it shows and the store
it leaves. -/

namespace Stencil

namespace Invocation

def displayRoot (i : Invocation) : Path :=
  ⟨i.root⟩

def request (i : Invocation) : Request :=
  ⟨i.name, i.attributes⟩

def generator (i : Invocation) : Generator :=
  { layout := Layout.under ⟨i.root⟩, emitSpec := !i.skipSpec }

def touched (i : Invocation) : List Path :=
  let layout := i.generator.layout
  [layout.root.join layout.testRoot, layout.sourcePath i.name, layout.testPath i.name]

/-- Pretending plans and reports, and leaves the store alone. -/
def run (i : Invocation) (s : Store) : Outcome Report :=
  if i.pretend then
    ((i.generator.plan s i.request).inStore s).map fun plan => plan.pretend s
  else i.generator.generate s i.request

end Invocation

structure Finish where
  exitCode : Nat
  output : String
  complaint : String
  log : List Event
  store : Store

namespace Finish

def ofHalt (s : Store) (halt : CommandLine.Halt) : Finish :=
  ⟨halt.exitCode, halt.output, halt.complaint, [], s⟩

/-- The report goes to standard output unless it is to be quiet, a failure to standard error. -/
def ofOutcome (i : Invocation) (o : Outcome Report) : Finish :=
  let log := o.events.filter (·.isLogged i.verbose)
  match o.result with
  | .ok report => ⟨0, if i.quiet then "" else report.print i.displayRoot, "", log, o.store⟩
  | .error failure => ⟨1, "", "error: " ++ failure.message ++ "\n", log, o.store⟩

end Finish

def session (words : List String) (s : Store) : Finish :=
  match CommandLine.read words with
  | .error halt => .ofHalt s halt
  | .ok i => .ofOutcome i (i.run s)

end Stencil
