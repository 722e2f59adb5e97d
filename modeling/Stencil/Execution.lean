import Stencil.Plan
import Stencil.Store.Change

/-! Carrying out a plan, or telling what carrying it out would do. Files are written one after the
other, and the first refusal ends the run; what was written before it stays. -/

namespace Stencil

/-- What writing the contents would do to the file at a path. -/
def Store.statusOf (s : Store) (p : Path) (contents : String) : Except Fault Status :=
  match s.read p with
  | .ok existing => .ok (if existing = contents then .identical else .overwritten)
  | .error .notFound => .ok .created
  | .error fault => .error fault

def Store.ensureDirectory (s : Store) (p : Path) : Outcome Unit :=
  if p.text = "" || s.isDirectory p then .ok s ()
  else
    let (t, result) := s.makeDirectories p
    ⟨[.creatingDirectory p], t, result.mapError (.refused .createDirectory p)⟩

namespace PlannedFile

/-- Sees to it that the file has a directory to lie in. -/
def ensureParent (f : PlannedFile) (s : Store) : Outcome Unit :=
  match f.path.parent? with
  | none => .ok s ()
  | some parent => s.ensureDirectory parent

/-- The file is written whatever was there; its status says what was. -/
def write (f : PlannedFile) (s : Store) : Outcome (Path × Status) :=
  match s.statusOf f.path f.contents with
  | .error fault => .fail s (.refused .read f.path fault)
  | .ok status =>
    match s.write f.path f.contents with
    | .error fault => .fail s (.refused .write f.path fault)
    | .ok t => ⟨[.wroteFile f.template f.path status], t, .ok (f.path, status)⟩

def install (f : PlannedFile) (s : Store) : Outcome (Path × Status) :=
  (f.ensureParent s).andThen fun t _ => f.write t

def installAll : List PlannedFile → Store → Outcome (List (Path × Status))
  | [], s => .ok s []
  | f :: rest, s =>
    (f.install s).andThen fun t file => (installAll rest t).map (file :: ·)

/-- What is said of a file without writing it. What cannot be read counts as not there. -/
def forecast (f : PlannedFile) (s : Store) : Path × Status :=
  match s.statusOf f.path f.contents with
  | .ok status => (f.path, status)
  | .error _ => (f.path, .created)

end PlannedFile

namespace Plan

def skippedEntry (p : Plan) : List (Path × Status) :=
  p.skipped.toList.map fun path => (path, .skipped)

def execute (p : Plan) (s : Store) : Outcome Report :=
  (PlannedFile.installAll p.files s).map fun files => ⟨files ++ p.skippedEntry⟩

def pretend (p : Plan) (s : Store) : Report :=
  ⟨p.files.map (·.forecast s) ++ p.skippedEntry⟩

end Plan

def Generator.generate (g : Generator) (s : Store) (r : Request) : Outcome Report :=
  ((g.plan s r).inStore s).andThen fun t plan => plan.execute t

end Stencil
