import Stencil.Path
import Stencil.Text.Lines

/-! What a run did, file by file, and how it is told. -/

namespace Stencil

inductive Status where
  | created
  | overwritten
  | identical
  | skipped
deriving DecidableEq, Repr

def Status.label : Status → String
  | created => "create"
  | overwritten => "force"
  | identical => "identical"
  | skipped => "skip"

structure Report where
  files : List (Path × Status)
deriving DecidableEq, Repr

namespace Report

/-- The status of the first file at a path, however the path is spelled. -/
def statusOf? (r : Report) (p : Path) : Option Status :=
  (r.files.find? fun file => file.1.same p).map Prod.snd

def shown (root p : Path) : Path :=
  (Path.stripBase? root p).getD p

def line (root : Path) (file : Path × Status) : String :=
  Text.alignRight 12 file.2.label ++ "  " ++ (shown root file.1).text

def print (r : Report) (root : Path) : String :=
  Text.ofLines (r.files.map (line root))

end Report

end Stencil
