import Stencil.Text.Fields

/-! Paths are kept as the text that was given. Two paths are the same when their components are:
repeated and trailing slashes do not count, nor does `.` other than at the very front, and `..` is
kept as it stands. -/

namespace Stencil

structure Path where
  text : String
deriving DecidableEq, Repr

namespace Path

/-- What counts in a path: the top, the current directory named at the front, the way up, a name. -/
inductive Component where
  | top
  | here
  | up
  | name (name : String)
deriving DecidableEq, Repr

/-- A segment that leads nowhere: an empty one, as between two slashes, or `.`. -/
def isFiller (segment : String) : Bool :=
  segment == "" || segment == "."

/-- How a path begins. A relative one may name the current directory or leave it unsaid. -/
inductive Anchor where
  | top
  | here
  | unsaid
deriving DecidableEq, Repr

def Anchor.components : Anchor → List Component
  | top => [.top]
  | here => [.here]
  | unsaid => []

def Component.ofSegment? (segment : String) : Option Component :=
  if isFiller segment then none
  else if segment = ".." then some .up
  else some (.name segment)

def segments (p : Path) : List String :=
  (Text.fields '/' p.text.toList).map String.ofList

def anchored (p : Path) : Anchor × List String :=
  match p.segments with
  | "" :: s :: rest => (.top, s :: rest)
  | "." :: rest => (.here, rest)
  | segments => (.unsaid, segments)

def components (p : Path) : List Component :=
  p.anchored.1.components ++ p.anchored.2.filterMap Component.ofSegment?

/-- Equality of places named, not of texts. -/
def same (p q : Path) : Bool :=
  p.components == q.components

def isAbsolute (p : Path) : Bool :=
  p.text.toList.head? == some '/'

/-- An absolute right side stands for itself; else the two are put together with one slash, which
the left side may already bring. -/
def join (p q : Path) : Path :=
  if q.isAbsolute then q
  else
    match p.text.toList.getLast? with
    | none | some '/' => ⟨p.text ++ q.text⟩
    | some _ => ⟨p.text ++ "/" ++ q.text⟩

def ofSegments : Anchor → List String → Path
  | .top, segments => ⟨"/" ++ "/".intercalate segments⟩
  | .here, segments => ⟨"/".intercalate ("." :: segments)⟩
  | .unsaid, segments => ⟨"/".intercalate segments⟩

def trimStart (segments : List String) : List String :=
  segments.dropWhile isFiller

def trimEnd (segments : List String) : List String :=
  (trimStart segments.reverse).reverse

/-- The path without its last component. The top and the empty path have no parent. -/
def parent? (p : Path) : Option Path :=
  match p.anchored.1, trimEnd p.anchored.2 with
  | .here, [] => some ⟨""⟩
  | _, [] => none
  | anchor, segments => some (ofSegments anchor (trimEnd segments.dropLast))

/-- The segments up to, and without, the last that names something. -/
def surroundings (p : Path) : List String :=
  (trimEnd p.segments).dropLast

/-- Leaves out the first `n` segments that name something, and the filler among them. -/
def dropNames : Nat → List String → List String
  | 0, segments => segments
  | _ + 1, [] => []
  | n + 1, s :: rest => if isFiller s then dropNames (n + 1) rest else dropNames n rest

/-- What remains of a path that lies under `base`. -/
def stripBase? (base p : Path) : Option Path :=
  if base.components.isPrefixOf p.components then
    match base.components.length with
    | 0 => some (ofSegments p.anchored.1 (trimEnd p.anchored.2))
    | n + 1 =>
      let named := n + 1 - p.anchored.1.components.length
      some (ofSegments .unsaid (trimEnd (trimStart (dropNames named p.anchored.2))))
  else none

end Path

end Stencil
