import Stencil.Path
import Stencil.Store.Basic

/-! Where a path leads in a store. A path is walked from the top or from the current directory,
segment by segment; all but the last must be directories, and the last may be missing. -/

namespace Stencil

inductive Fault where
  | notFound
  | alreadyExists
  | notADirectory
  | isADirectory
  | nameTooLong
  | nulByte
  | busy
deriving DecidableEq, Repr

namespace Fault

def message : Fault → String
  | notFound => "No such file or directory (os error 2)"
  | alreadyExists => "File exists (os error 17)"
  | notADirectory => "Not a directory (os error 20)"
  | isADirectory => "Is a directory (os error 21)"
  | nameTooLong => "File name too long (os error 36)"
  | nulByte => "file name contained an unexpected NUL byte"
  | busy => "Device or resource busy (os error 16)"

end Fault

namespace Store

def nameLimit : Nat := 255

/-- The way on from the directory `here`. A filler segment asks only that the way so far lead to a
directory. -/
def walk (s : Store) (here : Location) : List String → Except Fault Location
  | [] => .ok here
  | segment :: rest =>
    match s.get? here with
    | none => .error .notFound
    | some (.file _) => .error .notADirectory
    | some .directory =>
      if Path.isFiller segment then walk s here rest
      else if segment = ".." then walk s here.dropLast rest
      else if nameLimit < segment.utf8ByteSize then .error .nameTooLong
      else walk s (here ++ [segment]) rest

theorem walk_append (s : Store) (here : Location) (first rest : List String) :
    s.walk here (first ++ rest) = (s.walk here first).bind fun l => s.walk l rest := by
  induction first generalizing here with
  | nil => rfl
  | cons segment first ih =>
    rw [List.cons_append, walk, walk]
    split
    · rfl
    · rfl
    · split
      · exact ih here
      · split
        · exact ih here.dropLast
        · split
          · rfl
          · exact ih (here ++ [segment])

def start (s : Store) (p : Path) : Location :=
  if p.isAbsolute then [] else s.current

/-- Why no walk along a path may begin. -/
def refusal? (s : Store) (p : Path) : Option Fault :=
  if p.text.toList.contains '\x00' then some .nulByte
  else if p.text = "" then some .notFound
  else if s.pathLimit.any (· < p.text.utf8ByteSize) then some .nameTooLong
  else none

/-- The location of a path. Something lies there, or could be made there. -/
def locate (s : Store) (p : Path) : Except Fault Location :=
  match s.refusal? p with
  | some fault => .error fault
  | none => s.walk (s.start p) p.segments

def isDirectory (s : Store) (p : Path) : Bool :=
  match s.locate p with
  | .ok l => s.get? l == some .directory
  | .error _ => false

def read (s : Store) (p : Path) : Except Fault String :=
  match s.locate p with
  | .error fault => .error fault
  | .ok l =>
    match s.get? l with
    | none => .error .notFound
    | some .directory => .error .isADirectory
    | some (.file contents) => .ok contents

end Store

end Stencil
