import Stencil.Store.Walk

/-! Changes to a store: writing a file, making a directory with the directories around it, and
taking something away. A refused change leaves the store as it was, except that directories made on
the way to one that is refused stay. -/

namespace Stencil.Store

def dropSlashes (segments : List String) : List String :=
  (segments.reverse.dropWhile (· == "")).reverse

/-- Puts a file where the path leads. A path that ends in a slash names a directory. -/
def write (s : Store) (p : Path) (contents : String) : Except Fault Store :=
  match s.refusal? p with
  | some fault => .error fault
  | none =>
    match s.walk (s.start p) (dropSlashes p.segments) with
    | .error fault => .error fault
    | .ok l =>
      if p.segments.getLast? = some "" || s.get? l = some .directory then .error .isADirectory
      else if s.Placeable l then .ok (s.put l (.file contents))
      else .error .notFound

/-- Makes what is missing on the way. Once something has been made, every further name on the way is
asked for as a directory of its own, so that a file there already exists; before that it is not a
directory, unless it is the last. -/
def makeAlong (s : Store) (here : Location) (made : Bool) : List String → Store × Except Fault Unit
  | [] => (s, .ok ())
  | segment :: rest =>
    if Path.isFiller segment then makeAlong s here made rest
    else if segment = ".." then makeAlong s here.dropLast made rest
    else if nameLimit < segment.utf8ByteSize then (s, .error .nameTooLong)
    else
      let l := here ++ [segment]
      match s.get? l with
      | some .directory => makeAlong s l made rest
      | some (.file _) =>
        (s, .error (if made || rest.all Path.isFiller then .alreadyExists else .notADirectory))
      | none => makeAlong (s.put l .directory) l true rest

/-- Makes a directory and those around it. The empty path asks for nothing. A path that ends in `.`
makes what lies around its last name, and then only asks that it lead to a directory. -/
def makeDirectories (s : Store) (p : Path) : Store × Except Fault Unit :=
  if p.text = "" then (s, .ok ())
  else
    match s.refusal? p with
    | some fault => (s, .error fault)
    | none =>
      if (dropSlashes p.segments).getLast? = some "." then
        match s.locate p with
        | .ok _ => (s, .ok ())
        | .error .notFound =>
          let (t, outcome) := s.makeAlong (s.start p) false p.surroundings
          (t, outcome.bind fun () => (t.locate p).map fun _ => ())
        | .error fault => (s, .error fault)
      else s.makeAlong (s.start p) false p.segments

/-- Takes away a file, or a directory with all below it. -/
def remove (s : Store) (p : Path) : Except Fault Store :=
  match s.locate p with
  | .error fault => .error fault
  | .ok l =>
    if (s.get? l).isNone then .error .notFound
    else if l.isPrefixOf s.current then .error .busy
    else .ok (s.clear l)

end Stencil.Store
