import Stencil.Session

/-! The program on a real disk. The part of the disk that the run may touch is copied into a store,
the run is carried out there, and what it changed is written back. -/

namespace Stencil.Main

/-- The most bytes that the disk takes in one path. -/
def pathLimit : Nat := 4095

/-- A file that holds no text stands as an empty one; no source is empty. -/
def entryOnDisk (l : Location) : IO (Option Entry) := do
  let path := System.mkFilePath ["/" ++ "/".intercalate l]
  if ← path.isDir then return some .directory
  if ← path.pathExists then
    let bytes ← IO.FS.readBinFile path
    return some (.file ((String.fromUTF8? bytes).getD ""))
  return none

/-- Copies what lies on the way. What is missing may yet be made, so the way goes on beyond it. -/
def copyAlong (s : Store) (here : Location) : List String → IO Store
  | [] => return s
  | segment :: rest => do
    if Path.isFiller segment then copyAlong s here rest
    else if segment = ".." then copyAlong s here.dropLast rest
    else
      let l := here ++ [segment]
      match ← entryOnDisk l with
      | none => copyAlong s l rest
      | some .directory => copyAlong (s.put l .directory) l rest
      | some (.file contents) => return s.put l (.file contents)

def copyPath (s : Store) (p : Path) : IO Store :=
  if (s.refusal? p).isSome then return s else copyAlong s (s.start p) p.segments

def copyDisk (paths : List Path) : IO Store := do
  let current : Path := ⟨(← IO.currentDir).toString⟩
  let here := current.segments.filter (!Path.isFiller ·)
  let s ← copyPath (.empty (some pathLimit)) current
  paths.foldlM copyPath (s.enter here)

/-- Writes back what differs. A directory comes before what lies in it. -/
def writeBack (before after : Store) : IO Unit :=
  for (l, entry) in after.toList do
    if before.get? l != some entry then
      let path := System.mkFilePath ["/" ++ "/".intercalate l]
      match entry with
      | .directory => IO.FS.createDir path
      | .file contents => IO.FS.writeFile path contents

def run (words : List String) : IO UInt32 := do
  let paths :=
    match CommandLine.read words with
    | .error _ => []
    | .ok i => i.touched
  let before ← copyDisk paths
  let finish := session words before
  writeBack before finish.store
  for event in finish.log do
    IO.eprintln event.line
  IO.print finish.output
  IO.eprint finish.complaint
  return finish.exitCode.toUInt32

end Stencil.Main

def main (words : List String) : IO UInt32 :=
  try Stencil.Main.run words
  catch e =>
    IO.eprintln ("error: " ++ toString e)
    return 1
