import Stencil.Store.Walk

/-! Where the files of a project go. Test stubs are wanted only where the test root is there. -/

namespace Stencil

/-- Directories are relative to the root unless they are absolute themselves. -/
structure Layout where
  root : Path := ⟨"."⟩
  sourceDir : Path := ⟨"app/mutations"⟩
  testRoot : Path := ⟨"spec"⟩
  testDir : Path := ⟨"spec/mutations"⟩
  extension : String := "rs"
deriving DecidableEq, Repr

namespace Layout

def under (root : Path) : Layout :=
  { root }

/-- What the name of a test stub ends in. No layout sets it. -/
def testSuffix (_ : Layout) : String :=
  "_spec"

def sourcePath (layout : Layout) (target : String) : Path :=
  (layout.root.join layout.sourceDir).join ⟨target ++ "." ++ layout.extension⟩

def testPath (layout : Layout) (target : String) : Path :=
  (layout.root.join layout.testDir).join ⟨target ++ layout.testSuffix ++ "." ++ layout.extension⟩

def hasTestRoot (layout : Layout) (s : Store) : Bool :=
  s.isDirectory (layout.root.join layout.testRoot)

/-- Equality with paths compared by what they name. -/
def same (a b : Layout) : Bool :=
  a.root.same b.root && a.sourceDir.same b.sourceDir && a.testRoot.same b.testRoot &&
    a.testDir.same b.testDir && a.extension == b.extension

def isUsual (layout : Layout) : Bool :=
  layout.same {}

end Layout

end Stencil
