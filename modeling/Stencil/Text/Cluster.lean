import Stencil.Text.MarkTable

/-! Clusters: the pieces of a text that a reader sees as one character. A base takes its marks with
it, and a joiner after a pictograph binds the pictograph that follows. Rules that bind characters
without case only are left out: no separation of words hangs on them. -/

namespace Stencil.Text

abbrev Cluster := List Char

/-- The joiner that makes one picture of two. -/
def joiner : Char := '\u200d'

def isExtend (c : Char) : Bool :=
  inTable extendRanges c

def isMark (c : Char) : Bool :=
  isExtend c || c == joiner || inTable spacingMarkRanges c

def isPrepended (c : Char) : Bool :=
  inTable prependedRanges c

def isControl (c : Char) : Bool :=
  decide (c.toNat < 32) || c.toNat == 127 || inTable controlRanges c

def isPictograph (c : Char) : Bool :=
  inTable pictographRanges c

/-- How far the text so far has come towards two pictographs with a joiner between them. -/
inductive Picture where
  | none
  | begun
  | joined
deriving DecidableEq, Repr

/-- Marks may stand between the pictograph and the joiner, but nothing after the joiner. -/
def Picture.next (p : Picture) (c : Char) : Picture :=
  if isPictograph c then .begun
  else if p = .begun && c == joiner then .joined
  else if p = .begun && isExtend c then .begun
  else .none

/-- Whether two neighbours belong to one cluster, when `p` is how far a picture has come with the
first of them. -/
def inOneCluster (p : Picture) (a b : Char) : Bool :=
  if a = '\r' && b = '\n' then true
  else
    !isControl a && !isControl b &&
      (isMark b || isPrepended a || (p = .joined && isPictograph b))

def clustersFrom (p : Picture) : List Char → List Cluster
  | [] => []
  | [c] => [[c]]
  | a :: b :: cs =>
    if inOneCluster (p.next a) a b then
      match clustersFrom (p.next a) (b :: cs) with
      | [] => [[a]]
      | g :: gs => (a :: g) :: gs
    else [a] :: clustersFrom (p.next a) (b :: cs)

def clusters (cs : List Char) : List Cluster :=
  clustersFrom .none cs

theorem flatten_clustersFrom (p : Picture) (cs : List Char) : (clustersFrom p cs).flatten = cs := by
  fun_induction clustersFrom p cs with
  | case1 => rfl
  | case2 => rfl
  | case3 p a b cs h hempty ih => simp [hempty] at ih
  | case4 p a b cs h g gs hg ih => simpa [hg] using ih
  | case5 p a b cs h ih => simpa using ih

theorem flatten_clusters (cs : List Char) : (clusters cs).flatten = cs :=
  flatten_clustersFrom .none cs

theorem inOneCluster_of_ascii {a b : Char} (ha : a.toNat < 128) (hb : b.toNat < 128)
    (hr : a ≠ '\r') (p : Picture) : inOneCluster p a b = false := by
  have hj : b ≠ joiner := fun e => absurd hb (by rw [e]; decide)
  simp [inOneCluster, hr, hj, isMark, isExtend, isPrepended, isPictograph, inTable_of_ascii _ ha,
    inTable_of_ascii _ hb]

theorem clustersFrom_of_ascii (p : Picture) {cs : List Char}
    (h : ∀ c ∈ cs, c.toNat < 128 ∧ c ≠ '\r') : clustersFrom p cs = cs.map ([·]) := by
  fun_induction clustersFrom p cs with
  | case1 => rfl
  | case2 => rfl
  | case3 p a b cs hj | case4 p a b cs hj =>
    have ha := h a (by simp)
    have hb := h b (by simp)
    simp [inOneCluster_of_ascii ha.1 hb.1 ha.2] at hj
  | case5 p a b cs hj ih =>
    rw [ih fun c hc => h c (List.mem_cons_of_mem _ hc)]
    rfl

/-- In ASCII text with no carriage return every character stands alone. -/
theorem clusters_of_ascii {cs : List Char} (h : ∀ c ∈ cs, c.toNat < 128 ∧ c ≠ '\r') :
    clusters cs = cs.map ([·]) :=
  clustersFrom_of_ascii .none h

end Stencil.Text
