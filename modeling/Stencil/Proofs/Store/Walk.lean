import Mathlib.Tactic.SplitIfs
import Stencil.Proofs.Store.Kinds

/-! Walks in stores of the same kinds end alike, and a walk that comes to its end does so in every
store that has grown from the one it was made in. -/

namespace Stencil.Store

variable {s t : Store}

theorem walk_cons (s : Store) (here : Location) (segment : String) (rest : List String) :
    s.walk here (segment :: rest) =
      match s.kind? here with
      | none => .error .notFound
      | some .file => .error .notADirectory
      | some .directory =>
        if Path.isFiller segment then s.walk here rest
        else if segment = ".." then s.walk here.dropLast rest
        else if nameLimit < segment.utf8ByteSize then .error .nameTooLong
        else s.walk (here ++ [segment]) rest := by
  rw [walk, kind?]
  rcases s.get? here with _ | _ | c <;> rfl

theorem refusal?_congr (h : s.pathLimit = t.pathLimit) (p : Path) :
    s.refusal? p = t.refusal? p := by
  rw [refusal?, refusal?, h]

theorem start_congr (h : s.current = t.current) (p : Path) : s.start p = t.start p := by
  rw [start, start, h]

theorem get?_start (s : Store) (p : Path) : s.get? (s.start p) = some .directory := by
  unfold start
  split
  · exact s.get?_top
  · exact s.get?_current

theorem isDirectory_iff {p : Path} :
    s.isDirectory p = true ↔ ∃ l, s.locate p = .ok l ∧ s.get? l = some .directory := by
  unfold isDirectory
  cases s.locate p <;> simp

namespace Alike

theorem walk (h : s.Alike t) (here : Location) (segments : List String) :
    s.walk here segments = t.walk here segments := by
  induction segments generalizing here with
  | nil => rfl
  | cons segment rest ih =>
    rw [walk_cons, walk_cons, h.kind here]
    simp only [ih]

theorem refusal? (h : s.Alike t) (p : Path) : s.refusal? p = t.refusal? p :=
  refusal?_congr h.pathLimit p

theorem start (h : s.Alike t) (p : Path) : s.start p = t.start p :=
  start_congr h.current p

theorem locate (h : s.Alike t) (p : Path) : s.locate p = t.locate p := by
  rw [Store.locate, Store.locate, h.refusal?, h.start, h.walk]

theorem isDirectory (h : s.Alike t) (p : Path) : s.isDirectory p = t.isDirectory p := by
  rw [Bool.eq_iff_iff, isDirectory_iff, isDirectory_iff]
  simp only [h.locate p, ← kind?_eq_directory_iff, h.kind]

end Alike

namespace GrowsTo

theorem walk (h : s.GrowsTo t) {here l : Location} {segments : List String}
    (hw : s.walk here segments = .ok l) : t.walk here segments = .ok l := by
  induction segments generalizing here with
  | nil => exact hw
  | cons segment rest ih =>
    rw [walk_cons] at hw ⊢
    split at hw
    · contradiction
    · contradiction
    · rename_i hdir
      rw [h.kind hdir]
      split_ifs at hw ⊢
      · exact ih hw
      · exact ih hw
      · exact ih hw

theorem refusal? (h : s.GrowsTo t) (p : Path) : t.refusal? p = s.refusal? p :=
  refusal?_congr h.pathLimit p

theorem start (h : s.GrowsTo t) (p : Path) : t.start p = s.start p :=
  start_congr h.current p

theorem locate (h : s.GrowsTo t) {p : Path} {l : Location} (hl : s.locate p = .ok l) :
    t.locate p = .ok l := by
  rw [Store.locate] at hl ⊢
  rw [h.refusal?, h.start]
  split at hl
  · contradiction
  · exact h.walk hl

theorem isDirectory (h : s.GrowsTo t) {p : Path} (hp : s.isDirectory p = true) :
    t.isDirectory p = true := by
  obtain ⟨l, hl, hdir⟩ := isDirectory_iff.mp hp
  exact isDirectory_iff.mpr ⟨l, h.locate hl, h.directory hdir⟩

end GrowsTo

end Stencil.Store
