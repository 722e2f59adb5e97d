import Mathlib.Tactic.SplitIfs
import Stencil.Proofs.Path.Steps
import Stencil.Proofs.Store.Walk

/-! What the changes to a store leave behind. Making directories adds directories and nothing else,
whether or not it is refused in the end, and doing it again adds no more. Stores of the same kinds
are changed alike. -/

namespace Stencil.Store

variable {s t : Store} {here l : Location}

/-- Why no directory can be made where a file is. -/
def blockage (made : Bool) (rest : List String) : Fault :=
  if made || rest.all Path.isFiller then .alreadyExists else .notADirectory

theorem makeAlong_cons (s : Store) (here : Location) (made : Bool) (segment : String)
    (rest : List String) :
    s.makeAlong here made (segment :: rest) =
      if Path.isFiller segment then s.makeAlong here made rest
      else if segment = ".." then s.makeAlong here.dropLast made rest
      else if nameLimit < segment.utf8ByteSize then (s, .error .nameTooLong)
      else
        match s.kind? (here ++ [segment]) with
        | some .directory => s.makeAlong (here ++ [segment]) made rest
        | some .file => (s, .error (blockage made rest))
        | none => (s.put (here ++ [segment]) .directory).makeAlong (here ++ [segment]) true rest := by
  rw [makeAlong]
  simp only [kind?]
  rcases s.get? (here ++ [segment]) with _ | _ | c <;> rfl

theorem widensTo_makeAlong (s : Store) (here : Location) (made : Bool) (segments : List String) :
    s.WidensTo (s.makeAlong here made segments).1 := by
  induction segments generalizing s here made with
  | nil => exact .refl s
  | cons segment rest ih =>
    rw [makeAlong_cons]
    split_ifs
    · exact ih s here made
    · exact ih s here.dropLast made
    · exact .refl s
    · split
      · exact ih s (here ++ [segment]) made
      · exact .refl s
      · rename_i hnone
        exact (widensTo_put_directory (kind?_eq_none_iff.mp hnone)).trans (ih _ _ true)

theorem Alike.makeAlong (h : s.Alike t) (here : Location) (made : Bool) (segments : List String) :
    (s.makeAlong here made segments).1.Alike (t.makeAlong here made segments).1 ∧
      (s.makeAlong here made segments).2 = (t.makeAlong here made segments).2 := by
  induction segments generalizing s t here made with
  | nil => exact ⟨h, rfl⟩
  | cons segment rest ih =>
    rw [makeAlong_cons, makeAlong_cons, h.kind]
    split_ifs
    · exact ih h here made
    · exact ih h here.dropLast made
    · exact ⟨h, rfl⟩
    · split
      · exact ih h (here ++ [segment]) made
      · exact ⟨h, rfl⟩
      · exact ih (h.put rfl) (here ++ [segment]) true

theorem get?_dropLast_of_directory (h : s.get? here = some .directory) :
    s.get? here.dropLast = some .directory := by
  by_cases hnil : here = []
  · rw [hnil]
    exact s.get?_top
  · exact s.get?_dropLast hnil (by simp [h])

theorem placeable_append (h : s.get? here = some .directory) {segment : String}
    (hnone : s.get? (here ++ [segment]) = none) : s.Placeable (here ++ [segment]) :=
  ⟨by simp, by rwa [List.dropLast_concat], by simp [hnone]⟩

theorem get?_put_append (h : s.get? here = some .directory) {segment : String}
    (hnone : s.get? (here ++ [segment]) = none) (e : Entry) :
    (s.put (here ++ [segment]) e).get? (here ++ [segment]) = some e := by
  rw [get?_put (placeable_append h hnone), if_pos rfl]

theorem walk_of_makeAlong {made : Bool} {segments : List String}
    (hhere : s.get? here = some .directory) (h : (s.makeAlong here made segments).2 = .ok ()) :
    ∃ l, (s.makeAlong here made segments).1.walk here segments = .ok l ∧
      (s.makeAlong here made segments).1.get? l = some .directory := by
  -- the way begins at a directory, and it still does when the whole way has been made
  have hkept := (widensTo_makeAlong s here made segments).get? hhere
  rw [← kind?_eq_directory_iff] at hkept
  induction segments generalizing s here made with
  | nil => exact ⟨here, rfl, hhere⟩
  | cons segment rest ih =>
    rw [walk_cons, hkept]
    rw [makeAlong_cons] at h hkept ⊢
    split_ifs at h hkept ⊢
    · exact ih hhere h hkept
    · have hup := get?_dropLast_of_directory hhere
      exact ih hup h (kind?_eq_directory_iff.mpr ((widensTo_makeAlong ..).get? hup))
    · split at h
      · rename_i hdir
        have hnext := kind?_eq_directory_iff.mp hdir
        exact ih hnext h (kind?_eq_directory_iff.mpr ((widensTo_makeAlong ..).get? hnext))
      · contradiction
      · rename_i hnone
        have hnext := get?_put_append hhere (kind?_eq_none_iff.mp hnone) .directory
        exact ih hnext h (kind?_eq_directory_iff.mpr ((widensTo_makeAlong ..).get? hnext))

/-- A way that was made as far as it could be is made no further the second time. -/
theorem makeAlong_again (made again : Bool) {segments : List String}
    (hhere : s.get? here = some .directory) :
    ((s.makeAlong here made segments).1.makeAlong here again segments).1 =
        (s.makeAlong here made segments).1 ∧
      ((s.makeAlong here made segments).1.makeAlong here again segments).2.isOk =
        (s.makeAlong here made segments).2.isOk := by
  induction segments generalizing s here made again with
  | nil => exact ⟨rfl, rfl⟩
  | cons segment rest ih =>
    rw [makeAlong_cons s, makeAlong_cons _ _ again]
    split_ifs
    · exact ih made again hhere
    · exact ih made again (get?_dropLast_of_directory hhere)
    · exact ⟨rfl, rfl⟩
    · -- a name that was missing is a directory by now, and what was there is there still
      cases hkind : s.kind? (here ++ [segment]) with
      | none =>
        have hnext := get?_put_append hhere (kind?_eq_none_iff.mp hkind) .directory
        have hkept := (widensTo_makeAlong _ (here ++ [segment]) true rest).get? hnext
        rw [kind?_eq_directory_iff.mpr hkept]
        exact ih true again hnext
      | some kind =>
        cases kind with
        | directory =>
          have hnext := kind?_eq_directory_iff.mp hkind
          have hkept := (widensTo_makeAlong _ (here ++ [segment]) made rest).get? hnext
          rw [kind?_eq_directory_iff.mpr hkept]
          exact ih made again hnext
        | file =>
          rw [hkind]
          exact ⟨rfl, rfl⟩

theorem get?_of_walk {segments : List String} (hw : s.walk here segments = .ok l)
    (hl : s.get? l = some .directory) : s.get? here = some .directory := by
  cases segments with
  | nil =>
    obtain rfl : here = l := Except.ok.inj hw
    exact hl
  | cons segment rest =>
    rw [walk_cons] at hw
    split at hw
    · contradiction
    · contradiction
    · rename_i hdir
      exact kind?_eq_directory_iff.mp hdir

theorem makeAlong_of_walk (made : Bool) {segments : List String}
    (hw : s.walk here segments = .ok l) (hl : s.get? l = some .directory) :
    s.makeAlong here made segments = (s, .ok ()) := by
  induction segments generalizing here with
  | nil => rfl
  | cons segment rest ih =>
    have hhere := kind?_eq_directory_iff.mpr (get?_of_walk hw hl)
    rw [walk_cons, hhere] at hw
    rw [makeAlong_cons]
    split_ifs at hw ⊢
    · exact ih hw
    · exact ih hw
    · rw [kind?_eq_directory_iff.mpr (get?_of_walk hw hl)]
      exact ih hw

/-! ### Making the way to a directory -/

/-- Makes what is missing on the way to a directory, if a walk along its path may begin. -/
def makeWay (s : Store) (p : Path) : Store × Except Fault Unit :=
  match s.refusal? p with
  | some fault => (s, .error fault)
  | none => s.makeAlong (s.start p) false p.segments

theorem makeWay_of_refusal {p : Path} {fault : Fault} (h : s.refusal? p = some fault) :
    s.makeWay p = (s, .error fault) := by
  rw [makeWay, h]

theorem makeWay_of_no_refusal {p : Path} (h : s.refusal? p = none) :
    s.makeWay p = s.makeAlong (s.start p) false p.segments := by
  rw [makeWay, h]

theorem makeWay_of_isDirectory {p : Path} (h : s.isDirectory p = true) :
    s.makeWay p = (s, .ok ()) := by
  obtain ⟨l, hl, hdir⟩ := isDirectory_iff.mp h
  rw [locate] at hl
  split at hl
  · contradiction
  · rename_i hfree
    rw [makeWay_of_no_refusal hfree]
    exact makeAlong_of_walk false hl hdir

theorem widensTo_makeWay (s : Store) (p : Path) : s.WidensTo (s.makeWay p).1 := by
  rw [makeWay]
  split
  · exact .refl s
  · exact widensTo_makeAlong ..

theorem Alike.makeWay (h : s.Alike t) (p : Path) :
    (s.makeWay p).1.Alike (t.makeWay p).1 ∧ (s.makeWay p).2 = (t.makeWay p).2 := by
  rw [Store.makeWay, Store.makeWay, h.refusal?, h.start]
  split
  · exact ⟨h, rfl⟩
  · exact h.makeAlong ..

theorem isDirectory_of_makeWay {p : Path} (h : (s.makeWay p).2 = .ok ()) :
    (s.makeWay p).1.isDirectory p = true := by
  have hgrow := (widensTo_makeWay s p).growsTo
  cases hfree : s.refusal? p with
  | some fault =>
    rw [makeWay_of_refusal hfree] at h
    contradiction
  | none =>
    rw [isDirectory_iff, locate, hgrow.refusal?, hgrow.start, hfree]
    rw [makeWay_of_no_refusal hfree] at h ⊢
    exact walk_of_makeAlong (s.get?_start p) h

theorem makeWay_again (s : Store) (p : Path) :
    ((s.makeWay p).1.makeWay p).1 = (s.makeWay p).1 ∧
      ((s.makeWay p).1.makeWay p).2.isOk = (s.makeWay p).2.isOk := by
  have hgrow := (widensTo_makeWay s p).growsTo
  cases hfree : s.refusal? p with
  | some fault =>
    rw [makeWay_of_refusal hfree, makeWay_of_refusal hfree]
    exact ⟨rfl, rfl⟩
  | none =>
    rw [makeWay_of_no_refusal ((hgrow.refusal? p).trans hfree), hgrow.start,
      makeWay_of_no_refusal hfree]
    exact makeAlong_again false false (s.get?_start p)

/-! ### The directory around a path -/

theorem dropSlashes_concat {front : List String} {last : String} (h : last ≠ "") :
    dropSlashes (front ++ [last]) = front ++ [last] := by
  simp [dropSlashes, h]

theorem isDirectory_of_dot {p : Path} (h : p.segments = ["."]) (hfree : s.refusal? p = none) :
    s.isDirectory p = true := by
  have hdot : Path.isFiller "." = true := by decide
  have hstart := s.get?_start p
  refine isDirectory_iff.mpr ⟨s.start p, ?_, hstart⟩
  rw [locate, hfree, h]
  simp [walk, hstart, hdot]

theorem makeDirectories_of_parent {p q : Path} (hq : p.parent? = some q) (hne : q.text ≠ "")
    (hdir : s.isDirectory q = false) : s.makeDirectories q = s.makeWay q := by
  rw [makeDirectories, makeWay, if_neg hne]
  cases hfree : s.refusal? q with
  | some fault => rfl
  | none =>
    refine if_neg fun hlast => ?_
    -- of the paths that end in `.` it can only be the current directory, and that one is there
    rcases Path.segments_of_parent hq with h | h | h | ⟨front, last, h, hcounts⟩
    · rw [Path.text_eq, h] at hne
      exact hne String.intercalate_singleton
    · rw [h] at hlast
      contradiction
    · rw [isDirectory_of_dot h hfree] at hdir
      contradiction
    · have hempty : last ≠ "" := fun e => by simp [e, Path.isFiller] at hcounts
      rw [h, dropSlashes_concat hempty, List.getLast?_concat] at hlast
      rw [Option.some.inj hlast] at hcounts
      contradiction

/-! ### Writing a file -/

theorem write_eq_ok_iff {p : Path} {contents : String} :
    s.write p contents = .ok t ↔
      p.segments.getLast? ≠ some "" ∧
        ∃ l, s.locate p = .ok l ∧ s.Placeable l ∧ t = s.put l (.file contents) := by
  by_cases hslash : p.segments.getLast? = some ""
  · simp only [hslash, ne_eq, not_true_eq_false, false_and, iff_false]
    rw [write]
    cases s.refusal? p with
    | some fault => simp
    | none => cases s.walk (s.start p) (dropSlashes p.segments) <;> simp [hslash]
  · obtain ⟨front, last, hlast⟩ :=
      (List.eq_nil_or_concat p.segments).resolve_left p.segments_ne_nil
    rw [List.concat_eq_append] at hlast
    have hne : last ≠ "" := fun e => hslash (by simp [hlast, e])
    have hsegments : dropSlashes p.segments = p.segments := by
      rw [hlast, dropSlashes_concat hne]
    rw [write, locate, hsegments]
    cases s.refusal? p with
    | some fault => simp
    | none =>
      cases s.walk (s.start p) p.segments with
      | error fault => simp
      | ok l =>
        by_cases hdir : s.get? l = some .directory
        · simp [hdir, Placeable]
        · by_cases hplace : s.Placeable l
          · simp [hslash, hdir, hplace, eq_comm]
          · simp [hslash, hdir, hplace]

end Stencil.Store
