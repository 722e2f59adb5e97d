import Mathlib.Tactic.Tauto
import Stencil.Proofs.Store.Place

/-! The way to a directory, when no step of it goes up. Only a file in the way or a name that is too
long can stop its making, and up to there every directory on it is made. Other directories and the
contents of files do not matter. -/

namespace Stencil.Store

variable {s t : Store} {here k l : Location} {name : String} {names rest segments : List String}

/-- What stops the making of a way: the first name on it that is too long or is a file's. -/
def obstacle? (s : Store) (here : Location) : List String → Option Fault
  | [] => none
  | name :: rest =>
    if nameLimit < name.utf8ByteSize then some .nameTooLong
    else if s.kind? (here ++ [name]) = some .file then some (blockage false rest)
    else obstacle? s (here ++ [name]) rest

/-- A location on the way that the making of the way comes to. -/
def Opens (s : Store) (here : Location) (names : List String) (k : Location) : Prop :=
  ∃ front, front <+: names ∧ s.obstacle? here front = none ∧ k = here ++ front

/-- The stores have files at the same places on the way to a location. -/
def SameFilesTo (s t : Store) (l : Location) : Prop :=
  ∀ k, k <+: l → (s.kind? k = some .file ↔ t.kind? k = some .file)

theorem SameFilesTo.symm (h : s.SameFilesTo t l) : t.SameFilesTo s l :=
  fun k hk => (h k hk).symm

theorem SameFilesTo.mono (h : s.SameFilesTo t l) (hk : k <+: l) : s.SameFilesTo t k :=
  fun j hj => h j (hj.trans hk)

theorem WidensTo.sameFilesTo (h : s.WidensTo t) (l : Location) : s.SameFilesTo t l := by
  intro k _
  rw [kind?_eq_file_iff, kind?_eq_file_iff]
  simp only [h.file_iff]

theorem obstacle?_congr (h : s.SameFilesTo t (here ++ names)) :
    s.obstacle? here names = t.obstacle? here names := by
  induction names generalizing here with
  | nil => rfl
  | cons name rest ih =>
    rw [List.append_cons] at h
    have hname := h _ (List.prefix_append _ rest)
    rw [obstacle?, obstacle?, ih h]
    simp only [hname]

theorem Opens.congr (h : s.SameFilesTo t (here ++ names)) (hopen : s.Opens here names k) :
    t.Opens here names k := by
  obtain ⟨front, hfront, hfree, hk⟩ := hopen
  have hway : here ++ front <+: here ++ names := (List.prefix_append_right_inj here).mpr hfront
  exact ⟨front, hfront, obstacle?_congr (h.mono hway) ▸ hfree, hk⟩

theorem Opens.on_way (h : s.Opens here names k) : k <+: here ++ names := by
  obtain ⟨front, hfront, -, rfl⟩ := h
  exact (List.prefix_append_right_inj here).mpr hfront

theorem opens_here (s : Store) (here : Location) (names : List String) :
    s.Opens here names here :=
  ⟨[], List.nil_prefix, rfl, (List.append_nil here).symm⟩

theorem opens_cons_iff : s.Opens here (name :: rest) k ↔
    k = here ∨ ¬ nameLimit < name.utf8ByteSize ∧ s.kind? (here ++ [name]) ≠ some .file ∧
      s.Opens (here ++ [name]) rest k := by
  constructor
  · rintro ⟨front, hfront, hfree, rfl⟩
    rcases List.prefix_cons_iff.mp hfront with rfl | ⟨front, rfl, hrest⟩
    · exact .inl (List.append_nil here)
    · rw [obstacle?] at hfree
      split_ifs at hfree with hlong hfile
      exact .inr ⟨hlong, hfile, front, hrest, hfree, List.append_cons ..⟩
  · rintro (rfl | ⟨hlong, hfile, front, hfront, hfree, rfl⟩)
    · exact opens_here ..
    · refine ⟨name :: front, List.cons_prefix_cons.mpr ⟨rfl, hfront⟩, ?_,
        (List.append_cons ..).symm⟩
      rw [obstacle?, if_neg hlong, if_neg hfile, hfree]

/-! ### Files in the way -/

/-- There is a file at the location or above it. -/
def Barred (s : Store) (l : Location) : Prop :=
  ∃ k, k <+: l ∧ s.kind? k = some .file

/-- How the making of a barred directory is refused. -/
def barrier (s : Store) (l : Location) : Fault :=
  if s.kind? l = some .file then .alreadyExists else .notADirectory

theorem not_barred_of_directory (h : s.get? l = some .directory) : ¬ s.Barred l := by
  rintro ⟨k, hk, hfile⟩
  have hdir : s.get? k = some .directory := by
    by_cases heq : k = l
    · rw [heq, h]
    · exact get?_above h hk heq
  rw [kind?_eq_directory_iff.mpr hdir] at hfile
  contradiction

theorem barred_append_iff (h : ¬ s.Barred here) :
    s.Barred (here ++ [name]) ↔ s.kind? (here ++ [name]) = some .file := by
  constructor
  · rintro ⟨k, hk, hfile⟩
    rcases List.prefix_concat_iff.mp hk with rfl | habove
    · exact hfile
    · exact absurd ⟨k, habove, hfile⟩ h
  · exact fun hfile => ⟨_, List.prefix_refl _, hfile⟩

theorem barrier_below (hfile : s.kind? here = some .file) (name : String) (rest : List String) :
    s.barrier (here ++ name :: rest) = .notADirectory := by
  refine if_neg fun hbelow => ?_
  obtain ⟨c, hc⟩ := kind?_eq_file_iff.mp hbelow
  have habove := get?_above hc (List.prefix_append here (name :: rest)) (by simp)
  rw [kind?_eq_directory_iff.mpr habove] at hfile
  contradiction

/-- Where no name is too long, only a file can be in the way. -/
theorem obstacle?_eq_some_iff {fault : Fault} (hfree : ¬ s.Barred here)
    (hshort : ∀ name ∈ names, name.utf8ByteSize ≤ nameLimit)
    (hcounts : ∀ name ∈ names, Path.isFiller name = false) :
    s.obstacle? here names = some fault ↔
      s.Barred (here ++ names) ∧ fault = s.barrier (here ++ names) := by
  induction names generalizing here with
  | nil =>
    rw [List.append_nil]
    simp [obstacle?, hfree]
  | cons name rest ih =>
    rw [List.forall_mem_cons] at hshort hcounts
    rw [obstacle?, if_neg (by omega), List.append_cons here name rest]
    split_ifs with hfile
    · have hbarred : s.Barred (here ++ [name] ++ rest) :=
        ⟨_, List.prefix_append _ rest, hfile⟩
      have hfault : blockage false rest = s.barrier (here ++ [name] ++ rest) := by
        cases rest with
        | nil => simp [blockage, barrier, hfile]
        | cons next rest =>
          rw [barrier_below hfile]
          simp [blockage, hcounts.2 next]
      simp only [hbarred, true_and, ← hfault, Option.some.injEq, eq_comm]
    · exact ih (mt (barred_append_iff hfree).mp hfile) hshort.2 hcounts.2

/-! ### Making the way -/

theorem blockage_counted (rest : List String) :
    blockage false (Path.counted rest) = blockage false rest := by
  have hall : (Path.counted rest).all Path.isFiller = rest.all Path.isFiller := by
    induction rest with
    | nil => rfl
    | cons segment rest ih =>
      cases hfiller : Path.isFiller segment with
      | true => rw [Path.counted_cons_of_filler hfiller, ih, List.all_cons, hfiller, Bool.true_and]
      | false => simp only [Path.counted_cons hfiller, List.all_cons, hfiller, Bool.false_and]
  rw [blockage, blockage, hall]

/-- How the making of a way ends, by what stops it. -/
def ending : Option Fault → Except Fault Unit
  | none => .ok ()
  | some fault => .error fault

theorem get?_below_of_none (h : s.get? l = none) (name : String) : s.get? (l ++ [name]) = none := by
  by_contra hsome
  have hparent := s.get?_dropLast (l := l ++ [name]) (by simp) (Option.isSome_iff_ne_none.mpr hsome)
  rw [List.dropLast_concat, h] at hparent
  contradiction

theorem result_makeAlong {made : Bool} (hup : ".." ∉ Path.counted segments)
    (hhere : s.get? here = some .directory)
    (hmade : made = true → ∀ name, s.get? (here ++ [name]) = none) :
    (s.makeAlong here made segments).2 = ending (s.obstacle? here (Path.counted segments)) := by
  induction segments generalizing s here made with
  | nil => rfl
  | cons segment rest ih =>
    rw [makeAlong_cons]
    by_cases hfiller : Path.isFiller segment = true
    · rw [if_pos hfiller]
      rw [Path.counted_cons_of_filler hfiller] at hup ⊢
      exact ih hup hhere hmade
    · rw [if_neg hfiller]
      rw [Path.counted_cons (by simpa using hfiller)] at hup ⊢
      have hrest := List.not_mem_of_not_mem_cons hup
      have hdown : segment ≠ ".." := (List.ne_of_not_mem_cons hup).symm
      rw [obstacle?, if_neg hdown]
      split_ifs with hlong hfile
      · rfl
      · -- beyond a directory just made there is no file
        have hold : made = false := by
          rw [Bool.eq_false_iff]
          intro h
          simp [kind?, hmade h segment] at hfile
        rw [hfile, hold, ← blockage_counted]
        rfl
      · cases hkind : s.kind? (here ++ [segment]) with
        | none =>
          have hnone := kind?_eq_none_iff.mp hkind
          have hnext := get?_put_append hhere hnone .directory
          have hwide := widensTo_put_directory hnone
          have hbelow : ∀ name, (s.put (here ++ [segment]) .directory).get?
              (here ++ [segment] ++ [name]) = none := by
            intro name
            rw [get?_put (placeable_append hhere hnone), if_neg (by simp)]
            exact get?_below_of_none hnone name
          rw [obstacle?_congr (hwide.sameFilesTo _)]
          exact ih hrest hnext fun _ => hbelow
        | some kind =>
          cases kind with
          | file => exact absurd hkind hfile
          | directory =>
            have hnext := kind?_eq_directory_iff.mp hkind
            have hold : made = true → ∀ name, s.get? (here ++ [segment] ++ [name]) = none := by
              intro h
              rw [hmade h segment] at hnext
              contradiction
            exact ih hrest hnext hold

theorem directory_put_append_iff (hhere : s.get? here = some .directory)
    (hnone : s.get? (here ++ [name]) = none) :
    (s.put (here ++ [name]) .directory).get? k = some .directory ↔
      k = here ++ [name] ∨ s.get? k = some .directory := by
  rw [get?_put (placeable_append hhere hnone)]
  split_ifs with heq
  · simp [heq]
  · simp [Ne.symm heq]

theorem directory_makeAlong_iff {made : Bool} (hup : ".." ∉ Path.counted segments)
    (hhere : s.get? here = some .directory) :
    (s.makeAlong here made segments).1.get? k = some .directory ↔
      s.get? k = some .directory ∨ s.Opens here (Path.counted segments) k := by
  induction segments generalizing s here made with
  | nil =>
    have hopens : s.Opens here (Path.counted []) k → s.get? k = some .directory := by
      rintro ⟨front, hfront, -, rfl⟩
      rw [List.prefix_nil.mp hfront, List.append_nil]
      exact hhere
    exact ⟨.inl, fun h => h.elim id hopens⟩
  | cons segment rest ih =>
    have hkept : k = here → s.get? k = some .directory := fun heq => heq ▸ hhere
    rw [makeAlong_cons]
    by_cases hfiller : Path.isFiller segment = true
    · rw [if_pos hfiller]
      rw [Path.counted_cons_of_filler hfiller] at hup ⊢
      exact ih hup hhere
    · rw [if_neg hfiller]
      rw [Path.counted_cons (by simpa using hfiller)] at hup ⊢
      have hrest := List.not_mem_of_not_mem_cons hup
      have hdown : segment ≠ ".." := (List.ne_of_not_mem_cons hup).symm
      rw [if_neg hdown, opens_cons_iff]
      split_ifs with hlong
      · simp only [hlong, not_true_eq_false, false_and, or_false]
        exact ⟨.inl, fun h => h.elim id hkept⟩
      · cases hkind : s.kind? (here ++ [segment]) with
        | none =>
          have hnone := kind?_eq_none_iff.mp hkind
          have hnext := get?_put_append hhere hnone .directory
          have hsame := (widensTo_put_directory hnone).sameFilesTo
            (here ++ [segment] ++ Path.counted rest)
          have hopens : (s.put (here ++ [segment]) .directory).Opens (here ++ [segment])
              (Path.counted rest) k ↔ s.Opens (here ++ [segment]) (Path.counted rest) k :=
            ⟨.congr hsame.symm, .congr hsame⟩
          have hfirst : k = here ++ [segment] →
              s.Opens (here ++ [segment]) (Path.counted rest) k := fun heq => heq ▸ opens_here ..
          refine (ih hrest hnext).trans ?_
          rw [hopens, directory_put_append_iff hhere hnone]
          simp only [hlong, not_false_eq_true, ne_eq, reduceCtorEq, true_and]
          tauto
        | some kind =>
          cases kind with
          | file =>
            simp only [ne_eq, not_true_eq_false, false_and, and_false, or_false]
            exact ⟨.inl, fun h => h.elim id hkept⟩
          | directory =>
            have hnext := kind?_eq_directory_iff.mp hkind
            refine (ih hrest hnext).trans ?_
            simp only [hlong, not_false_eq_true, ne_eq, Option.some.injEq, reduceCtorEq, true_and]
            tauto

/-! ### Making the way of a path -/

theorem obstacle?_steps_congr {p : Path} (hcurrent : t.current = s.current)
    (h : s.SameFilesTo t (s.placeOf p)) :
    t.obstacle? (t.start p) p.steps = s.obstacle? (s.start p) p.steps := by
  rw [start_congr hcurrent]
  exact (obstacle?_congr h).symm

theorem result_makeWay {p : Path} (hup : ".." ∉ p.steps) :
    (s.makeWay p).2 = ending ((s.refusal? p).or (s.obstacle? (s.start p) p.steps)) := by
  rw [makeWay]
  cases s.refusal? p with
  | some fault => rfl
  | none => exact result_makeAlong hup (s.get?_start p) fun h => absurd h (by decide)

/-- The locations at which there is a directory once the way of a path has been made as far as it
can be. -/
def Makes (s : Store) (p : Path) (k : Location) : Prop :=
  s.refusal? p = none ∧ s.Opens (s.start p) p.steps k

theorem Makes.on_way {p : Path} (h : s.Makes p k) : k <+: s.placeOf p :=
  h.2.on_way

theorem Makes.congr {p : Path} (hcurrent : t.current = s.current)
    (hlimit : t.pathLimit = s.pathLimit) (h : s.SameFilesTo t (s.placeOf p)) (hk : s.Makes p k) :
    t.Makes p k := by
  refine ⟨(refusal?_congr hlimit p).trans hk.1, ?_⟩
  rw [start_congr hcurrent]
  exact hk.2.congr h

theorem directory_makeWay_iff {p : Path} (hup : ".." ∉ p.steps) :
    (s.makeWay p).1.get? k = some .directory ↔ s.get? k = some .directory ∨ s.Makes p k := by
  rw [makeWay, Makes]
  cases s.refusal? p with
  | some fault => simp
  | none =>
    simp only [true_and]
    exact directory_makeAlong_iff hup (s.get?_start p)

/-! ### Walking the way -/

/-- Kinds agree all the way to a location. -/
def AlikeTo (s t : Store) (l : Location) : Prop :=
  ∀ k, k <+: l → s.kind? k = t.kind? k

theorem walk_congr_of_way {segments : List String} (hup : ".." ∉ Path.counted segments)
    (h : s.AlikeTo t (here ++ Path.counted segments)) :
    s.walk here segments = t.walk here segments := by
  induction segments generalizing here with
  | nil => rfl
  | cons segment rest ih =>
    rw [walk_cons, walk_cons, h here (List.prefix_append ..)]
    by_cases hfiller : Path.isFiller segment = true
    · rw [Path.counted_cons_of_filler hfiller] at hup h
      rw [if_pos hfiller, if_pos hfiller, ih hup h]
    · rw [Path.counted_cons (by simpa using hfiller)] at hup h
      rw [List.append_cons] at h
      have hdown : segment ≠ ".." := (List.ne_of_not_mem_cons hup).symm
      rw [if_neg hfiller, if_neg hfiller, if_neg hdown, if_neg hdown,
        ih (List.not_mem_of_not_mem_cons hup) h]

theorem locate_congr_of_way {p : Path} (hup : ".." ∉ p.steps) (hcurrent : t.current = s.current)
    (hlimit : t.pathLimit = s.pathLimit) (h : s.AlikeTo t (s.placeOf p)) :
    s.locate p = t.locate p := by
  rw [locate, locate, refusal?_congr hlimit, start_congr hcurrent, walk_congr_of_way hup h]

theorem counted_dropSlashes (segments : List String) :
    Path.counted (dropSlashes segments) = Path.counted segments := by
  have hslash : ∀ segment : String, (segment == "") = true → Path.isFiller segment = true := by
    intro segment h
    rw [Path.isFiller, h, Bool.true_or]
  rw [dropSlashes, Path.counted_reverse, Path.counted_dropWhile hslash, Path.counted_reverse,
    List.reverse_reverse]

theorem write_error_iff_of_way {p : Path} {contents : String} {fault : Fault} (hup : ".." ∉ p.steps)
    (hcurrent : t.current = s.current) (hlimit : t.pathLimit = s.pathLimit)
    (h : s.AlikeTo t (s.placeOf p)) :
    s.write p contents = .error fault ↔ t.write p contents = .error fault := by
  have hsegments := counted_dropSlashes p.segments
  have hdown : ".." ∉ Path.counted (dropSlashes p.segments) := hsegments ▸ hup
  have hwalk : s.walk (s.start p) (dropSlashes p.segments) =
      t.walk (s.start p) (dropSlashes p.segments) :=
    walk_congr_of_way hdown (hsegments ▸ h)
  rw [write, write, refusal?_congr hlimit, start_congr hcurrent, ← hwalk]
  cases s.refusal? p with
  | some fault => exact Iff.rfl
  | none =>
    cases hl : s.walk (s.start p) (dropSlashes p.segments) with
    | error fault => exact Iff.rfl
    | ok l =>
      obtain rfl : l = s.placeOf p := by
        rw [walk_end hdown hl, hsegments]
        rfl
      have hkind := h _ (List.prefix_refl _)
      have hparent := h _ (List.dropLast_prefix _)
      have hdir :
          s.get? (s.placeOf p) = some .directory ↔ t.get? (s.placeOf p) = some .directory := by
        rw [← kind?_eq_directory_iff, hkind, kind?_eq_directory_iff]
      have hplace : s.Placeable (s.placeOf p) ↔ t.Placeable (s.placeOf p) := by
        rw [placeable_iff, placeable_iff, hkind, hparent]
      simp only [hdir, hplace]
      split_ifs <;> simp

end Stencil.Store
