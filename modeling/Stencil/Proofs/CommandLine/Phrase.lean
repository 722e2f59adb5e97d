import Mathlib.Data.List.Nodup
import Stencil.Session

/-! What is said after the command, phrase by phrase. Values are taken in their order, whatever
stands between them, and of the rest only matters what is said and how often. Reading a phrase adds
what it says to what has been said, except that a root given in two words is held back until
something follows it. -/

namespace Stencil.CommandLine

/-! ### Phrases -/

/-- Something said after the command. A root is given in one word or in two that stay together. -/
inductive Phrase where
  | value (text : String)
  | root (path : String) (attached : Bool)
  | pretend
  | skipSpec
  | quiet
  | verbose
deriving DecidableEq, Repr

/-- What may be said once only. -/
inductive Single where
  | root
  | pretend
  | skipSpec
  | quiet
deriving DecidableEq, Repr

namespace Phrase

def words : Phrase → List String
  | value text => [text]
  | root path true => ["--root=" ++ path]
  | root path false => ["--root", path]
  | pretend => ["--pretend"]
  | skipSpec => ["--skip-spec"]
  | quiet => ["-q"]
  | verbose => ["-v"]

/-- The words of the phrase are read as they are meant. A value in a word of its own begins with a
dash only if it is one. -/
def Readable : Phrase → Prop
  | value text => text = "-" ∨ text.toList.head? ≠ some '-'
  | root path attached => path ≠ "" ∧ (attached = false → path.toList.head? ≠ some '-')
  | _ => True

def value? : Phrase → Option String
  | value text => some text
  | _ => none

def root? : Phrase → Option String
  | root path _ => some path
  | _ => none

def single? : Phrase → Option Single
  | root .. => some .root
  | pretend => some .pretend
  | skipSpec => some .skipSpec
  | quiet => some .quiet
  | _ => none

def flag? : Phrase → Option Flag
  | pretend => some .pretend
  | skipSpec => some .skipSpec
  | quiet => some .quiet
  | verbose => some .verbose
  | _ => none

/-- Whether the phrase is about how much is to be told. -/
def isLoudness : Phrase → Bool
  | quiet | verbose => true
  | _ => false

end Phrase

variable {text path : String} {x : Phrase} {phrases : List Phrase} {flag : Flag}
  {position : Position}

theorem ofText_of_readable (h : (Phrase.value text).Readable) :
    Argument.ofText text = .value text := by
  rcases h with rfl | hhead
  · decide
  · unfold Argument.ofText
    cases hlist : text.toList with
    | nil => rfl
    | cons c cs =>
      rw [hlist, List.head?_cons, ne_eq, Option.some.injEq] at hhead
      split <;> simp_all

theorem ofText_attached (path : String) :
    Argument.ofText ("--root=" ++ path) = .long "root" (some path) := by
  have hlist : ("--root=" ++ path).toList =
      '-' :: '-' :: ("root".toList ++ '=' :: path.toList) := by
    rw [String.toList_append]
    rfl
  unfold Argument.ofText
  rw [hlist]
  show Argument.long (String.ofList (Text.cut '=' ("root".toList ++ '=' :: path.toList)).1)
    ((Text.cut '=' ("root".toList ++ '=' :: path.toList)).2.map String.ofList) = _
  rw [Text.cut_append (by decide), String.ofList_toList, Option.map_some, String.ofList_toList]

/-! ### What has been said -/

namespace Given

variable {g h : Given}

def has (g : Given) : Single → Bool
  | .root => g.root.isSome
  | .pretend => g.pretend
  | .skipSpec => g.skipSpec
  | .quiet => g.quiet

def add (g : Given) : Phrase → Given
  | .value text => { g with values := g.values ++ [text] }
  | .root path _ => { g with root := g.root.or (some path) }
  | .pretend => { g with pretend := true }
  | .skipSpec => { g with skipSpec := true }
  | .quiet => { g with quiet := true }
  | .verbose => { g with verbose := min verboseLimit (g.verbose + 1) }

theorem pending_add (g : Given) (x : Phrase) : (g.add x).pending = g.pending := by
  cases x <;> rfl

theorem has_add (g : Given) (x : Phrase) (single : Single) :
    (g.add x).has single = (g.has single || x.single? == some single) := by
  cases x <;> cases single <;> simp [add, has, Phrase.single?]

/-- What a list of phrases adds. -/
theorem foldl_add (phrases : List Phrase) (g : Given) (hg : g.verbose ≤ verboseLimit) :
    phrases.foldl add g =
      { values := g.values ++ phrases.filterMap Phrase.value?
        root := g.root.or (phrases.findSome? Phrase.root?)
        pending := g.pending
        pretend := g.pretend || phrases.contains .pretend
        skipSpec := g.skipSpec || phrases.contains .skipSpec
        verbose := min verboseLimit (g.verbose + phrases.count .verbose)
        quiet := g.quiet || phrases.contains .quiet } := by
  induction phrases generalizing g with
  | nil => simp [hg]
  | cons x rest ih =>
    have hadd : (g.add x).verbose ≤ verboseLimit := by
      cases x with
      | verbose => exact Nat.min_le_left _ _
      | _ => exact hg
    rw [List.foldl_cons, ih _ hadd]
    have hcount : ∀ c, min verboseLimit (min verboseLimit (g.verbose + 1) + c) =
        min verboseLimit (g.verbose + (c + 1)) := by
      intro c
      omega
    cases x <;> simp [add, List.filterMap_cons, List.findSome?_cons, Phrase.value?, Phrase.root?,
      hcount]

/-- None of the phrases says again what may be said once only. -/
structure HasRoom (g : Given) (phrases : List Phrase) : Prop where
  once : (phrases.filterMap Phrase.single?).Nodup
  free : ∀ single ∈ phrases.filterMap Phrase.single?, g.has single = false

theorem HasRoom.first (hroom : g.HasRoom (x :: phrases)) :
    ∀ single ∈ x.single?, g.has single = false := by
  intro single hsingle
  exact hroom.free single (List.mem_filterMap.mpr ⟨x, List.mem_cons_self, hsingle⟩)

theorem HasRoom.rest (hroom : g.HasRoom (x :: phrases)) : (g.add x).HasRoom phrases := by
  obtain ⟨honce, hfree⟩ := hroom
  refine ⟨honce.sublist ((List.sublist_cons_self x phrases).filterMap _), ?_⟩
  intro single hsingle
  have hold : g.has single = false := by
    obtain ⟨y, hy, hys⟩ := List.mem_filterMap.mp hsingle
    exact hfree single (List.mem_filterMap.mpr ⟨y, List.mem_cons_of_mem _ hy, hys⟩)
  -- were it the first phrase's own, it would be said twice
  have hnew : x.single? ≠ some single := by
    intro hx
    rw [List.filterMap_cons_some hx, List.nodup_cons] at honce
    exact honce.1 hsingle
  rw [has_add, hold]
  simpa using hnew

theorem hasRoom_nothing (honce : (phrases.filterMap Phrase.single?).Nodup) :
    ({} : Given).HasRoom phrases where
  once := honce
  free single _ := by cases single <;> rfl

/-! ### Reading a phrase -/

theorem settle_of_nothing (hg : g.pending = .nothing) : g.settle = .ok g := by
  unfold settle
  rw [hg]

theorem pending_of_settle (hg : g.settle = .ok h) : h.pending = .nothing := by
  unfold settle at hg
  split at hg
  · rename_i hpending
    exact Except.ok.inj hg ▸ hpending
  · contradiction
  · split_ifs at hg
    rw [← Except.ok.inj hg]

theorem takeValue_of_settle (hg : g.settle = .ok h) (text : String) :
    g.takeValue text = .ok (h.add (.value text)) := by
  unfold takeValue
  cases hpending : g.pending with
  | awaiting =>
    rw [settle, hpending] at hg
    contradiction
  | nothing | received =>
    rw [hg]
    rfl

/-- A root that has been received counts once it is settled. -/
theorem settle_received (hg : g.pending = .nothing) (hroot : g.root = none) (hpath : path ≠ "")
    (attached : Bool) :
    { g with pending := .received path }.settle = .ok (g.add (.root path attached)) := by
  unfold settle
  simp [hroot, hpath, add, hg]

theorem raise_flag (hflag : x.flag? = some flag)
    (hfree : ∀ single ∈ x.single?, g.has single = false) (position : Position) :
    g.raise position flag = .ok (g.add x) := by
  cases x with
  | value | root => contradiction
  | verbose =>
    obtain rfl := Option.some.inj hflag
    rfl
  | pretend | skipSpec | quiet =>
    obtain rfl := Option.some.inj hflag
    have hnot := hfree _ rfl
    unfold has at hnot
    unfold raise
    simp [hnot, add]

theorem setFlag_of_settle (hg : g.settle = .ok h) (hflag : x.flag? = some flag)
    (hfree : ∀ single ∈ x.single?, h.has single = false) (position : Position) :
    g.setFlag position flag = .ok (h.add x) := by
  unfold setFlag
  rw [hg]
  exact raise_flag hflag hfree position

theorem setLetters_singleton {c : Char} (hc : Flag.ofLetter? position c = some flag) (g : Given) :
    setLetters position [c] g = g.setFlag position flag := by
  unfold setLetters
  rw [hc]
  show (g.setFlag position flag).bind (setLetters position []) = _
  cases g.setFlag position flag <;> rfl

theorem generate_flag (hflag : x.flag? = some flag) (g : Given) (rest : List String) :
    g.generate (x.words ++ rest) = (g.setFlag .generate flag).bind (generate · rest) := by
  cases x with
  | value | root => contradiction
  | pretend | skipSpec =>
    obtain rfl := Option.some.inj hflag
    rfl
  | quiet =>
    obtain rfl := Option.some.inj hflag
    rw [← setLetters_singleton (c := 'q') rfl]
    rfl
  | verbose =>
    obtain rfl := Option.some.inj hflag
    rw [← setLetters_singleton (c := 'v') rfl]
    rfl

/-- One phrase is read from any state that settles to what has been said so far, and leaves one that
settles to that and the phrase. -/
theorem generate_phrase (hg : g.settle = .ok h) (hread : x.Readable)
    (hfree : ∀ single ∈ x.single?, h.has single = false) :
    ∃ g' : Given, g'.settle = .ok (h.add x) ∧
      ∀ rest, g.generate (x.words ++ rest) = g'.generate rest := by
  have hpending := pending_of_settle hg
  have hsettled : (h.add x).settle = .ok (h.add x) := by
    apply settle_of_nothing
    rw [pending_add, hpending]
  cases hflag : x.flag? with
  | some flag =>
    refine ⟨h.add x, hsettled, fun rest => ?_⟩
    rw [generate_flag hflag, setFlag_of_settle hg hflag hfree]
    rfl
  | none =>
    cases x with
    | pretend | skipSpec | quiet | verbose => contradiction
    | value text =>
      refine ⟨h.add (.value text), hsettled, fun rest => ?_⟩
      show g.generate (text :: rest) = _
      rw [generate, ofText_of_readable hread]
      show (g.takeValue text).bind (generate · rest) = _
      rw [takeValue_of_settle hg]
      rfl
    | root path attached =>
      obtain ⟨hpath, hdash⟩ := hread
      have hroot : h.root = none := by simpa [has] using hfree .root rfl
      cases attached with
      | true =>
        refine ⟨h.add (.root path true), hsettled, fun rest => ?_⟩
        show g.generate (("--root=" ++ path) :: rest) = _
        rw [generate, ofText_attached]
        show (g.setRoot (some path)).bind (generate · rest) = _
        rw [setRoot, hg]
        show ({ h with pending := .received path }.settle).bind (generate · rest) = _
        rw [settle_received hpending hroot hpath true]
        rfl
      | false =>
        -- the second word is taken whatever follows, and settled by what follows
        refine ⟨{ h with pending := .received path }, settle_received hpending hroot hpath false,
          fun rest => ?_⟩
        have hvalue := ofText_of_readable (.inr (hdash rfl))
        show g.generate ("--root" :: path :: rest) = _
        rw [generate, show Argument.ofText "--root" = .long "root" none by decide]
        show (g.setRoot none).bind (generate · (path :: rest)) = _
        rw [setRoot, hg]
        show generate { h with pending := .awaiting } (path :: rest) = _
        rw [generate, hvalue]
        rfl

theorem generate_phrases (hg : g.settle = .ok h) (hread : ∀ x ∈ phrases, x.Readable)
    (hroom : h.HasRoom phrases) :
    ∃ g' : Given, g'.settle = .ok (phrases.foldl add h) ∧
      ∀ rest, g.generate (phrases.flatMap Phrase.words ++ rest) = g'.generate rest := by
  induction phrases generalizing g h with
  | nil => exact ⟨g, hg, fun _ => rfl⟩
  | cons x phrases ih =>
    rw [List.forall_mem_cons] at hread
    obtain ⟨g₁, hg₁, hfirst⟩ := generate_phrase hg hread.1 hroom.first
    obtain ⟨g₂, hg₂, hafter⟩ := ih hg₁ hread.2 hroom.rest
    refine ⟨g₂, hg₂, fun rest => ?_⟩
    rw [List.flatMap_cons, List.append_assoc, hfirst, hafter]

end Given

/-! ### Whole command lines -/

/-- Phrases, and after an escape values as they are. -/
def spoken (phrases : List Phrase) (escaped : Option (List String)) : List String :=
  phrases.flatMap Phrase.words ++ escaped.elim [] ("--" :: ·)

variable {ahead : List Phrase} {escaped : Option (List String)} {i : Invocation}

theorem generate_spoken (hread : ∀ x ∈ phrases, x.Readable)
    (honce : (phrases.filterMap Phrase.single?).Nodup) (escaped : Option (List String)) :
    ({} : Given).generate (spoken phrases escaped) =
      .ok { phrases.foldl Given.add {} with
        values := phrases.filterMap Phrase.value? ++ escaped.getD [] } := by
  have hvalues : (phrases.foldl Given.add {}).values = phrases.filterMap Phrase.value? := by
    rw [Given.foldl_add phrases {} (Nat.zero_le _)]
    rfl
  obtain ⟨g, hg, hspoken⟩ :=
    Given.generate_phrases (Given.settle_of_nothing rfl) hread (Given.hasRoom_nothing honce)
  rw [spoken, hspoken, ← hvalues]
  cases escaped with
  | none =>
    show g.settle = _
    rw [hg, Option.getD_none, List.append_nil]
  | some rest =>
    show g.generate ("--" :: rest) = _
    rw [Given.generate, show Argument.ofText "--" = .escape by decide]
    show g.settle.map _ = _
    rw [hg]
    rfl

theorem readFrom_phrase {g : Given} (hg : g.pending = .nothing) (hx : x.isLoudness = true)
    (hfree : ∀ single ∈ x.single?, g.has single = false) (rest : List String) :
    readFrom g (x.words ++ rest) = readFrom (g.add x) rest := by
  cases x with
  | value | root | pretend | skipSpec => contradiction
  | quiet =>
    show (g.setLetters .program ['q']).bind (readFrom · rest) = _
    rw [Given.setLetters_singleton rfl,
      Given.setFlag_of_settle (Given.settle_of_nothing hg) rfl hfree]
    rfl
  | verbose =>
    show (g.setLetters .program ['v']).bind (readFrom · rest) = _
    rw [Given.setLetters_singleton rfl,
      Given.setFlag_of_settle (Given.settle_of_nothing hg) rfl hfree]
    rfl

theorem readFrom_phrases {g : Given} (hg : g.pending = .nothing)
    (hahead : ∀ x ∈ ahead, x.isLoudness = true) (hroom : g.HasRoom ahead) (rest : List String) :
    readFrom g (ahead.flatMap Phrase.words ++ rest) = readFrom (ahead.foldl Given.add g) rest := by
  induction ahead generalizing g with
  | nil => rfl
  | cons x ahead ih =>
    rw [List.forall_mem_cons] at hahead
    have hnext : (g.add x).pending = .nothing := by
      rw [Given.pending_add, hg]
    rw [List.flatMap_cons, List.append_assoc, readFrom_phrase hg hahead.1 hroom.first,
      ih hnext hahead.2 hroom.rest, List.foldl_cons]

theorem readFrom_generate (g : Given) (rest : List String) :
    readFrom g ("generate" :: rest) = (Given.generate {} rest).bind (Given.invocation g) :=
  rfl

/-- What is asked for by phrases of which some stand ahead of the command. -/
theorem read_spoken (hahead : ∀ x ∈ ahead, x.isLoudness = true)
    (honce : (ahead.filterMap Phrase.single?).Nodup) (hread : ∀ x ∈ phrases, x.Readable)
    (honce' : (phrases.filterMap Phrase.single?).Nodup)
    (hvalues : phrases.filterMap Phrase.value? ++ escaped.getD [] = i.name :: i.attributes) :
    read (ahead.flatMap Phrase.words ++ "generate" :: spoken phrases escaped) =
      .ok { i with
        root := (phrases.findSome? Phrase.root?).getD "."
        pretend := phrases.contains .pretend
        skipSpec := phrases.contains .skipSpec
        verbose := if phrases.count .verbose = 0 then min verboseLimit (ahead.count .verbose)
          else min verboseLimit (phrases.count .verbose)
        quiet := ahead.contains .quiet || phrases.contains .quiet } := by
  have hzero : min verboseLimit (phrases.count .verbose) = 0 ↔ phrases.count .verbose = 0 := by
    rw [verboseLimit]
    omega
  rw [read, readFrom_phrases rfl hahead (Given.hasRoom_nothing honce), readFrom_generate,
    generate_spoken hread honce', hvalues]
  rw [Given.foldl_add ahead {} (Nat.zero_le _), Given.foldl_add phrases {} (Nat.zero_le _)]
  simp [Except.bind, Given.invocation, hzero]

/-- The invocation that phrases and escaped values mean. -/
structure Means (phrases : List Phrase) (escaped : Option (List String)) (i : Invocation) :
    Prop where
  readable : ∀ x ∈ phrases, x.Readable
  once : (phrases.filterMap Phrase.single?).Nodup
  values : phrases.filterMap Phrase.value? ++ escaped.getD [] = i.name :: i.attributes
  root : i.root = (phrases.findSome? Phrase.root?).getD "."
  pretend : i.pretend = phrases.contains .pretend
  skipSpec : i.skipSpec = phrases.contains .skipSpec
  quiet : i.quiet = phrases.contains .quiet
  verbose : i.verbose = min 255 (phrases.count .verbose)

theorem read_of_means (h : Means phrases escaped i) :
    read ("generate" :: spoken phrases escaped) = .ok i := by
  have hahead : ∀ x ∈ ([] : List Phrase), x.isLoudness = true := List.forall_mem_nil _
  have hread := read_spoken hahead List.nodup_nil h.readable h.once h.values
  have hverbose : (if phrases.count .verbose = 0 then min verboseLimit 0
      else min verboseLimit (phrases.count .verbose)) = i.verbose := by
    rw [h.verbose]
    split_ifs with hzero
    · rw [hzero]
      rfl
    · rfl
  rw [List.flatMap_nil, List.nil_append, List.count_nil, hverbose, List.contains_nil,
    Bool.false_or, ← h.root, ← h.pretend, ← h.skipSpec, ← h.quiet] at hread
  exact hread

theorem read_of_means_ahead (h : Means phrases escaped i)
    (hahead : ahead.Perm (phrases.filter Phrase.isLoudness)) :
    read (ahead.flatMap Phrase.words ++
      "generate" :: spoken (phrases.filter (!·.isLoudness)) escaped) = .ok i := by
  have hloud : ∀ x ∈ ahead, x.isLoudness = true := by
    intro x hx
    exact (List.mem_filter.mp (hahead.mem_iff.mp hx)).2
  have honce : (ahead.filterMap Phrase.single?).Nodup := by
    rw [(hahead.filterMap _).nodup_iff]
    exact h.once.sublist (List.filter_sublist.filterMap _)
  have honce' : ((phrases.filter (!·.isLoudness)).filterMap Phrase.single?).Nodup :=
    h.once.sublist (List.filter_sublist.filterMap _)
  have hread : ∀ x ∈ phrases.filter (!·.isLoudness), x.Readable := fun x hx =>
    h.readable x (List.mem_filter.mp hx).1
  have hvalues : (phrases.filter (!·.isLoudness)).filterMap Phrase.value? =
      phrases.filterMap Phrase.value? := by
    rw [List.filterMap_filter]
    congr 1
    funext x
    cases x <;> rfl
  have hroot : (phrases.filter (!·.isLoudness)).findSome? Phrase.root? =
      phrases.findSome? Phrase.root? := by
    rw [← List.head?_filterMap, ← List.head?_filterMap, List.filterMap_filter]
    congr 2
    funext x
    cases x <;> rfl
  have hverbose : (phrases.filter (!·.isLoudness)).count .verbose = 0 := by
    simp [List.count_eq_zero, Phrase.isLoudness]
  have hcount : ahead.count .verbose = phrases.count .verbose := by
    rw [hahead.count_eq, List.count_filter rfl]
  have hcontains : ∀ x : Phrase, x.isLoudness = false →
      (phrases.filter (!·.isLoudness)).contains x = phrases.contains x := by
    intro x hx
    simp [hx]
  have hquiet : (ahead.contains .quiet ||
      (phrases.filter (!·.isLoudness)).contains .quiet) = phrases.contains .quiet := by
    simp [hahead.mem_iff, Phrase.isLoudness]
  rw [read_spoken hloud honce hread honce' (hvalues ▸ h.values), hroot, hverbose, hcount, hquiet,
    hcontains .pretend rfl, hcontains .skipSpec rfl, ← h.root, ← h.pretend, ← h.skipSpec, ← h.quiet,
    if_pos rfl, show min verboseLimit (phrases.count .verbose) = i.verbose from h.verbose.symm]

/-- Phrases are read as what they mean, in whatever order they stand, and it does not matter whether
those about how much is to be told come before the command or after it. -/
theorem phrases_are_read_as_meant (h : Means phrases escaped i) :
    read ("generate" :: spoken phrases escaped) = .ok i ∧
      i.request.target :: i.request.definitions =
        phrases.filterMap Phrase.value? ++ escaped.getD [] ∧
      ∀ ahead : List Phrase, ahead.Perm (phrases.filter Phrase.isLoudness) →
        read (ahead.flatMap Phrase.words ++
          "generate" :: spoken (phrases.filter (!·.isLoudness)) escaped) = .ok i :=
  ⟨read_of_means h, h.values.symm, fun _ => read_of_means_ahead h⟩

theorem scattered_phrases_are_read_as_meant :
    let phrases : List Phrase := [.verbose, .value "pay", .root "lib" false, .quiet, .value "-",
      .pretend, .verbose]
    let escaped := some ["--root", ""]
    let i : Invocation := ⟨"pay", ["-", "--root", ""], "lib", true, false, 2, true⟩
    Means phrases escaped i ∧
      read ["generate", "-v", "pay", "--root", "lib", "-q", "-", "--pretend", "-v", "--", "--root",
        ""] = .ok i ∧
      read ["-v", "-q", "-v", "generate", "pay", "--root", "lib", "-", "--pretend", "--", "--root",
        ""] = .ok i := by
  intro phrases escaped i
  have hmeans : Means phrases escaped i := by
    constructor
    case readable => simp [phrases, Phrase.Readable]
    all_goals decide
  obtain ⟨hread, -, hahead⟩ := phrases_are_read_as_meant hmeans
  exact ⟨hmeans, hread, hahead [.verbose, .quiet, .verbose] (by decide)⟩

end Stencil.CommandLine
