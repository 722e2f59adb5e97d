import Stencil.Proofs.Execution.Stub

/-! What keeps a file from being written. On a path without NUL, steps up and long names only two
things can: a file where there should be a directory, and a directory at the place of the file
itself. Once the directory is there and the place can be read, or is found to be empty, writing goes
through. -/

namespace Stencil

/-! ### Paths without fault -/

/-- A path that no store refuses for its text: no NUL in it, no step up, no name too long. -/
structure Path.Plain (p : Path) : Prop where
  free : '\x00' ∉ p.text.toList
  down : ".." ∉ p.steps
  short : ∀ step ∈ p.steps, step.utf8ByteSize ≤ Store.nameLimit

namespace Path.Plain

variable {p q dir : Path} {name stem : String}

theorem join (hp : p.Plain) (hq : q.Plain) : (p.join q).Plain := by
  constructor
  case free =>
    intro hmem
    rcases mem_text_join hmem with hleft | hslash | hright
    · exact hp.free hleft
    · exact absurd hslash (by decide)
    · exact hq.free hright
  case down =>
    exact fun hmem => (mem_steps_join hmem).elim hp.down hq.down
  case short =>
    exact fun step hmem => (mem_steps_join hmem).elim (hp.short step) (hq.short step)

theorem inside (hp : p.Plain) (h : p.Inside dir name) : dir.Plain := by
  obtain ⟨hfree, hdown, hshort⟩ := hp
  rw [h.text_eq] at hfree
  rw [h.steps] at hdown hshort
  exact ⟨fun hmem => hfree (by simp [String.toList_append, hmem]),
    fun hmem => hdown (List.mem_append_left _ hmem),
    fun step hmem => hshort step (List.mem_append_left _ hmem)⟩

theorem of_stem (h : IsStem stem) (hshort : stem.utf8ByteSize ≤ 252) :
    (Path.mk (stem ++ "." ++ "rs")).Plain := by
  have hext : (Path.mk "rs").segments = ["rs"] := by decide
  have hsteps : (Path.mk (stem ++ "." ++ "rs")).steps = [stem ++ "." ++ "rs"] := h.steps hext
  constructor
  case free =>
    intro hmem
    simp only [String.toList_append, List.mem_append, or_assoc] at hmem
    rcases hmem with hstem | hafter
    · exact absurd (List.all_eq_true.mp h.2 _ hstem) (by decide)
    · exact absurd hafter (by decide)
  case down =>
    exact h.not_up (by decide)
  case short =>
    intro step hmem
    rw [hsteps, List.mem_singleton] at hmem
    rw [hmem, String.utf8ByteSize_append, String.utf8ByteSize_append]
    have hdot : ".".utf8ByteSize = 1 := by decide
    have hrs : "rs".utf8ByteSize = 2 := by decide
    rw [Store.nameLimit]
    omega

end Path.Plain

namespace Store

variable {s : Store} {p dir : Path} {name : String}

theorem refusal?_eq_none (hs : s.pathLimit = none) (hp : p.Plain) (hne : p.text ≠ "") :
    s.refusal? p = none := by
  have hnul : p.text.toList.contains '\x00' = false := by simpa using hp.free
  rw [refusal?, if_neg (by rw [hnul]; decide), if_neg hne, hs]
  rfl

theorem placeOf_inside (h : p.Inside dir name) (s : Store) :
    s.placeOf p = s.placeOf dir ++ [name] := by
  rw [placeOf, placeOf, start, start, Path.isAbsolute_of_parent h.parent?_eq, h.steps,
    List.append_assoc]

theorem locate_inside (hs : s.pathLimit = none) (hp : p.Plain) (h : p.Inside dir name)
    (hdir : s.isDirectory dir = true) : s.locate p = .ok (s.placeOf p) := by
  obtain ⟨l, hl, hdirectory⟩ := isDirectory_iff.mp hdir
  have hplace := locate_eq_placeOf (hp.inside h).down hl
  have hstart : s.start p = s.start dir := by
    rw [start, start, Path.isAbsolute_of_parent h.parent?_eq]
  have hname : name ∈ p.steps := by simp [h.steps]
  have hdown : name ≠ ".." := fun heq => hp.down (heq ▸ hname)
  have hshort := hp.short name hname
  have hne : p.text ≠ "" := by simp [h.text_eq]
  rw [locate, refusal?_eq_none hs (hp.inside h) h.text_ne] at hl
  simp only at hl
  rw [locate, refusal?_eq_none hs hp hne, placeOf_inside h, ← hplace, h.segments, hstart]
  simp only [walk_append, hl, Except.bind]
  rw [walk, hdirectory]
  simp only [h.counts, Bool.false_eq_true, if_false, if_neg hdown]
  rw [if_neg (by omega), walk]

/-- How a store keeps a file out of a directory: by a file on the way, or by a directory in place
of the file. -/
inductive KeepsOut (s : Store) (dir p : Path) : Failure → Prop
  | barred (h : s.Barred (s.placeOf dir)) :
    KeepsOut s dir p (.refused .createDirectory dir (s.barrier (s.placeOf dir)))
  | taken (hfree : ¬ s.Barred (s.placeOf dir)) (h : s.get? (s.placeOf p) = some .directory) :
    KeepsOut s dir p (.refused .read p .isADirectory)

theorem not_keepsOut_iff : (∀ e, ¬ s.KeepsOut dir p e) ↔
    ¬ s.Barred (s.placeOf dir) ∧ s.get? (s.placeOf p) ≠ some .directory := by
  constructor
  · intro h
    have hfree : ¬ s.Barred (s.placeOf dir) := fun hbarred => h _ (.barred hbarred)
    exact ⟨hfree, fun hdir => h _ (.taken hfree hdir)⟩
  · intro h e hout
    cases hout with
    | barred hbarred => exact h.1 hbarred
    | taken _ hdir => exact h.2 hdir

end Store

/-! ### A single file -/

namespace PlannedFile

variable {f : PlannedFile} {s : Store} {dir : Path} {name : String} {l : Location} {e : Failure}

theorem result_write_of_locate (hlocate : s.locate f.path = .ok l)
    (hslash : f.path.segments.getLast? ≠ some "") (hne : l ≠ [])
    (hparent : s.get? l.dropLast = some .directory) :
    (f.write s).result =
      if s.get? l = some .directory then .error (.refused .read f.path .isADirectory)
      else .ok (f.path, .over (s.get? l) f.contents) := by
  rw [write]
  split_ifs with hdir
  · rw [Store.statusOf, Store.read, hlocate]
    simp only [hdir]
    rfl
  · rw [Store.statusOf_of_locate _ hlocate hdir,
      Store.write_eq_ok_iff.mpr ⟨hslash, l, hlocate, ⟨hne, hparent, hdir⟩, rfl⟩]

/-- What becomes of a file in a directory: the making of the directory can be refused, or the
reading of a directory that has the file's place. -/
theorem result_install_inside (hs : s.pathLimit = none) (hp : f.path.Plain)
    (h : f.path.Inside dir name) :
    (f.install s).result =
      match s.obstacle? (s.start dir) dir.steps with
      | some fault => .error (.refused .createDirectory dir fault)
      | none =>
        if s.get? (s.placeOf f.path) = some .directory then
          .error (.refused .read f.path .isADirectory)
        else .ok (f.path, .over (s.get? (s.placeOf f.path)) f.contents) := by
  have hhome : f.path.home? = some dir := by
    simp [Path.home?, h.parent?_eq, h.text_ne]
  have hdir := hp.inside h
  have hway : (s.makeWay dir).2 = Store.ending (s.obstacle? (s.start dir) dir.steps) := by
    rw [Store.result_makeWay hdir.down, Store.refusal?_eq_none hs hdir h.text_ne, Option.none_or]
  rw [result_install, (ensureParent_of_home hhome s).2]
  cases hobstacle : s.obstacle? (s.start dir) dir.steps with
  | some fault =>
    rw [hway, hobstacle]
    rfl
  | none =>
    rw [hobstacle] at hway
    have hok : (f.ensureParent s).result.isOk = true := by
      rw [isOk_ensureParent hhome, hway]
      rfl
    have hwide := widensTo_ensureParent f s
    have hplace : (f.ensureParent s).store.placeOf f.path = s.placeOf f.path :=
      Store.placeOf_congr hwide.current f.path
    have hthere : (f.ensureParent s).store.isDirectory dir = true := by
      rw [(ensureParent_of_home hhome s).1]
      exact Store.isDirectory_of_makeWay hway
    have hlocate := Store.locate_inside (hwide.pathLimit.trans hs) hp h hthere
    have hslash : f.path.segments.getLast? ≠ some "" := by
      rw [h.segments, List.getLast?_concat]
      rintro ⟨⟩
      exact absurd h.counts (by decide)
    have haround : (s.placeOf f.path).dropLast = s.start f.path ++ f.path.steps.dropLast := by
      rw [Store.placeOf, h.steps, List.dropLast_concat, ← List.append_assoc, List.dropLast_concat]
    have hparent : (f.ensureParent s).store.get? (s.placeOf f.path).dropLast = some .directory :=
      get?_around_of_ensureParent hp.down hok (haround ▸ List.prefix_refl _)
    rw [hway]
    show (f.write (f.ensureParent s).store).result = _
    rw [hplace] at hlocate
    rw [result_write_of_locate hlocate hslash (by simp [Store.placeOf_inside h]) hparent,
      get?_place_ensureParent hp.down]

theorem install_eq_error_iff (hs : s.pathLimit = none) (hp : f.path.Plain)
    (h : f.path.Inside dir name) :
    (f.install s).result = .error e ↔ s.KeepsOut dir f.path e := by
  have hway : ∀ fault, s.obstacle? (s.start dir) dir.steps = some fault ↔
      s.Barred (s.placeOf dir) ∧ fault = s.barrier (s.placeOf dir) := fun fault =>
    Store.obstacle?_eq_some_iff (Store.not_barred_of_directory (s.get?_start dir))
      (hp.inside h).short fun step hstep => by simpa using (List.mem_filter.mp hstep).2
  rw [result_install_inside hs hp h]
  cases hobstacle : s.obstacle? (s.start dir) dir.steps with
  | some fault =>
    obtain ⟨hbarred, rfl⟩ := (hway fault).mp hobstacle
    constructor
    · rintro ⟨⟩
      exact .barred hbarred
    · rintro (_ | ⟨hfree, -⟩)
      · rfl
      · exact absurd hbarred hfree
  | none =>
    have hfree : ¬ s.Barred (s.placeOf dir) := fun hbarred => by
      rw [(hway _).mpr ⟨hbarred, rfl⟩] at hobstacle
      contradiction
    constructor
    · intro herror
      simp only at herror
      split_ifs at herror with hdir
      rw [← Except.error.inj herror]
      exact .taken hfree hdir
    · rintro (hbarred | ⟨-, hdir⟩)
      · exact absurd hbarred hfree
      · exact if_pos hdir

theorem isOk_install_iff (hs : s.pathLimit = none) (hp : f.path.Plain)
    (h : f.path.Inside dir name) :
    (f.install s).result.isOk = true ↔ ∀ e, ¬ s.KeepsOut dir f.path e := by
  simp only [← install_eq_error_iff hs hp h]
  cases (f.install s).result with
  | error e => simp [Except.isOk, Except.toBool]
  | ok entry => simp [Except.isOk, Except.toBool]

end PlannedFile

/-! ### The files of a project -/

namespace Layout

/-- There is a file above the place of the source. -/
def SourceBarred (layout : Layout) (target : String) (s : Store) : Prop :=
  ∃ k, k <+: s.placeOf (layout.sourcePath target) ∧ k ≠ s.placeOf (layout.sourcePath target) ∧
    s.kind? k = some .file

def SourceTaken (layout : Layout) (target : String) (s : Store) : Prop :=
  s.get? (s.placeOf (layout.sourcePath target)) = some .directory

/-- There is a file at the place of the directory of the test stubs. -/
def StubBarred (layout : Layout) (s : Store) : Prop :=
  s.kind? (s.placeOf (layout.root.join layout.testDir)) = some .file

def StubTaken (layout : Layout) (target : String) (s : Store) : Prop :=
  s.get? (s.placeOf (layout.testPath target)) = some .directory

/-- What a generation fails with that meets something in its way, in the order in which things are
met. The stub is in question only where one is wanted. -/
inductive Hindrance (layout : Layout) (target : String) (stub : Bool) (s : Store) : Failure → Prop
  | sourceBarred (h : layout.SourceBarred target s) :
    Hindrance layout target stub s (.refused .createDirectory (layout.root.join layout.sourceDir)
      (s.barrier (s.placeOf (layout.root.join layout.sourceDir))))
  | sourceTaken (hfree : ¬ layout.SourceBarred target s) (h : layout.SourceTaken target s) :
    Hindrance layout target stub s
      (.refused .read (layout.sourcePath target) .isADirectory)
  | stubBarred (hfree : ¬ layout.SourceBarred target s) (hfree' : ¬ layout.SourceTaken target s)
    (hstub : stub = true) (h : layout.StubBarred s) :
    Hindrance layout target stub s
      (.refused .createDirectory (layout.root.join layout.testDir) .alreadyExists)
  | stubTaken (hfree : ¬ layout.SourceBarred target s) (hfree' : ¬ layout.SourceTaken target s)
    (hstub : stub = true) (hfree'' : ¬ layout.StubBarred s) (h : layout.StubTaken target s) :
    Hindrance layout target stub s (.refused .read (layout.testPath target) .isADirectory)

variable {layout : Layout} {root : Path} {target stem : String} {stub : Bool} {s : Store}
  {e : Failure}

theorem exists_hindrance_iff :
    (∃ e, layout.Hindrance target stub s e) ↔
      layout.SourceBarred target s ∨ layout.SourceTaken target s ∨
        stub = true ∧ layout.StubBarred s ∨ stub = true ∧ layout.StubTaken target s := by
  constructor
  · rintro ⟨e, h⟩
    cases h with
    | sourceBarred h => exact .inl h
    | sourceTaken _ h => exact .inr (.inl h)
    | stubBarred _ _ hstub h => exact .inr (.inr (.inl ⟨hstub, h⟩))
    | stubTaken _ _ hstub _ h => exact .inr (.inr (.inr ⟨hstub, h⟩))
  · intro h
    by_cases hsource : layout.SourceBarred target s
    · exact ⟨_, .sourceBarred hsource⟩
    by_cases htaken : layout.SourceTaken target s
    · exact ⟨_, .sourceTaken hsource htaken⟩
    by_cases hbarred : layout.StubBarred s
    · rcases h.resolve_left hsource |>.resolve_left htaken with ⟨hstub, -⟩ | ⟨hstub, -⟩
      · exact ⟨_, .stubBarred hsource htaken hstub hbarred⟩
      · exact ⟨_, .stubBarred hsource htaken hstub hbarred⟩
    · obtain ⟨hstub, h⟩ := h.resolve_left hsource |>.resolve_left htaken
        |>.resolve_left fun h => hbarred h.2
      exact ⟨_, .stubTaken hsource htaken hstub hbarred h⟩

theorem sourceBarred_iff {dir : Path} {name : String}
    (h : (layout.sourcePath target).Inside dir name) :
    layout.SourceBarred target s ↔ s.Barred (s.placeOf dir) := by
  unfold SourceBarred Store.Barred
  rw [Store.placeOf_inside h]
  constructor
  · rintro ⟨k, hk, hne, hfile⟩
    exact ⟨k, (List.prefix_concat_iff.mp hk).resolve_left hne, hfile⟩
  · rintro ⟨k, hk, hfile⟩
    refine ⟨k, hk.trans (List.prefix_append _ _), ?_, hfile⟩
    rintro rfl
    have hlength := hk.length_le
    rw [List.length_append, List.length_singleton] at hlength
    omega

theorem stubBarred_iff (hroot : ".." ∉ root.steps) (h : (under root).hasTestRoot s = true) :
    (under root).StubBarred s ↔ s.Barred (s.placeOf (root.join ⟨"spec/mutations"⟩)) := by
  have hplace : s.placeOf (root.join ⟨"spec/mutations"⟩) =
      s.placeOf root ++ ["spec"] ++ ["mutations"] := by
    rw [Store.placeOf_join (by decide), List.append_assoc]
    rfl
  show s.kind? (s.placeOf (root.join ⟨"spec/mutations"⟩)) = some .file ↔ _
  rw [hplace, Store.barred_append_iff (Store.not_barred_of_directory (get?_testRoot hroot h))]

theorem plain_sourcePath (hroot : root.Plain) (ht : isTarget target = true)
    (hshort : target.utf8ByteSize ≤ 247) : ((under root).sourcePath target).Plain := by
  have hdir : (Path.mk "app/mutations").Plain := ⟨by decide, by decide, by decide⟩
  exact (hroot.join hdir).join (.of_stem (isStem_of_isTarget ht) (by omega))

theorem plain_testPath (hroot : root.Plain) (ht : isTarget target = true)
    (hshort : target.utf8ByteSize ≤ 247) : ((under root).testPath target).Plain := by
  have hdir : (Path.mk "spec/mutations").Plain := ⟨by decide, by decide, by decide⟩
  have hsuffix : "_spec".utf8ByteSize = 5 := by decide
  have hstem : (target ++ "_spec").utf8ByteSize ≤ 252 := by
    rw [String.utf8ByteSize_append]
    omega
  exact (hroot.join hdir).join
    (.of_stem (isStem_append (isStem_of_isTarget ht) (under root)) hstem)

/-- The hindrances are what keeps out the source, and then what keeps out the test stub. -/
theorem hindrance_under_iff (hroot : ".." ∉ root.steps) (ht : isTarget target = true)
    (hstub : stub = true → (under root).hasTestRoot s = true) :
    (under root).Hindrance target stub s e ↔
      s.KeepsOut (root.join ⟨"app/mutations"⟩) ((under root).sourcePath target) e ∨
        (∀ e', ¬ s.KeepsOut (root.join ⟨"app/mutations"⟩) ((under root).sourcePath target) e') ∧
          stub = true ∧
          s.KeepsOut (root.join ⟨"spec/mutations"⟩) ((under root).testPath target) e := by
  have hsource := sourceBarred_iff (s := s) (inside_sourcePath root ht)
  have hspec := fun hwant => stubBarred_iff (s := s) hroot (hstub hwant)
  have hbarrier : (under root).StubBarred s →
      s.barrier (s.placeOf (root.join ⟨"spec/mutations"⟩)) = .alreadyExists := fun h => if_pos h
  rw [Store.not_keepsOut_iff, ← hsource]
  constructor
  · intro h
    cases h with
    | sourceBarred h => exact .inl (.barred (hsource.mp h))
    | sourceTaken hfree h => exact .inl (.taken (mt hsource.mpr hfree) h)
    | stubBarred hfree hfree' hwant h =>
      refine .inr ⟨⟨hfree, hfree'⟩, hwant, ?_⟩
      rw [← hbarrier h]
      exact .barred ((hspec hwant).mp h)
    | stubTaken hfree hfree' hwant hfree'' h =>
      exact .inr ⟨⟨hfree, hfree'⟩, hwant, .taken (mt (hspec hwant).mpr hfree'') h⟩
  · rintro ((h | ⟨hfree, h⟩) | ⟨⟨hfree, hfree'⟩, hwant, h | ⟨hfree'', h⟩⟩)
    · exact .sourceBarred (hsource.mpr h)
    · exact .sourceTaken (mt hsource.mp hfree) h
    · have hbarred := (hspec hwant).mpr h
      rw [hbarrier hbarred]
      exact .stubBarred hfree hfree' hwant hbarred
    · exact .stubTaken hfree hfree' hwant (mt (hspec hwant).mp hfree'') h

end Layout

namespace Generator

variable {g : Generator} {root : Path} {s : Store} {r : Request} {b : Brief} {e : Failure}
  {p : Plan}

theorem generate_eq_error_iff_hindrance (hroot : root.Plain) (hg : g.layout = .under root)
    (hs : s.pathLimit = none) (hshort : r.target.utf8ByteSize ≤ 247)
    (h : (r.brief g.typeCase).result = .ok b) :
    (g.generate s r).result = .error e ↔ g.layout.Hindrance r.target (g.wantsStub s) s e := by
  obtain ⟨htarget, hb⟩ := Request.brief_eq_ok h
  have hsource : (g.sourceFile b).path = (Layout.under root).sourcePath r.target := by
    rw [← hg, ← hb]
    rfl
  have hstub : (g.stubFile b).path = (Layout.under root).testPath r.target := by
    rw [← hg, ← hb]
    rfl
  have hthere : g.wantsStub s = true → (Layout.under root).hasTestRoot s = true := by
    intro hwants
    rw [wantsStub, Bool.and_eq_true, hg] at hwants
    exact hwants.2
  have hplain := hsource ▸ Layout.plain_sourcePath hroot htarget hshort
  have hplain' := hstub ▸ Layout.plain_testPath hroot htarget hshort
  have hinside := hsource ▸ Layout.inside_sourcePath root htarget
  have hinside' := hstub ▸ Layout.inside_testPath root htarget
  rw [generate_eq_error_iff hroot.down hg h, PlannedFile.install_eq_error_iff hs hplain hinside,
    PlannedFile.isOk_install_iff hs hplain hinside,
    PlannedFile.install_eq_error_iff hs hplain' hinside', hsource, hstub, hg,
    Layout.hindrance_under_iff hroot.down htarget hthere]

/-- A generation fails exactly when something is in its way, and then for the first such thing. That
a file cannot be written is never found out by writing it. -/
theorem generate_fails_as_hindered (hroot : root.Plain) (hg : g.layout = .under root)
    (hs : s.pathLimit = none) (hshort : r.target.utf8ByteSize ≤ 247)
    (hplan : (g.plan s r).result = .ok p) :
    (∀ e, (g.generate s r).result = .error e ↔
        g.layout.Hindrance r.target (g.wantsStub s) s e) ∧
      ((∃ e, (g.generate s r).result = .error e) ↔
        g.layout.SourceBarred r.target s ∨ g.layout.SourceTaken r.target s ∨
          g.wantsStub s = true ∧ g.layout.StubBarred s ∨
          g.wantsStub s = true ∧ g.layout.StubTaken r.target s) ∧
      ((∃ report, (g.generate s r).result = .ok report) ↔
        ¬ g.layout.SourceBarred r.target s ∧ ¬ g.layout.SourceTaken r.target s ∧
          (g.wantsStub s = true → ¬ g.layout.StubBarred s ∧ ¬ g.layout.StubTaken r.target s)) ∧
      ∀ path fault, (g.generate s r).result ≠ .error (.refused .write path fault) := by
  obtain ⟨-, b, hbrief, -, -⟩ := plan_eq_ok hplan
  have herror := fun e => generate_eq_error_iff_hindrance (e := e) hroot hg hs hshort hbrief
  have hfails : (∃ e, (g.generate s r).result = .error e) ↔
      g.layout.SourceBarred r.target s ∨ g.layout.SourceTaken r.target s ∨
        g.wantsStub s = true ∧ g.layout.StubBarred s ∨
        g.wantsStub s = true ∧ g.layout.StubTaken r.target s := by
    simp only [herror, Layout.exists_hindrance_iff]
  have hsucceeds : (∃ report, (g.generate s r).result = .ok report) ↔
      ¬ ∃ e, (g.generate s r).result = .error e := by
    cases (g.generate s r).result <;> simp
  refine ⟨herror, hfails, ?_, ?_⟩
  · rw [hsucceeds, hfails]
    simp only [not_or, not_and, imp_and]
  · intro path fault hwrite
    cases (herror _).mp hwrite

/-- A file where the directory of the test stubs should be. -/
theorem generation_fails_at_misplaced_file :
    let s := ((Store.empty none).put ["spec"] .directory).put ["spec", "mutations"] (.file "")
    ((∃ e, (sketch.generate s ⟨"pay", ["sum:integer"]⟩).result = .error e) ↔
        sketch.layout.SourceBarred "pay" s ∨ sketch.layout.SourceTaken "pay" s ∨
          sketch.wantsStub s = true ∧ sketch.layout.StubBarred s ∨
          sketch.wantsStub s = true ∧ sketch.layout.StubTaken "pay" s) ∧
      (sketch.generate s ⟨"pay", ["sum:integer"]⟩).result =
        .error (.refused .createDirectory ⟨"./spec/mutations"⟩ .alreadyExists) := by
  have hroot : (Path.mk ".").Plain := ⟨by decide, by decide, by decide⟩
  have hs : (((Store.empty none).put ["spec"] .directory).put ["spec", "mutations"]
      (.file "")).pathLimit = none := by
    rw [Store.pathLimit_put, Store.pathLimit_put]
    rfl
  have hplan : (sketch.plan (((Store.empty none).put ["spec"] .directory).put
      ["spec", "mutations"] (.file "")) ⟨"pay", ["sum:integer"]⟩).result = .ok ⟨"Pay",
      [⟨⟨"sum", false, by decide⟩, .integer, .implied, by decide⟩], [],
      [⟨.mutation, ⟨"./app/mutations/pay.rs"⟩, "some"⟩,
        ⟨.spec, ⟨"./spec/mutations/pay_spec.rs"⟩, "some"⟩], none⟩ := by rfl
  exact ⟨(generate_fails_as_hindered hroot rfl hs (by decide) hplan).2.1, by rfl⟩

end Generator

end Stencil
