import Stencil.Proofs.Execution.Targets
import Stencil.Proofs.Path.Inside

/-! The test stub beside the source. Whether a stub is written is decided before anything else is,
and the two files part ways below the root; so a run with the stub is the run without it, and then
the stub. -/

namespace Stencil

namespace Layout

variable {root : Path} {target : String}

theorem inside_under (root dir : Path) {stem : String} (hdir : dir.isAbsolute = false)
    (hends : ∃ front last, dir.segments = front ++ [last] ∧ Path.isFiller last = false)
    (h : IsStem stem) :
    ((root.join dir).join ⟨stem ++ "." ++ "rs"⟩).Inside (root.join dir) (stem ++ "." ++ "rs") :=
  Path.inside_join (Path.segments_append h.not_slash (by decide)) (h.counts "rs")
    (Path.ends_join root hdir hends)

theorem inside_sourcePath (root : Path) (ht : isTarget target = true) :
    ((under root).sourcePath target).Inside (root.join ⟨"app/mutations"⟩) (target ++ "." ++ "rs") :=
  inside_under root ⟨"app/mutations"⟩ (by decide) ⟨["app"], "mutations", by decide, by decide⟩
    (isStem_of_isTarget ht)

theorem inside_testPath (root : Path) (ht : isTarget target = true) :
    ((under root).testPath target).Inside (root.join ⟨"spec/mutations"⟩)
      (target ++ "_spec" ++ "." ++ "rs") :=
  inside_under root ⟨"spec/mutations"⟩ (by decide) ⟨["spec"], "mutations", by decide, by decide⟩
    (isStem_append (isStem_of_isTarget ht) (under root))

/-- With a test root there are directories down to it. -/
theorem get?_testRoot {s : Store} (hroot : ".." ∉ root.steps)
    (h : (under root).hasTestRoot s = true) :
    s.get? (s.placeOf root ++ ["spec"]) = some .directory := by
  obtain ⟨l, hl, hdir⟩ := Store.isDirectory_iff.mp h
  have hdown := (descends_under hroot).not_up_testRoot
  rw [← placeOf_testRoot_under, ← hdir, Store.locate_eq_placeOf hdown hl]
  rfl

end Layout

namespace PlannedFile

variable {f f' : PlannedFile} {fs : List PlannedFile} {s : Store} {e : Failure}

theorem store_installAll_singleton (f : PlannedFile) (s : Store) :
    (installAll [f] s).store = (f.install s).store := by
  cases hf : (f.install s).result.isOk with
  | false => exact (installAll_cons_of_not_isOk hf).1
  | true => exact (installAll_cons_of_isOk hf).1

theorem installAll_singleton_eq_error_iff :
    (installAll [f] s).result = .error e ↔ (f.install s).result = .error e := by
  rw [result_installAll_cons]
  cases (f.install s).result with
  | error e' => simp [Except.bind]
  | ok entry => exact ⟨nofun, nofun⟩

/-- Of two files whose ways part the second fares as it would without the first. -/
theorem installAll_pair_eq_error_iff (hf : ".." ∉ f.path.steps) (hf' : ".." ∉ f'.path.steps)
    (h : Unrelated s f f') :
    (installAll [f, f'] s).result = .error e ↔
      (f.install s).result = .error e ∨
        (f.install s).result.isOk = true ∧ (f'.install s).result = .error e := by
  have hafter := result_install_after hf' hf h.symm
  rw [result_installAll_cons]
  cases hfirst : (f.install s).result with
  | error e' => simp [Except.bind, Except.isOk, Except.toBool]
  | ok entry =>
    rw [← hafter, ← installAll_singleton_eq_error_iff]
    show Except.map (entry :: ·) (installAll [f'] (f.install s).store).result = .error e ↔ _
    cases (installAll [f'] (f.install s).store).result <;>
      simp [Except.map, Except.isOk, Except.toBool]

end PlannedFile

namespace Generator

variable {g : Generator} {root : Path} {s : Store} {r : Request} {b : Brief} {e : Failure}
  {report : Report} {stub : Bool} {k : Location}

def sourceFile (g : Generator) (b : Brief) : PlannedFile :=
  g.planned b .mutation (g.layout.sourcePath b.target)

def stubFile (g : Generator) (b : Brief) : PlannedFile :=
  g.planned b .spec (g.layout.testPath b.target)

theorem files_planFor (g : Generator) (stub : Bool) (b : Brief) :
    (g.planFor stub b).files = g.sourceFile b :: if stub then [g.stubFile b] else [] := by
  cases stub <;> rfl

theorem generate_of_brief (h : (r.brief g.typeCase).result = .ok b) (s : Store) :
    (g.generate s r).result = ((g.planFor (g.wantsStub s) b).execute s).result ∧
      (g.generate s r).store = ((g.planFor (g.wantsStub s) b).execute s).store := by
  apply g.generate_of_plan_ok
  rw [result_plan, h]
  rfl

theorem isTarget_of_brief {typeCase : String → String} (h : (r.brief typeCase).result = .ok b) :
    isTarget b.target = true := by
  obtain ⟨htarget, hb⟩ := Request.brief_eq_ok h
  rw [hb, htarget]

theorem placeOf_files (hg : g.layout = .under root) (hb : isTarget b.target = true) (s : Store) :
    s.placeOf (g.sourceFile b).path =
        s.placeOf root ++ ["app", "mutations", b.target ++ "." ++ "rs"] ∧
      s.placeOf (g.stubFile b).path =
        s.placeOf root ++ ["spec", "mutations", b.target ++ "_spec" ++ "." ++ "rs"] := by
  rw [← Layout.placeOf_sourcePath_under root s hb, ← Layout.placeOf_testPath_under root s hb, ← hg]
  exact ⟨rfl, rfl⟩

theorem unrelated_files (hg : g.layout = .under root) (hb : isTarget b.target = true) (s : Store) :
    PlannedFile.Unrelated s (g.sourceFile b) (g.stubFile b) := by
  obtain ⟨hsource, hstub⟩ := placeOf_files hg hb s
  rw [PlannedFile.Unrelated, hsource, hstub]
  simp only [List.prefix_append_right_inj, List.cons_prefix_cons]
  exact ⟨fun h => absurd h.1 (by decide), fun h => absurd h.1 (by decide)⟩

theorem not_up_files (hroot : ".." ∉ root.steps) (hg : g.layout = .under root)
    (hb : isTarget b.target = true) :
    ".." ∉ (g.sourceFile b).path.steps ∧ ".." ∉ (g.stubFile b).path.steps := by
  have hdescends := hg ▸ Layout.descends_under hroot
  exact ⟨hdescends.not_up_sourcePath hb, hdescends.not_up_testPath hb⟩

/-! ### Both files -/

theorem execute_planFor_eq_error_iff (hroot : ".." ∉ root.steps) (hg : g.layout = .under root)
    (hb : isTarget b.target = true) :
    ((g.planFor stub b).execute s).result = .error e ↔
      ((g.sourceFile b).install s).result = .error e ∨
        ((g.sourceFile b).install s).result.isOk = true ∧ stub = true ∧
          ((g.stubFile b).install s).result = .error e := by
  obtain ⟨hsource, hstub⟩ := not_up_files hroot hg hb
  rw [Plan.execute, Outcome.map_eq_error, files_planFor]
  cases stub with
  | false => simp [PlannedFile.installAll_singleton_eq_error_iff]
  | true =>
    simpa using PlannedFile.installAll_pair_eq_error_iff hsource hstub (unrelated_files hg hb s)

theorem store_execute_planFor (g : Generator) (stub : Bool) (b : Brief) (s : Store) :
    ((g.planFor stub b).execute s).store =
      if stub = true ∧ ((g.sourceFile b).install s).result.isOk = true then
        ((g.stubFile b).install ((g.sourceFile b).install s).store).store
      else ((g.sourceFile b).install s).store := by
  rw [Plan.store_execute, files_planFor]
  cases stub with
  | false => simp [PlannedFile.store_installAll_singleton]
  | true =>
    cases hok : ((g.sourceFile b).install s).result.isOk with
    | false => simp [(PlannedFile.installAll_cons_of_not_isOk hok).1]
    | true =>
      simp [(PlannedFile.installAll_cons_of_isOk hok).1, PlannedFile.store_installAll_singleton]

theorem generate_eq_error_iff (hroot : ".." ∉ root.steps) (hg : g.layout = .under root)
    (h : (r.brief g.typeCase).result = .ok b) :
    (g.generate s r).result = .error e ↔
      ((g.sourceFile b).install s).result = .error e ∨
        ((g.sourceFile b).install s).result.isOk = true ∧ g.wantsStub s = true ∧
          ((g.stubFile b).install s).result = .error e := by
  rw [(generate_of_brief h s).1, execute_planFor_eq_error_iff hroot hg (isTarget_of_brief h)]

theorem store_generate (h : (r.brief g.typeCase).result = .ok b) (s : Store) :
    (g.generate s r).store =
      if g.wantsStub s = true ∧ ((g.sourceFile b).install s).result.isOk = true then
        ((g.stubFile b).install ((g.sourceFile b).install s).store).store
      else ((g.sourceFile b).install s).store := by
  rw [(generate_of_brief h s).2, store_execute_planFor]

/-- The source is what a report begins with, and a stub left out is what it ends with. -/
theorem files_of_generate (h : (r.brief g.typeCase).result = .ok b)
    (hok : (g.generate s r).result = .ok report) :
    ∃ entry rest, ((g.sourceFile b).install s).result = .ok entry ∧
      report.files = entry :: rest ++ (g.planFor (g.wantsStub s) b).skippedEntry := by
  rw [(generate_of_brief h s).1] at hok
  obtain ⟨entries, hentries, rfl⟩ := Plan.execute_eq_ok hok
  rw [files_planFor] at hentries
  obtain ⟨entry, rest, rfl, hentry, -⟩ := PlannedFile.installAll_cons_eq_ok hentries
  exact ⟨entry, rest, hentry, rfl⟩

theorem path_of_stub_error {t : Store} (hg : g.layout = .under root)
    (hb : isTarget b.target = true) (h : ((g.stubFile b).install t).result = .error e) :
    ∃ operation path fault, e = .refused operation path fault ∧
      (path = g.layout.root.join g.layout.testDir ∨ path = g.layout.testPath b.target) := by
  have hinside : (g.stubFile b).path.parent? = some (g.layout.root.join g.layout.testDir) := by
    show (g.layout.testPath b.target).parent? = _
    rw [hg]
    exact (Layout.inside_testPath root hb).parent?_eq
  rcases (PlannedFile.install_eq_error h).2 with ⟨q, fault, hq, rfl⟩ | ⟨fault, rfl⟩ | ⟨fault, rfl⟩
  · rw [hinside] at hq
    exact ⟨_, _, _, rfl, .inl (Option.some.inj hq).symm⟩
  · exact ⟨_, _, _, rfl, .inr rfl⟩
  · exact ⟨_, _, _, rfl, .inr rfl⟩

/-! ### With and without the stub -/

/-- The generator that leaves the test stub out, or writes it where there is a test root. -/
def skipStub (g : Generator) (skip : Bool) : Generator :=
  { g with emitSpec := !skip }

theorem wantsStub_skipStub (g : Generator) (skip : Bool) (s : Store) :
    (g.skipStub skip).wantsStub s = (!skip && g.layout.hasTestRoot s) := rfl

theorem sourceFile_skipStub (g : Generator) (skip : Bool) :
    (g.skipStub skip).sourceFile = g.sourceFile := rfl

theorem stubFile_skipStub (g : Generator) (skip : Bool) :
    (g.skipStub skip).stubFile = g.stubFile := rfl

/-- Without a test root there is nothing to leave out. -/
theorem generate_skipStub_of_rootless (h : g.layout.hasTestRoot s = false) (skip : Bool)
    (r : Request) : (g.skipStub skip).generate s r = (g.skipStub true).generate s r := by
  have hplan : (g.skipStub skip).plan s r = (g.skipStub true).plan s r := by
    unfold plan
    rw [wantsStub_skipStub, wantsStub_skipStub, h, Bool.and_false, Bool.and_false]
    rfl
  rw [generate, generate, hplan]

theorem not_prefix_source (hg : g.layout = .under root) (hb : isTarget b.target = true)
    (hspec : s.placeOf root ++ ["spec"] <+: k) : ¬ k <+: s.placeOf (g.sourceFile b).path := by
  intro hk
  have hway := hspec.trans hk
  rw [(placeOf_files hg hb s).1, List.prefix_append_right_inj, List.cons_prefix_cons] at hway
  exact absurd hway.1 (by decide)

/-- The stub changes nothing but what is at or below the test root, which is there. -/
theorem get?_install_stub {t : Store} (hroot : ".." ∉ root.steps) (hg : g.layout = .under root)
    (hb : isTarget b.target = true) (hgrow : s.GrowsTo t)
    (hspec : s.get? (s.placeOf root ++ ["spec"]) = some .directory)
    (hoff : ¬ s.placeOf root ++ ["spec"] <+: k) :
    ((g.stubFile b).install t).store.get? k = t.get? k := by
  by_cases hway : k <+: t.placeOf (g.stubFile b).path
  · have hplace : t.placeOf (g.stubFile b).path =
        s.placeOf root ++ ["spec"] ++ ["mutations", b.target ++ "_spec" ++ "." ++ "rs"] := by
      rw [Store.placeOf_congr hgrow.current, (placeOf_files hg hb s).2, List.append_assoc]
      rfl
    rw [hplace] at hway
    -- what is on the way to the stub and not below the test root is above it
    have habove : k <+: s.placeOf root ++ ["spec"] :=
      (List.prefix_or_prefix_of_prefix hway (List.prefix_append _ _)).resolve_right hoff
    have hne : k ≠ s.placeOf root ++ ["spec"] := fun heq => hoff (heq ▸ List.prefix_refl _)
    have hdir := hgrow.directory (Store.get?_above hspec habove hne)
    rw [hdir, (PlannedFile.growsTo_install _ t).directory hdir]
  · exact PlannedFile.install_off_way (not_up_files hroot hg hb).2 hway

/-- How a run `a` that leaves the test stub out stands to a run `b` that may write it, both made in
`s` for one target. -/
structure Undisturbed (layout : Layout) (target : String) (s : Store) (a b : Outcome Report) :
    Prop where
  untouched : ∀ k, s.placeOf (layout.root.join layout.testRoot) <+: k →
    a.store.get? k = s.get? k
  elsewhere : ∀ k, ¬ s.placeOf (layout.root.join layout.testRoot) <+: k →
    a.store.get? k = b.store.get? k
  failure : ∀ e, a.result = .error e → b.result = .error e
  first : ∀ report report', a.result = .ok report → b.result = .ok report' →
    ∃ entry, report.files.head? = some entry ∧ report'.files.head? = some entry
  blamed : ∀ report e, a.result = .ok report → b.result = .error e →
    ∃ operation path fault, e = .refused operation path fault ∧
      (path = layout.root.join layout.testDir ∨ path = layout.testPath target)
  rootless : s.get? (s.placeOf (layout.root.join layout.testRoot)) ≠ some .directory →
    a = b ∧ ∀ report, a.result = .ok report →
      report.files.getLast? = some (layout.testPath target, .skipped)

theorem rootless_of_get? (hroot : ".." ∉ root.steps) (hg : g.layout = .under root)
    (h : s.get? (s.placeOf (g.layout.root.join g.layout.testRoot)) ≠ some .directory) :
    g.layout.hasTestRoot s = false := by
  have hplace : s.placeOf (g.layout.root.join g.layout.testRoot) = s.placeOf root ++ ["spec"] :=
    hg ▸ Layout.placeOf_testRoot_under root s
  rw [hplace] at h
  rw [Bool.eq_false_iff]
  exact fun hthere => h (Layout.get?_testRoot hroot (hg ▸ hthere))

theorem undisturbed_of_error (hroot : ".." ∉ root.steps) (hg : g.layout = .under root)
    (s : Store) (h : (r.brief g.typeCase).result = .error e) :
    Undisturbed g.layout r.target s ((g.skipStub true).generate s r)
      ((g.skipStub false).generate s r) := by
  have hplan : ∀ skip, ((g.skipStub skip).plan s r).result = .error e := fun skip =>
    ((g.skipStub skip).plan_eq_error_iff s r).mpr h
  obtain ⟨ha, hstore⟩ := (g.skipStub true).generate_of_plan_error s r (hplan true)
  obtain ⟨hb, hstore'⟩ := (g.skipStub false).generate_of_plan_error s r (hplan false)
  exact {
    untouched := fun k _ => by rw [hstore]
    elsewhere := fun k _ => by rw [hstore, hstore']
    failure := fun e' he => by rw [hb, ← ha, he]
    first := fun report _ hok => by simp [ha] at hok
    blamed := fun report _ hok => by simp [ha] at hok
    rootless := fun hnone =>
      ⟨(generate_skipStub_of_rootless (rootless_of_get? hroot hg hnone) false r).symm,
        fun report hok => by simp [ha] at hok⟩ }

theorem undisturbed_of_brief (hroot : ".." ∉ root.steps) (hg : g.layout = .under root)
    (s : Store) (h : (r.brief g.typeCase).result = .ok b) :
    Undisturbed g.layout r.target s ((g.skipStub true).generate s r)
      ((g.skipStub false).generate s r) := by
  have hb : b.target = r.target := (Request.brief_eq_ok h).2
  have htarget := isTarget_of_brief h
  have hspec : s.placeOf (g.layout.root.join g.layout.testRoot) = s.placeOf root ++ ["spec"] :=
    hg ▸ Layout.placeOf_testRoot_under root s
  have hstore := store_generate (g := g.skipStub true) h s
  have herror := fun e =>
    generate_eq_error_iff (g := g.skipStub true) (s := s) (e := e) hroot hg h
  have herror' := fun e =>
    generate_eq_error_iff (g := g.skipStub false) (s := s) (e := e) hroot hg h
  simp only [wantsStub_skipStub, sourceFile_skipStub, stubFile_skipStub, Bool.not_true,
    Bool.false_and, Bool.false_eq_true, false_and, and_false, or_false, if_false]
    at hstore herror herror'
  constructor
  case untouched =>
    intro k hk
    have hoff := not_prefix_source hg htarget (hspec ▸ hk)
    rw [hstore, PlannedFile.install_off_way (not_up_files hroot hg htarget).1 hoff]
  case elsewhere =>
    intro k hk
    rw [hstore, store_generate (g := g.skipStub false) h s]
    split_ifs with hboth
    · have hthere : g.layout.hasTestRoot s = true := hboth.1
      have hgrow := PlannedFile.growsTo_install (g.sourceFile b) s
      exact (get?_install_stub hroot hg htarget hgrow
        (Layout.get?_testRoot hroot (hg ▸ hthere)) (hspec ▸ hk)).symm
    · rfl
  case failure =>
    intro e he
    exact (herror' e).mpr (.inl ((herror e).mp he))
  case first =>
    intro report report' hok hok'
    obtain ⟨entry, rest, hentry, hfiles⟩ := files_of_generate (g := g.skipStub true) h hok
    obtain ⟨entry', rest', hentry', hfiles'⟩ := files_of_generate (g := g.skipStub false) h hok'
    obtain rfl := Except.ok.inj (hentry.symm.trans hentry')
    exact ⟨entry, by rw [hfiles]; rfl, by rw [hfiles']; rfl⟩
  case blamed =>
    intro report e hok he
    obtain ⟨entry, -, hentry, -⟩ := files_of_generate (g := g.skipStub true) h hok
    rw [sourceFile_skipStub] at hentry
    rw [herror', hentry] at he
    obtain ⟨-, -, hstub⟩ := he.resolve_left nofun
    exact hb ▸ path_of_stub_error hg htarget hstub
  case rootless =>
    intro hnone
    refine ⟨(generate_skipStub_of_rootless (rootless_of_get? hroot hg hnone) false r).symm, ?_⟩
    intro report hok
    obtain ⟨entry, rest, -, hfiles⟩ := files_of_generate (g := g.skipStub true) h hok
    rw [hfiles, ← hb]
    exact List.getLast?_concat

/-- The choice about the test stub is felt at the test root and below, and nowhere else. -/
theorem stub_disturbs_nothing_else (hroot : ".." ∉ root.steps) (hg : g.layout = .under root)
    (s : Store) (r : Request) :
    Undisturbed g.layout r.target s ((g.skipStub true).generate s r)
      ((g.skipStub false).generate s r) := by
  cases h : (r.brief g.typeCase).result with
  | error e => exact undisturbed_of_error hroot hg s h
  | ok b => exact undisturbed_of_brief hroot hg s h

/-- A directory that has the stub's place is nothing to a run that leaves the stub out. -/
theorem misplaced_directory_disturbs_only_the_stub :
    let s := (((Store.empty none).put ["spec"] .directory).put ["spec", "mutations"] .directory).put
      ["spec", "mutations", "pay_spec.rs"] .directory
    let a := (sketch.skipStub true).generate s ⟨"pay", ["sum:integer"]⟩
    let b := (sketch.skipStub false).generate s ⟨"pay", ["sum:integer"]⟩
    Undisturbed sketch.layout "pay" s a b ∧
      a.result = .ok ⟨[(⟨"./app/mutations/pay.rs"⟩, .created),
        (⟨"./spec/mutations/pay_spec.rs"⟩, .skipped)]⟩ ∧
      b.result = .error (.refused .read ⟨"./spec/mutations/pay_spec.rs"⟩ .isADirectory) := by
  have hroot : ".." ∉ (Path.mk ".").steps := by decide
  exact ⟨stub_disturbs_nothing_else hroot rfl _ ⟨"pay", ["sum:integer"]⟩, by rfl, by rfl⟩

end Generator

end Stencil
