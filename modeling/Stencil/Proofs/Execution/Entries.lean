import Stencil.Proofs.Execution.Pretence
import Stencil.Proofs.Path.Components

/-! The entries of a report. Whatever the layout, no two targets share a source or a test stub, both
files lie right in the directories of the layout, and the report of a run tells of the source and of
the test stub, each under a path of its own. -/

namespace Stencil

/-! ### The files of a directory -/

namespace IsStem

variable {stem other ext head : String} {tail : List String}

theorem anchor (h : IsStem stem) (ext : String) :
    (Path.mk (stem ++ "." ++ ext)).anchored.1 = .unsaid := by
  obtain ⟨head, tail, hext⟩ := List.exists_cons_of_ne_nil (Path.mk ext).segments_ne_nil
  rw [Path.anchored_of_counts (Path.segments_append h.not_slash hext) (h.counts head)]

theorem components_join (h : IsStem stem) (hext : (Path.mk ext).segments = head :: tail)
    (dir : Path) :
    (dir.join ⟨stem ++ "." ++ ext⟩).components =
      dir.components ++
        .name (stem ++ "." ++ head) :: tail.filterMap Path.Component.ofSegment? := by
  have hup : stem ++ "." ++ head ≠ ".." := by
    rw [String.append_assoc]
    exact h.append_ne _ (by decide)
  have hfile : (Path.mk (stem ++ "." ++ ext)).components =
      .name (stem ++ "." ++ head) :: tail.filterMap Path.Component.ofSegment? := by
    rw [Path.components, Path.anchored_of_counts (Path.segments_append h.not_slash hext)
      (h.counts head), List.filterMap_cons_some (Path.ofSegment?_of_name (h.counts head) hup)]
    rfl
  rw [Path.components_join dir (h.anchor ext), hfile]

/-- Files are told apart by their directories and their stems, whatever the extension. -/
theorem same_join_iff (h : IsStem stem) (h' : IsStem other) (dir dir' : Path) (ext : String) :
    (dir.join ⟨stem ++ "." ++ ext⟩).same (dir'.join ⟨other ++ "." ++ ext⟩) = true ↔
      stem = other ∧ dir.same dir' = true := by
  obtain ⟨head, tail, hext⟩ := List.exists_cons_of_ne_nil (Path.mk ext).segments_ne_nil
  rw [Path.same_iff, Path.same_iff, h.components_join hext, h'.components_join hext]
  constructor
  · intro heq
    obtain ⟨hdirs, hfiles⟩ := List.append_inj' heq (by simp)
    have hname := Path.Component.name.inj (List.cons.inj hfiles).1
    exact ⟨by simpa only [String.append_left_inj] using hname, hdirs⟩
  · rintro ⟨rfl, hdirs⟩
    rw [hdirs]

/-- An extension without a slash keeps the file in its directory. -/
theorem parent?_join (h : IsStem stem) (hext : '/' ∉ ext.toList) (dir : Path) :
    ∃ q, (dir.join ⟨stem ++ "." ++ ext⟩).parent? = some q ∧ q.same dir = true := by
  have hsegments := Path.segments_of_not_slash hext
  have hcomponents := h.components_join hsegments dir
  rw [List.filterMap_nil] at hcomponents
  cases hparent : (dir.join ⟨stem ++ "." ++ ext⟩).parent? with
  | none =>
    have hsteps := Path.steps_of_no_parent hparent
    rw [Path.steps_join (h.isAbsolute ext), h.steps hsegments] at hsteps
    simp at hsteps
  | some q =>
    refine ⟨q, rfl, ?_⟩
    rw [Path.same_iff, Path.components_of_parent hparent, hcomponents, List.dropLast_concat]

end IsStem

/-! ### The files of targets -/

namespace Layout

/-- The files of two targets are told apart by the targets. -/
structure TellsApart (layout : Layout) (target other : String) : Prop where
  sources : (layout.sourcePath target).same (layout.sourcePath other) = true ↔ target = other
  tests : (layout.testPath target).same (layout.testPath other) = true ↔ target = other
  source_and_test : (layout.sourcePath target).same (layout.testPath other) = true ↔
    target = other ++ "_spec" ∧
      (layout.root.join layout.sourceDir).same (layout.root.join layout.testDir) = true
  never : (layout.sourcePath target).same (layout.testPath target) = false

/-- The files of a target lie in no other directories than those of the layout. -/
structure Keeps (layout : Layout) (target : String) : Prop where
  source : ∃ q, (layout.sourcePath target).parent? = some q ∧
    q.same (layout.root.join layout.sourceDir) = true
  test : ∃ q, (layout.testPath target).parent? = some q ∧
    q.same (layout.root.join layout.testDir) = true

variable {layout : Layout} {target other : String}

theorem source_and_test_iff (ht : isTarget target = true) (ho : isTarget other = true) :
    (layout.sourcePath target).same (layout.testPath other) = true ↔
      target = other ++ "_spec" ∧
        (layout.root.join layout.sourceDir).same (layout.root.join layout.testDir) = true :=
  (isStem_of_isTarget ht).same_join_iff (isStem_append (isStem_of_isTarget ho) layout) _ _ _

theorem tellsApart (ht : isTarget target = true) (ho : isTarget other = true) :
    layout.TellsApart target other := by
  have hstem := isStem_of_isTarget ht
  have hother := isStem_of_isTarget ho
  constructor
  case sources =>
    rw [sourcePath, sourcePath, hstem.same_join_iff hother, Path.same_iff]
    exact and_iff_left rfl
  case tests =>
    rw [testPath, testPath,
      (isStem_append hstem layout).same_join_iff (isStem_append hother layout), Path.same_iff,
      String.append_left_inj]
    exact and_iff_left rfl
  case source_and_test => exact source_and_test_iff ht ho
  case never =>
    rw [Bool.eq_false_iff, ne_eq, source_and_test_iff ht ht]
    rintro ⟨hname, -⟩
    have hlength := congrArg String.length hname
    rw [String.length_append] at hlength
    have hsuffix : "_spec".length = 5 := by decide
    omega

theorem keeps (hext : '/' ∉ layout.extension.toList) (ht : isTarget target = true) :
    layout.Keeps target where
  source := (isStem_of_isTarget ht).parent?_join hext _
  test := (isStem_append (isStem_of_isTarget ht) layout).parent?_join hext _

end Layout

/-! ### The entries -/

namespace Report

/-- The report tells of a source and of a test stub, in this order, and when it is asked for either,
in whatever spelling, it answers with its own status. -/
structure Tells (report : Report) (source test : Path) (a b : Status) : Prop where
  files : report.files = [(source, a), (test, b)]
  apart : source.same test = false
  source : ∀ q, q.same source = true → report.statusOf? q = some a
  test : ∀ q, q.same test = true → report.statusOf? q = some b

theorem tells_of_files {report : Report} {source test : Path} {a b : Status}
    (hfiles : report.files = [(source, a), (test, b)]) (hapart : source.same test = false) :
    report.Tells source test a b := by
  refine ⟨hfiles, hapart, fun q hq => ?_, fun q hq => ?_⟩
  · have hsource : source.same q = true := Path.same_iff.mpr (Path.same_iff.mp hq).symm
    simp [statusOf?, hfiles, hsource]
  · have hsource : source.same q = false := by
      rw [Path.same, Path.same_iff.mp hq]
      exact hapart
    have htest : test.same q = true := Path.same_iff.mpr (Path.same_iff.mp hq).symm
    simp [statusOf?, hfiles, hsource, htest]

end Report

namespace Generator

variable {g : Generator} {s t : Store} {r : Request} {report : Report}

/-- The report is that of a run in the store, or that of pretending the run in another. -/
def Reports (g : Generator) (s t : Store) (r : Request) (report : Report) : Prop :=
  (g.generate s r).result = .ok report ∨
    ∃ p, (g.plan s r).result = .ok p ∧ report = p.pretend t

theorem isTarget_of_reports (h : g.Reports s t r report) : isTarget r.target = true := by
  rcases h with hrun | ⟨p, hplan, -⟩
  · obtain ⟨p, hplan, -⟩ := generate_eq_ok hrun
    exact (plan_eq_ok hplan).1
  · exact (plan_eq_ok hplan).1

theorem files_of_reports (h : g.Reports s t r report) :
    ∃ a b, report.files =
      [(g.layout.sourcePath r.target, a), (g.layout.testPath r.target, b)] := by
  have hpaths : report.files.map Prod.fst =
      [g.layout.sourcePath r.target, g.layout.testPath r.target] := by
    rcases h with hrun | ⟨p, hplan, rfl⟩
    · obtain ⟨p, hplan, hexecute⟩ := generate_eq_ok hrun
      rw [Plan.paths_execute hexecute, paths_of_plan hplan]
    · rw [p.paths_pretend, paths_of_plan hplan]
  obtain ⟨source, rest, hfiles, hsource, hrest⟩ := List.map_eq_cons_iff.mp hpaths
  obtain ⟨test, rest', rfl, htest, hnil⟩ := List.map_eq_cons_iff.mp hrest
  obtain rfl := List.map_eq_nil_iff.mp hnil
  exact ⟨source.2, test.2, by rw [hfiles, ← hsource, ← htest]⟩

end Generator

/-- Whatever the layout, its files are told apart by their targets and stay in its directories, so
that every report tells of two of them. -/
theorem Layout.outputs_are_apart (layout : Layout) :
    (∀ t u, isTarget t = true → isTarget u = true → layout.TellsApart t u) ∧
    ('/' ∉ layout.extension.toList → ∀ t, isTarget t = true → layout.Keeps t) ∧
    ∀ (g : Generator) (s t : Store) (r : Request) (report : Report), g.layout = layout →
      g.Reports s t r report →
        ∃ a b, report.Tells (layout.sourcePath r.target) (layout.testPath r.target) a b := by
  refine ⟨fun t u ht hu => Layout.tellsApart ht hu, fun hext t ht => Layout.keeps hext ht,
    fun g s t r report hlayout h => ?_⟩
  subst hlayout
  obtain ⟨a, b, hfiles⟩ := Generator.files_of_reports h
  have ht := Generator.isTarget_of_reports h
  exact ⟨a, b, Report.tells_of_files hfiles (Layout.tellsApart ht ht).never⟩

theorem outputs_are_apart_in_one_directory :
    let layout : Layout := ⟨⟨"/srv//."⟩, ⟨"spec//"⟩, ⟨"spec"⟩, ⟨"./spec"⟩, "rs"⟩
    let report : Report :=
      ⟨[(⟨"/srv//./spec//pay.rs"⟩, .created), (⟨"/srv//././spec/pay_spec.rs"⟩, .skipped)]⟩
    layout.TellsApart "pay_spec" "pay" ∧
      (layout.sourcePath "pay_spec").same (layout.testPath "pay") = true ∧ layout.Keeps "pay" ∧
      Generator.Reports { layout } (.empty none) (.empty none) ⟨"pay", ["sum:integer"]⟩ report ∧
      ∃ a b, report.Tells (layout.sourcePath "pay") (layout.testPath "pay") a b := by
  have hreported : Generator.Reports
      { layout := ⟨⟨"/srv//."⟩, ⟨"spec//"⟩, ⟨"spec"⟩, ⟨"./spec"⟩, "rs"⟩ }
      (.empty none) (.empty none) ⟨"pay", ["sum:integer"]⟩
      ⟨[(⟨"/srv//./spec//pay.rs"⟩, .created), (⟨"/srv//././spec/pay_spec.rs"⟩, .skipped)]⟩ :=
    .inl (by rfl)
  intro layout report
  obtain ⟨hapart, hkeeps, hreports⟩ := layout.outputs_are_apart
  have hpay : isTarget "pay" = true := by decide
  have hspec : isTarget "pay_spec" = true := by decide
  have hext : '/' ∉ layout.extension.toList := by decide
  have hsame : (layout.sourcePath "pay_spec").same (layout.testPath "pay") = true :=
    (hapart _ _ hspec hpay).source_and_test.mpr ⟨by decide, by decide⟩
  have htells := hreports _ _ _ _ _ rfl hreported
  exact ⟨hapart _ _ hspec hpay, hsame, hkeeps hext _ hpay, hreported, htells⟩

end Stencil
