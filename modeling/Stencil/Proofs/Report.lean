import Stencil.Proofs.Execution.Entries
import Stencil.Proofs.Planning.Target
import Stencil.Session

/-! How the report of a run is printed. Taking the root off a path that was joined to it leaves what
was joined, however the root is spelled, so what is printed depends on the target and on the
statuses only. -/

namespace Stencil

namespace Layout

variable {target stem : String}

/-- A file below a root is shown by the way to it from the root. -/
theorem stripBase?_under (root dir : Path) (h : IsStem stem)
    (hbegins : ∃ first rest, dir.segments = first :: rest ∧ Path.isFiller first = false)
    (hends : ∃ front last, dir.segments = front ++ [last] ∧ Path.isFiller last = false) :
    Path.stripBase? root ((root.join dir).join ⟨stem ++ "." ++ "rs"⟩) =
      some ⟨dir.text ++ "/" ++ stem ++ ".rs"⟩ := by
  obtain ⟨first, rest, hdir, hfirst⟩ := hbegins
  have hname : (Path.mk (stem ++ "." ++ "rs")).segments = [stem ++ "." ++ "rs"] :=
    Path.segments_append h.not_slash (by decide)
  have hinside := Path.inside_join hname (h.counts "rs") hends
  have hsegments := hinside.segments
  rw [hdir, List.cons_append] at hsegments
  have htext : (dir.join ⟨stem ++ "." ++ "rs"⟩).text = dir.text ++ "/" ++ stem ++ ".rs" := by
    rw [hinside.text_eq, show ".rs" = "." ++ "rs" from rfl]
    simp only [String.append_assoc]
  rw [Path.join_assoc, Path.stripBase?_join root, ← htext]
  · exact congrArg Prod.fst (Path.anchored_of_counts hsegments hfirst)
  · rw [hsegments, Path.trimStart, List.dropWhile_cons_of_neg (by simp [hfirst])]
  · rw [hinside.segments, Path.trimEnd_concat _ hinside.counts]

theorem stripBase?_sourcePath (root : Path) (ht : isTarget target = true) :
    Path.stripBase? root ((under root).sourcePath target) =
      some ⟨"app/mutations/" ++ target ++ ".rs"⟩ :=
  stripBase?_under root ⟨"app/mutations"⟩ (isStem_of_isTarget ht)
    ⟨"app", ["mutations"], by decide, by decide⟩ ⟨["app"], "mutations", by decide, by decide⟩

theorem stripBase?_testPath (root : Path) (ht : isTarget target = true) :
    Path.stripBase? root ((under root).testPath target) =
      some ⟨"spec/mutations/" ++ target ++ "_spec.rs"⟩ := by
  have htext : "spec/mutations/" ++ (target ++ "_spec") ++ ".rs" =
      "spec/mutations/" ++ target ++ "_spec.rs" := by
    rw [show "_spec.rs" = "_spec" ++ ".rs" from rfl]
    simp only [String.append_assoc]
  rw [← htext]
  exact stripBase?_under root ⟨"spec/mutations"⟩
    (isStem_append (isStem_of_isTarget ht) (under root))
    ⟨"spec", ["mutations"], by decide, by decide⟩ ⟨["spec"], "mutations", by decide, by decide⟩

end Layout

namespace Report

variable {report : Report} {root : Path} {target : String} {a b : Status}

/-- How the files of a target are told, one line for each. -/
def linesFor (target : String) (a b : Status) : List String :=
  [Text.alignRight 12 a.label ++ "  " ++ ("app/mutations/" ++ target ++ ".rs"),
    Text.alignRight 12 b.label ++ "  " ++ ("spec/mutations/" ++ target ++ "_spec.rs")]

/-- The report tells of two files below the root, by their statuses and by the ways to them from the
root. -/
structure Told (report : Report) (root : Path) (target : String) (a b : Status) : Prop where
  statuses : report.files.map Prod.snd = [a, b]
  below : ∀ file ∈ report.files, (Path.stripBase? root file.1).isSome = true
  printed : report.print root = Text.ofLines (linesFor target a b)
  two_lines : Text.lines (report.print root) = linesFor target a b
  aligned : ∀ status ∈ [a, b], (Text.alignRight 12 status.label).length = 12

theorem oneLine_linesFor (ht : isTarget target = true) (a b : Status) :
    ∀ line ∈ linesFor target a b, Text.OneLine line := by
  have htarget := oneLine_of_isTarget ht
  have hlabel : ∀ status : Status, Text.OneLine (Text.alignRight 12 status.label) := by
    intro status
    cases status <;> decide
  have hafter : ∀ text ∈ ["  ", "app/mutations/", "spec/mutations/", ".rs", "_spec.rs"],
      Text.OneLine text := by decide
  simp_all [linesFor]

theorem length_alignRight_label (status : Status) :
    (Text.alignRight 12 status.label).length = 12 := by
  cases status <;> decide

theorem line_of_stripBase? {p : Path} {text : String}
    (h : Path.stripBase? root p = some ⟨text⟩) (status : Status) :
    line root (p, status) = Text.alignRight 12 status.label ++ "  " ++ text := by
  rw [line, shown, h]
  rfl

theorem told_of_files (ht : isTarget target = true)
    (h : report.files = [((Layout.under root).sourcePath target, a),
      ((Layout.under root).testPath target, b)]) : report.Told root target a b := by
  have hsource := Layout.stripBase?_sourcePath root ht
  have htest := Layout.stripBase?_testPath root ht
  have hprinted : report.print root = Text.ofLines (linesFor target a b) := by
    rw [print, h, List.map_cons, List.map_cons, List.map_nil, line_of_stripBase? hsource,
      line_of_stripBase? htest, linesFor]
  constructor
  case statuses => rw [h]; rfl
  case below => simp [h, hsource, htest]
  case printed => exact hprinted
  case two_lines => rw [hprinted, Text.lines_ofLines (oneLine_linesFor ht a b)]
  case aligned => exact fun status _ => length_alignRight_label status

end Report

namespace Invocation

variable {i : Invocation} {s : Store} {report : Report}

theorem reports_of_run (h : (i.run s).result = .ok report) :
    i.generator.Reports s s i.request report := by
  unfold run at h
  split at h
  · obtain ⟨p, hplan, hreport⟩ := Outcome.map_eq_ok h
    exact .inr ⟨p, hplan, hreport.symm⟩
  · exact .inl h

theorem told_of_run (h : (i.run s).result = .ok report) :
    ∃ a b, report.Told i.displayRoot i.name a b := by
  have hreports := reports_of_run h
  obtain ⟨a, b, hfiles⟩ := Generator.files_of_reports hreports
  exact ⟨a, b, Report.told_of_files (Generator.isTarget_of_reports hreports) hfiles⟩

end Invocation

/-- What is printed of a run is two lines that the target and the statuses make up. The root has no
part in it. -/
theorem root_is_not_printed :
    (∀ (i : Invocation) (s : Store) (report : Report), (i.run s).result = .ok report →
      ∃ a b, report.Told i.displayRoot i.name a b) ∧
    ∀ (i j : Invocation) (s t : Store) (report report' : Report),
      (i.run s).result = .ok report → (j.run t).result = .ok report' → i.name = j.name →
        report.files.map Prod.snd = report'.files.map Prod.snd →
          report.print i.displayRoot = report'.print j.displayRoot := by
  refine ⟨fun i s report h => Invocation.told_of_run h,
    fun i j s t report report' h h' hname hstatuses => ?_⟩
  obtain ⟨a, b, htold⟩ := Invocation.told_of_run h
  obtain ⟨a', b', htold'⟩ := Invocation.told_of_run h'
  rw [htold.statuses, htold'.statuses] at hstatuses
  obtain ⟨rfl, hrest⟩ := List.cons.inj hstatuses
  obtain rfl := List.singleton_inj.mp hrest
  rw [htold.printed, htold'.printed, hname]

theorem root_with_dots_is_not_printed :
    let i : Invocation := ⟨"pay", ["sum:integer"], "/srv//./x/..", true, false, 0, false⟩
    let j : Invocation := ⟨"pay", ["sum:integer"], ".", false, false, 0, false⟩
    ∃ report report', (i.run (.empty none)).result = .ok report ∧
      (j.run (.empty none)).result = .ok report' ∧
      (∃ a b, report.Told i.displayRoot "pay" a b) ∧
      report.print i.displayRoot = report'.print j.displayRoot := by
  have hi : ((Invocation.mk "pay" ["sum:integer"] "/srv//./x/.." true false 0 false).run
      (.empty none)).result = .ok ⟨[(⟨"/srv//./x/../app/mutations/pay.rs"⟩, .created),
        (⟨"/srv//./x/../spec/mutations/pay_spec.rs"⟩, .skipped)]⟩ := by rfl
  have hj : ((Invocation.mk "pay" ["sum:integer"] "." false false 0 false).run
      (.empty none)).result = .ok ⟨[(⟨"./app/mutations/pay.rs"⟩, .created),
        (⟨"./spec/mutations/pay_spec.rs"⟩, .skipped)]⟩ := by rfl
  intro i j
  obtain ⟨htold, hsame⟩ := root_is_not_printed
  exact ⟨_, _, hi, hj, htold i _ _ hi, hsame i j _ _ _ _ hi hj rfl rfl⟩

end Stencil
