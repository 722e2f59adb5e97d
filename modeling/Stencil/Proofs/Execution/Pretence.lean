import Stencil.Proofs.Execution.Placement
import Stencil.Proofs.Planning.Files

/-! A pretended run and the run itself. The forecasts are all made in the store before the run, and
each comes true unless the run itself puts another file in the same place first. -/

namespace Stencil

namespace PlannedFile

variable {f g : PlannedFile} {fs : List PlannedFile} {s t : Store}

theorem forecast_of_statusOf {status : Status} (h : s.statusOf f.path f.contents = .ok status) :
    f.forecast s = (f.path, status) := by
  rw [forecast, h]

theorem fst_forecast (f : PlannedFile) (s : Store) : (f.forecast s).1 = f.path := by
  rw [forecast]
  split <;> rfl

theorem forecast_of_none (hup : ".." ∉ f.path.steps) (h : s.get? (s.placeOf f.path) = none) :
    f.forecast s = (f.path, .created) := by
  cases hlocate : s.locate f.path with
  | ok l =>
    obtain rfl := Store.locate_eq_placeOf hup hlocate
    rw [forecast_of_statusOf (Store.statusOf_of_locate _ hlocate (by simp [h])), h]
    rfl
  | error fault =>
    rw [forecast, Store.statusOf, Store.read, hlocate]
    cases fault <;> rfl

theorem forecast_of_growsTo (hup : ".." ∉ f.path.steps) (hgrow : s.GrowsTo t)
    (hlocate : t.locate f.path = .ok (s.placeOf f.path))
    (hfile : t.kind? (s.placeOf f.path) = some .file) :
    f.forecast s = (f.path, .over (s.get? (s.placeOf f.path)) f.contents) := by
  cases hold : s.get? (s.placeOf f.path) with
  | none => exact forecast_of_none hup hold
  | some e =>
    -- what is a file now cannot have been a directory, and the way to it was open before
    have hdir : s.get? (s.placeOf f.path) ≠ some .directory := by
      intro hdir
      rw [hgrow.kind (Store.kind?_eq_directory_iff.mpr hdir)] at hfile
      contradiction
    have hback := hgrow.locate_back hup hlocate (by simp [hold])
    rw [forecast_of_statusOf (Store.statusOf_of_locate _ hback hdir), hold]

theorem forecast_of_installAll {entries : List (Path × Status)}
    (hup : ∀ g ∈ fs, ".." ∉ g.path.steps) (h : (installAll fs s).result = .ok entries)
    (hf : f ∈ fs) :
    f.forecast s = (f.path, .over (s.get? (s.placeOf f.path)) f.contents) := by
  have hok : (installAll fs s).result.isOk = true := by rw [h]; rfl
  exact forecast_of_growsTo (hup f hf) (growsTo_installAll fs s) (locate_installAll hup hok f hf)
    (kind?_installAll hup hok hf)

/-- The forecast of a file comes true where no file before it has the same place. -/
theorem installAll_forecast {before after : List PlannedFile} {entries : List (Path × Status)}
    (hfs : fs = before ++ f :: after) (hup : ∀ g ∈ fs, ".." ∉ g.path.steps)
    (h : (installAll fs s).result = .ok entries)
    (hfirst : ∀ g ∈ before, s.placeOf g.path ≠ s.placeOf f.path) :
    entries[before.length]? = some (f.forecast s) := by
  have hmem : f ∈ fs := by rw [hfs]; simp
  rw [installAll_entry hfs hup h, leftAt_of_no_place hfirst, forecast_of_installAll hup h hmem]

theorem installAll_entry_over {before between after : List PlannedFile}
    {entries : List (Path × Status)} (hfs : fs = (before ++ g :: between) ++ f :: after)
    (hup : ∀ g ∈ fs, ".." ∉ g.path.steps) (h : (installAll fs s).result = .ok entries)
    (hplace : s.placeOf g.path = s.placeOf f.path)
    (hlast : ∀ b ∈ between, s.placeOf b.path ≠ s.placeOf f.path) :
    entries[(before ++ g :: between).length]? =
      some (f.path, if g.contents = f.contents then .identical else .overwritten) := by
  rw [← hplace] at hlast
  rw [installAll_entry hfs hup h, ← hplace, leftAt_of_last hlast]
  rfl

theorem entries_eq_forecasts {entries : List (Path × Status)}
    (hup : ∀ g ∈ fs, ".." ∉ g.path.steps) (h : (installAll fs s).result = .ok entries)
    (hapart : s.Apart (fs.map path)) : entries = fs.map (·.forecast s) := by
  have hlength : entries.length = fs.length := by
    simpa using congrArg List.length (installAll_paths h)
  refine eq_of_parted hlength (List.length_map _) fun before f after hfs => ?_
  rw [installAll_forecast hfs hup h (not_place_of_apart hfs hapart).1, hfs]
  simp

end PlannedFile

namespace Plan

variable {p : Plan} {s : Store} {r : Report}

/-- How a report of a run stands to the report of pretending it. -/
structure Foretold (p : Plan) (s : Store) (r : Report) : Prop where
  paths : r.files.map Prod.fst = p.files.map (·.path) ++ p.skipped.toList
  same_paths : r.files.map Prod.fst = (p.pretend s).files.map Prod.fst
  skipped : r.files.drop p.files.length = p.skippedEntry ∧
    (p.pretend s).files.drop p.files.length = p.skippedEntry
  first : ∀ before f after, p.files = before ++ f :: after →
    (∀ g ∈ before, s.placeOf g.path ≠ s.placeOf f.path) →
    r.files[before.length]? = (p.pretend s).files[before.length]?
  later : ∀ before g between f after, p.files = (before ++ g :: between) ++ f :: after →
    s.placeOf g.path = s.placeOf f.path →
    (∀ b ∈ between, s.placeOf b.path ≠ s.placeOf f.path) →
    r.files[(before ++ g :: between).length]? =
      some (f.path, if g.contents = f.contents then .identical else .overwritten)
  apart : s.Apart (p.files.map (·.path)) → r = p.pretend s
  seen : ∀ f ∈ p.files,
    f.forecast s = (f.path, .over (s.get? (s.placeOf f.path)) f.contents)

theorem paths_skippedEntry (p : Plan) : p.skippedEntry.map Prod.fst = p.skipped.toList := by
  rw [skippedEntry, List.map_map]
  exact List.map_id _

theorem paths_pretend (p : Plan) (s : Store) :
    (p.pretend s).files.map Prod.fst = p.files.map (·.path) ++ p.skipped.toList := by
  rw [pretend, List.map_append, List.map_map, paths_skippedEntry]
  simp [PlannedFile.fst_forecast]

theorem paths_execute (h : (p.execute s).result = .ok r) :
    r.files.map Prod.fst = p.files.map (·.path) ++ p.skipped.toList := by
  obtain ⟨entries, hentries, rfl⟩ := execute_eq_ok h
  rw [List.map_append, PlannedFile.installAll_paths hentries, paths_skippedEntry]

theorem foretold_of_execute (hup : ∀ f ∈ p.files, ".." ∉ f.path.steps)
    (h : (p.execute s).result = .ok r) : Foretold p s r := by
  have htold := paths_execute h
  obtain ⟨entries, hentries, rfl⟩ := execute_eq_ok h
  have hlength : entries.length = p.files.length := by
    simpa using congrArg List.length (PlannedFile.installAll_paths hentries)
  refine ⟨htold, htold.trans (p.paths_pretend s).symm, ⟨?_, ?_⟩,
    fun before f after hfs hfirst => ?_, fun before g between f after hfs hplace hlast => ?_,
    fun hapart => ?_, fun f hf => PlannedFile.forecast_of_installAll hup hentries hf⟩
  · exact List.drop_left' hlength
  · exact List.drop_left' (List.length_map _)
  · have hentry := PlannedFile.installAll_forecast hfs hup hentries hfirst
    rw [List.getElem?_append_left (List.getElem?_eq_some_iff.mp hentry).1, hentry, pretend, hfs]
    simp
  · have hentry := PlannedFile.installAll_entry_over hfs hup hentries hplace hlast
    rw [List.getElem?_append_left (List.getElem?_eq_some_iff.mp hentry).1, hentry]
  · rw [pretend, PlannedFile.entries_eq_forecasts hup hentries hapart]

end Plan

theorem Generator.generate_eq_ok {g : Generator} {s : Store} {r : Request} {report : Report}
    (h : (g.generate s r).result = .ok report) :
    ∃ p, (g.plan s r).result = .ok p ∧ (p.execute s).result = .ok report := by
  obtain ⟨p, hplan, hexecute, -⟩ := Outcome.andThen_eq_ok h
  exact ⟨p, hplan, hexecute⟩

/-- What a run reports is what pretending it would have said, up to files that share a place; the
program itself never plans such files, so that its two reports are the same. -/
theorem pretence_foretells_the_run :
    (∀ (p : Plan) (s : Store) (r : Report), (∀ f ∈ p.files, ".." ∉ f.path.steps) →
      (p.execute s).result = .ok r → p.Foretold s r) ∧
    ∀ (i : Invocation) (s : Store) (r : Report), ".." ∉ (Path.mk i.root).steps →
      ({ i with pretend := false }.run s).result = .ok r →
        ({ i with pretend := true }.run s).result = .ok r := by
  refine ⟨fun p s r hup h => Plan.foretold_of_execute hup h, fun i s r hroot h => ?_⟩
  obtain ⟨p, hplan, hexecute⟩ := Generator.generate_eq_ok h
  have hup := Generator.not_up_of_plan (Layout.descends_under hroot) hplan
  have hsame := (Plan.foretold_of_execute hup hexecute).apart (Generator.apart_of_plan hplan s)
  show Except.map (fun plan => plan.pretend s) (i.generator.plan s i.request).result = .ok r
  rw [hsame, show (i.generator.plan s i.request).result = .ok p from hplan]
  rfl

theorem pretence_foretells_payment :
    let p : Plan :=
      ⟨"Pay", [], [], [⟨.mutation, ⟨"app/pay.rs"⟩, "a"⟩, ⟨.spec, ⟨"app//./pay.rs"⟩, "b"⟩], none⟩
    p.Foretold (.empty none) ⟨[(⟨"app/pay.rs"⟩, .created), (⟨"app//./pay.rs"⟩, .overwritten)]⟩ ∧
      ((Invocation.mk "pay" ["sum:integer"] "." true false 0 false).run (.empty none)).result =
        .ok ⟨[(⟨"./app/mutations/pay.rs"⟩, .created),
          (⟨"./spec/mutations/pay_spec.rs"⟩, .skipped)]⟩ := by
  intro p
  have hup : ∀ f ∈ p.files, ".." ∉ f.path.steps := by decide
  have hexecute : (p.execute (.empty none)).result =
      .ok ⟨[(⟨"app/pay.rs"⟩, .created), (⟨"app//./pay.rs"⟩, .overwritten)]⟩ := by rfl
  have hroot : ".." ∉ (Path.mk ".").steps := by decide
  have hrun : ((Invocation.mk "pay" ["sum:integer"] "." false false 0 false).run
      (.empty none)).result = .ok ⟨[(⟨"./app/mutations/pay.rs"⟩, .created),
        (⟨"./spec/mutations/pay_spec.rs"⟩, .skipped)]⟩ := by rfl
  exact ⟨pretence_foretells_the_run.1 p _ _ hup hexecute,
    pretence_foretells_the_run.2 ⟨"pay", ["sum:integer"], ".", false, false, 0, false⟩ _ _ hroot
      hrun⟩

end Stencil
