import Stencil.Proofs.Execution.Placement
import Stencil.Proofs.Planning.Files

/-! One request after another for the same target. The first run may make directories, but not such
as would turn a place without a test root into one with a test root, so the second run plans for the
files that the first planned for, and the last word is its own. -/

namespace Stencil

namespace Layout

/-- No run for the target can make the test root: it is there, or it does not lie on the way to the
source. -/
structure Steady (layout : Layout) (s : Store) (target : String) : Prop where
  descends : layout.Descends
  testRoot : layout.hasTestRoot s = true ∨
    ¬ (s.placeOf (layout.root.join layout.testRoot) <+: s.placeOf (layout.sourcePath target) ∧
      s.placeOf (layout.root.join layout.testRoot) ≠ s.placeOf (layout.sourcePath target))

theorem steady_under {root : Path} (h : ".." ∉ root.steps) (s : Store) {target : String}
    (ht : isTarget target = true) : (under root).Steady s target := by
  refine ⟨descends_under h, .inr ?_⟩
  rintro ⟨hway, -⟩
  have hroot : (under root).root = root := rfl
  rw [hroot, placeOf_testRoot_under, placeOf_sourcePath_under root s ht] at hway
  -- the two part ways right below the root
  have hnames := (List.prefix_append_right_inj _).mp hway
  rw [List.cons_prefix_cons] at hnames
  exact absurd hnames.1 (by decide)

theorem Descends.not_up_testRoot {layout : Layout} (h : layout.Descends) :
    ".." ∉ (layout.root.join layout.testRoot).steps :=
  h.not_up_join (by simp)

end Layout

namespace Generator

variable {g : Generator} {s t : Store} {r r' : Request} {p p' : Plan}

theorem hasTestRoot_installAll (hlayout : g.layout.Steady s r.target)
    (h : (g.plan s r).result = .ok p) :
    g.layout.hasTestRoot (PlannedFile.installAll p.files s).store = g.layout.hasTestRoot s := by
  cases hthere : g.layout.hasTestRoot s with
  | true => exact (PlannedFile.growsTo_installAll p.files s).isDirectory hthere
  | false =>
    have hways := hlayout.testRoot.resolve_left (by simp [hthere])
    obtain ⟨-, b, -, hb, hp⟩ := plan_eq_ok h
    have hpaths : p.files.map (·.path) = [g.layout.sourcePath r.target] := by
      rw [hp, paths_planFor, wantsStub, hthere, Bool.and_false, hb]
      rfl
    by_contra hfound
    -- a directory that the run has made leads to the source, and the test root does not
    rw [Bool.not_eq_false, Layout.hasTestRoot] at hfound
    rcases PlannedFile.isDirectory_installAll (not_up_of_plan hlayout.descends h)
      hlayout.descends.not_up_testRoot hfound with hold | ⟨f, hf, hway⟩
    · rw [Layout.hasTestRoot, hold] at hthere
      contradiction
    · have hmem : f.path ∈ p.files.map (·.path) := List.mem_map_of_mem hf
      rw [hpaths, List.mem_singleton] at hmem
      rw [hmem] at hway
      exact hways hway

/-- A run has no part in what is planned after it, if by another generator for the same places. -/
theorem plan_after_generate {g' : Generator} (hlayout : g.layout.Steady s r.target)
    (hsame : g'.layout = g.layout) (h : (g.plan s r).result = .ok p) (r' : Request) :
    (g'.plan (g.generate s r).store r').result = (g'.plan s r').result := by
  rw [(g.generate_of_plan_ok s r h).2, Plan.store_execute, result_plan, result_plan, wantsStub,
    wantsStub, hsame, hasTestRoot_installAll hlayout h]

theorem paths_of_plans (htarget : r.target = r'.target) (h : (g.plan s r).result = .ok p)
    (h' : (g.plan s r').result = .ok p') :
    p.files.map (·.path) = p'.files.map (·.path) ∧ p.skippedEntry = p'.skippedEntry := by
  obtain ⟨-, b, -, hb, rfl⟩ := plan_eq_ok h
  obtain ⟨-, b', -, hb', rfl⟩ := plan_eq_ok h'
  rw [paths_planFor, paths_planFor, hb, hb', htarget]
  refine ⟨rfl, ?_⟩
  simp only [Plan.skippedEntry, planFor, hb, hb', htarget]

theorem store_generate_again (hlayout : g.layout.Steady s r.target) (htarget : r.target = r'.target)
    (h : (g.plan s r).result = .ok p) (h' : (g.plan s r').result = .ok p') :
    (g.generate (g.generate s r).store r').store = (g.generate s r').store := by
  have hplan := (plan_after_generate hlayout rfl h r').trans h'
  rw [(g.generate_of_plan_ok _ r' hplan).2, (g.generate_of_plan_ok s r' h').2,
    (g.generate_of_plan_ok s r h).2]
  exact PlannedFile.store_installAll_again (not_up_of_plan hlayout.descends h)
    (paths_of_plans htarget h h').1 s

theorem result_generate_again (hlayout : g.layout.Steady s r.target)
    (htarget : r.target = r'.target) (h : (g.plan s r).result = .ok p)
    (h' : (g.plan s r').result = .ok p') {report : Report}
    (hok : (g.generate s r).result = .ok report) :
    (g.generate (g.generate s r).store r').result =
      .ok ⟨List.zipWith PlannedFile.renewed p.files p'.files ++ p'.skippedEntry⟩ := by
  have hplan := (plan_after_generate hlayout rfl h r').trans h'
  rw [(g.generate_of_plan_ok s r h).1] at hok
  obtain ⟨entries, hentries, -⟩ := Plan.execute_eq_ok hok
  rw [(g.generate_of_plan_ok _ r' hplan).1, (g.generate_of_plan_ok s r h).2]
  refine Plan.result_execute (PlannedFile.installAll_again_entries
    (not_up_of_plan hlayout.descends h) (paths_of_plans htarget h h').1 (apart_of_plan h s) ?_)
  rw [hentries]
  rfl

/-- The later of two requests for one target has the last word: what it leaves is what it leaves
alone, and it tells how its files differ from those of the earlier one. -/
theorem generate_forgets_earlier_run (hlayout : g.layout.Steady s r.target)
    (htarget : r.target = r'.target) (h : (g.plan s r).result = .ok p)
    (h' : (g.plan s r').result = .ok p') :
    (g.generate (g.generate s r).store r').store = (g.generate s r').store ∧
    (∀ report, (g.generate s r).result = .ok report →
      ∃ written, report.files = written ++ p.skippedEntry ∧
        written.map Prod.fst = p.files.map (·.path) ∧
        (g.generate (g.generate s r).store r').result =
          .ok ⟨List.zipWith PlannedFile.renewed p.files p'.files ++ p.skippedEntry⟩) ∧
    (g.generate (g.generate s r).store r).store = (g.generate s r).store ∧
    (∀ report, (g.generate s r).result = .ok report →
      (g.generate (g.generate s r).store r).result =
        .ok ⟨p.files.map (fun f => (f.path, .identical)) ++ p.skippedEntry⟩) ∧
    ∀ (root : Path) (t : Store) (target : String), ".." ∉ root.steps → isTarget target = true →
      (Layout.under root).Steady t target := by
  refine ⟨store_generate_again hlayout htarget h h', fun report hok => ?_,
    store_generate_again hlayout rfl h h, fun report hok => ?_,
    fun root t target hroot ht => Layout.steady_under hroot t ht⟩
  · obtain ⟨entries, hentries, hreport⟩ :=
      Plan.execute_eq_ok ((g.generate_of_plan_ok s r h).1 ▸ hok)
    refine ⟨entries, by rw [hreport], PlannedFile.installAll_paths hentries, ?_⟩
    rw [(paths_of_plans htarget h h').2]
    exact result_generate_again hlayout htarget h h' hok
  · rw [result_generate_again hlayout rfl h h hok, List.zipWith_self]
    simp [PlannedFile.renewed]

/-- A generator whose files say only whether there are inputs. -/
def sketch : Generator :=
  { renderer := fun _ b => if b.inputs = [] then "none" else "some" }

theorem later_payment_forgets_earlier_one :
    let before := Store.empty none
    let between := (sketch.generate before ⟨"pay", []⟩).store
    (sketch.generate between ⟨"pay", ["sum:integer"]⟩).store =
        (sketch.generate before ⟨"pay", ["sum:integer"]⟩).store ∧
      (sketch.generate between ⟨"pay", ["sum:integer"]⟩).result =
        .ok ⟨[(⟨"./app/mutations/pay.rs"⟩, .overwritten),
          (⟨"./spec/mutations/pay_spec.rs"⟩, .skipped)]⟩ := by
  have hplan : (sketch.plan (.empty none) ⟨"pay", []⟩).result = .ok ⟨"Pay", [], [],
      [⟨.mutation, ⟨"./app/mutations/pay.rs"⟩, "none"⟩],
      some ⟨"./spec/mutations/pay_spec.rs"⟩⟩ := by rfl
  have hplan' : (sketch.plan (.empty none) ⟨"pay", ["sum:integer"]⟩).result = .ok ⟨"Pay",
      [⟨⟨"sum", false, by decide⟩, .integer, .implied, by decide⟩], [],
      [⟨.mutation, ⟨"./app/mutations/pay.rs"⟩, "some"⟩],
      some ⟨"./spec/mutations/pay_spec.rs"⟩⟩ := by rfl
  have hrun : (sketch.generate (.empty none) ⟨"pay", []⟩).result =
      .ok ⟨[(⟨"./app/mutations/pay.rs"⟩, .created),
        (⟨"./spec/mutations/pay_spec.rs"⟩, .skipped)]⟩ := by rfl
  have hroot : ".." ∉ (Path.mk ".").steps := by decide
  have hlayout : sketch.layout.Steady (.empty none) "pay" :=
    Layout.steady_under hroot _ (by decide)
  have htarget : (Request.mk "pay" []).target = (Request.mk "pay" ["sum:integer"]).target := rfl
  obtain ⟨hstore, hresult, -⟩ := generate_forgets_earlier_run hlayout htarget hplan hplan'
  obtain ⟨-, -, -, hagain⟩ := hresult _ hrun
  exact ⟨hstore, hagain⟩

end Generator

end Stencil
