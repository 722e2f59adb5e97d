import Stencil.Proofs.Execution.Independence
import Stencil.Proofs.Execution.Repetition

/-! Requests for different targets under one root. Their files have places of their own, and neither
run has a part in whether the other wants a test stub, so the two may be made in either order. -/

namespace Stencil

namespace Layout

variable {root : Path} {target other : String}

/-- The files of a target, of which the test stub may be left out. -/
def paths (layout : Layout) (target : String) : List Path :=
  [layout.sourcePath target, layout.testPath target]

theorem placeOf_paths_under {p : Path} (ht : isTarget target = true)
    (hp : p ∈ (under root).paths target) (s : Store) :
    ∃ dir name, s.placeOf p = s.placeOf root ++ [dir, "mutations", name] ∧
      (dir = "app" ∧ name = target ++ "." ++ "rs" ∨
        dir = "spec" ∧ name = target ++ "_spec" ++ "." ++ "rs") := by
  rcases List.mem_cons.mp hp with rfl | htest
  · exact ⟨_, _, placeOf_sourcePath_under root s ht, .inl ⟨rfl, rfl⟩⟩
  · rw [List.mem_singleton.mp htest]
    exact ⟨_, _, placeOf_testPath_under root s ht, .inr ⟨rfl, rfl⟩⟩

theorem not_prefix_under {p q : Path} (ht : isTarget target = true) (hother : isTarget other = true)
    (hne : target ≠ other) (hp : p ∈ (under root).paths target)
    (hq : q ∈ (under root).paths other) (s : Store) : ¬ s.placeOf p <+: s.placeOf q := by
  obtain ⟨dir, name, hplace, hcase⟩ := placeOf_paths_under ht hp s
  obtain ⟨dir', name', hplace', hcase'⟩ := placeOf_paths_under hother hq s
  rw [hplace, hplace', List.prefix_append_right_inj, List.cons_prefix_cons, List.cons_prefix_cons,
    List.cons_prefix_cons]
  rintro ⟨hdir, -, hname, -⟩
  rcases hcase with ⟨rfl, rfl⟩ | ⟨rfl, rfl⟩ <;> rcases hcase' with ⟨rfl, rfl⟩ | ⟨rfl, rfl⟩
  · simp only [String.append_left_inj] at hname
    exact hne hname
  · exact absurd hdir (by decide)
  · exact absurd hdir (by decide)
  · simp only [String.append_left_inj] at hname
    exact hne hname

end Layout

theorem Plan.execute_comm {p p' : Plan} {s : Store} (hup : ∀ f ∈ p.files, ".." ∉ f.path.steps)
    (hup' : ∀ f ∈ p'.files, ".." ∉ f.path.steps)
    (h : ∀ f ∈ p.files, ∀ f' ∈ p'.files, PlannedFile.Unrelated s f f') :
    Commutes p.execute p'.execute s := by
  have hfiles := PlannedFile.installAll_comm hup hup' h
  exact ⟨congrArg (Except.map _) hfiles.first, congrArg (Except.map _) hfiles.second, hfiles.stores⟩

namespace Generator

variable {g g' : Generator} {root : Path} {s : Store} {r r' : Request} {p p' : Plan} {e : Failure}

theorem path_mem_of_plan (h : (g.plan s r).result = .ok p) {f : PlannedFile} (hf : f ∈ p.files) :
    f.path ∈ g.layout.paths r.target :=
  (sublist_of_plan h).mem (List.mem_map_of_mem hf)

theorem unrelated_of_plans (hg : g.layout = .under root) (hg' : g'.layout = .under root)
    (hne : r.target ≠ r'.target) (h : (g.plan s r).result = .ok p)
    (h' : (g'.plan s r').result = .ok p') (t : Store) :
    ∀ f ∈ p.files, ∀ f' ∈ p'.files, PlannedFile.Unrelated t f f' := by
  intro f hf f' hf'
  have hpath := path_mem_of_plan h hf
  have hpath' := path_mem_of_plan h' hf'
  rw [hg] at hpath
  rw [hg'] at hpath'
  have ht := (plan_eq_ok h).1
  have ht' := (plan_eq_ok h').1
  exact ⟨Layout.not_prefix_under ht ht' hne hpath hpath' t,
    Layout.not_prefix_under ht' ht hne.symm hpath' hpath t⟩

theorem generate_after_of_plan_error (h : (g.plan s r).result = .error e) (t : Store) :
    (g.generate t r).result = .error e ∧ (g.generate t r).store = t :=
  g.generate_of_plan_error t r ((g.plan_eq_error_iff t r).mpr ((g.plan_eq_error_iff s r).mp h))

/-- Requests for different targets do not meet: in whichever order they are made, each ends as it
would alone, and together they leave the same. -/
theorem requests_for_different_targets_commute (hroot : ".." ∉ root.steps)
    (hg : g.layout = .under root) (hg' : g'.layout = .under root) (s : Store)
    (hne : r.target ≠ r'.target) :
    (g'.generate (g.generate s r).store r').store =
        (g.generate (g'.generate s r').store r).store ∧
      (g.generate (g'.generate s r').store r).result = (g.generate s r).result ∧
      (g'.generate (g.generate s r).store r').result = (g'.generate s r').result := by
  cases h : (g.plan s r).result with
  | error e =>
    obtain ⟨hresult, hstore⟩ := g.generate_of_plan_error s r h
    obtain ⟨hafter, hstore'⟩ := generate_after_of_plan_error h (g'.generate s r').store
    rw [hstore, hstore', hresult, hafter]
    exact ⟨rfl, rfl, rfl⟩
  | ok p =>
    cases h' : (g'.plan s r').result with
    | error e =>
      obtain ⟨hresult, hstore⟩ := g'.generate_of_plan_error s r' h'
      obtain ⟨hafter, hstore'⟩ := generate_after_of_plan_error h' (g.generate s r).store
      rw [hstore, hstore', hresult, hafter]
      exact ⟨rfl, rfl, rfl⟩
    | ok p' =>
      have hsteady : g.layout.Steady s r.target :=
        hg ▸ Layout.steady_under hroot s (plan_eq_ok h).1
      have hsteady' : g'.layout.Steady s r'.target :=
        hg' ▸ Layout.steady_under hroot s (plan_eq_ok h').1
      have hplan := (plan_after_generate hsteady (hg'.trans hg.symm) h r').trans h'
      have hplan' := (plan_after_generate hsteady' (hg.trans hg'.symm) h' r).trans h
      have hcomm := Plan.execute_comm (not_up_of_plan hsteady.descends h)
        (not_up_of_plan hsteady'.descends h') (unrelated_of_plans hg hg' hne h h' s)
      rw [(g'.generate_of_plan_ok _ r' hplan).1, (g'.generate_of_plan_ok _ r' hplan).2,
        (g.generate_of_plan_ok _ r hplan').1, (g.generate_of_plan_ok _ r hplan').2,
        (g.generate_of_plan_ok s r h).1, (g.generate_of_plan_ok s r h).2,
        (g'.generate_of_plan_ok s r' h').1, (g'.generate_of_plan_ok s r' h').2]
      exact ⟨hcomm.stores.symm, hcomm.first, hcomm.second⟩

/-- A test stub may go by the name of another target's source. -/
theorem payment_and_its_namesake_commute :
    let before := (Store.empty none).put ["spec"] .directory
    let between := (sketch.generate before ⟨"pay", ["sum:integer"]⟩).store
    let between' := (sketch.generate before ⟨"pay_spec", []⟩).store
    (sketch.generate between ⟨"pay_spec", []⟩).store =
        (sketch.generate between' ⟨"pay", ["sum:integer"]⟩).store ∧
      (sketch.generate between' ⟨"pay", ["sum:integer"]⟩).result =
        .ok ⟨[(⟨"./app/mutations/pay.rs"⟩, .created),
          (⟨"./spec/mutations/pay_spec.rs"⟩, .created)]⟩ := by
  have hroot : ".." ∉ (Path.mk ".").steps := by decide
  have hne : (Request.mk "pay" ["sum:integer"]).target ≠ (Request.mk "pay_spec" []).target := by
    decide
  have hrun : (sketch.generate ((Store.empty none).put ["spec"] .directory)
      ⟨"pay", ["sum:integer"]⟩).result = .ok ⟨[(⟨"./app/mutations/pay.rs"⟩, .created),
        (⟨"./spec/mutations/pay_spec.rs"⟩, .created)]⟩ := by rfl
  have hlayout : sketch.layout = .under ⟨"."⟩ := rfl
  obtain ⟨hstore, hresult, -⟩ := requests_for_different_targets_commute hroot hlayout hlayout
    ((Store.empty none).put ["spec"] .directory) hne
  exact ⟨hstore, hresult.trans hrun⟩

end Generator

end Stencil
