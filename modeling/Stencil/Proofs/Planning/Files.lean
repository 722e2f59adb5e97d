import Stencil.Proofs.Execution.Again
import Stencil.Proofs.Layout
import Stencil.Proofs.Planning.Failure

/-! The files that a plan names. They are the source and perhaps the test stub of the target asked
for; under a layout that descends both lead down, and each has a place of its own. -/

namespace Stencil

theorem Request.brief_eq_ok {r : Request} {typeCase : String → String} {b : Brief}
    (h : (r.brief typeCase).result = .ok b) : isTarget r.target = true ∧ b.target = r.target := by
  rw [result_brief] at h
  cases has : r.attributes.result with
  | error f =>
    rw [has] at h
    contradiction
  | ok as =>
    have htarget : isTarget r.target = true := by
      rw [result_attributes] at has
      split at has
      · assumption
      · contradiction
    simp only [has, Except.bind] at h
    split at h
    · contradiction
    · split at h
      · contradiction
      · exact ⟨htarget, by rw [← Except.ok.inj h]⟩

namespace Generator

variable {g : Generator} {s t : Store} {r : Request} {p : Plan}

theorem plan_eq_ok (h : (g.plan s r).result = .ok p) :
    isTarget r.target = true ∧
      ∃ b, (r.brief g.typeCase).result = .ok b ∧ b.target = r.target ∧
        p = g.planFor (g.wantsStub s) b := by
  rw [result_plan] at h
  cases hbrief : (r.brief g.typeCase).result with
  | error f =>
    rw [hbrief] at h
    contradiction
  | ok b =>
    rw [hbrief] at h
    obtain ⟨htarget, hb⟩ := Request.brief_eq_ok hbrief
    exact ⟨htarget, b, rfl, hb, (Except.ok.inj h).symm⟩

theorem paths_planFor (g : Generator) (stub : Bool) (b : Brief) :
    (g.planFor stub b).files.map (·.path) =
      g.layout.sourcePath b.target :: if stub then [g.layout.testPath b.target] else [] := by
  cases stub <;> rfl

/-- A plan has the source before the test stub, if that is left out or not. -/
theorem paths_of_plan (h : (g.plan s r).result = .ok p) :
    p.files.map (·.path) ++ p.skipped.toList =
      [g.layout.sourcePath r.target, g.layout.testPath r.target] := by
  obtain ⟨-, b, -, hb, rfl⟩ := plan_eq_ok h
  rw [paths_planFor, hb]
  cases hstub : g.wantsStub s with
  | false => simp [planFor, hb]
  | true => simp [planFor]

theorem sublist_of_plan (h : (g.plan s r).result = .ok p) :
    (p.files.map (·.path)).Sublist [g.layout.sourcePath r.target, g.layout.testPath r.target] :=
  paths_of_plan h ▸ List.sublist_append_left _ _

theorem not_up_of_plan (hlayout : g.layout.Descends) (h : (g.plan s r).result = .ok p) :
    ∀ f ∈ p.files, ".." ∉ f.path.steps := by
  have htarget := (plan_eq_ok h).1
  have hpaths : ∀ q ∈ [g.layout.sourcePath r.target, g.layout.testPath r.target],
      ".." ∉ q.steps := by
    rw [List.forall_mem_cons, List.forall_mem_singleton]
    exact ⟨hlayout.not_up_sourcePath htarget, hlayout.not_up_testPath htarget⟩
  exact fun f hf => hpaths _ ((sublist_of_plan h).mem (List.mem_map_of_mem hf))

theorem apart_of_plan (h : (g.plan s r).result = .ok p) (t : Store) :
    t.Apart (p.files.map (·.path)) := by
  have hboth : t.Apart [g.layout.sourcePath r.target, g.layout.testPath r.target] := by
    rw [Store.Apart, List.pairwise_pair]
    exact g.layout.placeOf_sourcePath_ne (plan_eq_ok h).1 t
  exact hboth.sublist (sublist_of_plan h)

end Generator

end Stencil
