import Stencil.Session
import Stencil.Proofs.Definition.Tokens
import Stencil.Proofs.Execution.Run

/-! Whatever is wrong with a request is found before anything is written. Planning finds only faults
of the definition and carrying out meets only refusals of the store, so the kind of a failure tells
whether anything can have been written. The verdict on a request depends on nothing but the request
and the naming of types. -/

namespace Stencil

namespace Attribute

theorem isDefinition_of_parse {token : String} {f : Failure} (h : parse token = .error f) :
    f.isDefinition = true := by
  cases parse_eq_error_iff.mp h <;> rfl

theorem isDefinition_of_parseAll {tokens : List String} {f : Failure}
    (h : parseAll tokens = .error f) : f.isDefinition = true := by
  obtain ⟨_, _, _, -, -, htoken⟩ := exists_first_fault h
  exact isDefinition_of_parse htoken

end Attribute

namespace Request

theorem result_attributes (r : Request) :
    r.attributes.result =
      if isTarget r.target then Attribute.parseAll r.definitions
      else .error (.invalidTarget r.target) := by
  rw [attributes, targetCheck]
  cases isTarget r.target with
  | false => rfl
  | true =>
    simp only [if_true]
    cases Attribute.parseAll r.definitions <;> rfl

theorem result_brief (r : Request) (typeCase : String → String) :
    (r.brief typeCase).result = r.attributes.result.bind fun as =>
      match Attribute.repeatedName? [] as with
      | some name => .error (.duplicateName name)
      | none =>
        match Identifier.ofText? (typeCase r.target) with
        | none => .error (.invalidTypeName r.target (typeCase r.target))
        | some typeName =>
          .ok ⟨r.target, typeName, (Attribute.partition as).1, (Attribute.partition as).2⟩ := by
  rw [brief, Traced.result_andThen]
  congr 1
  funext as
  cases Attribute.repeatedName? [] as <;> rfl

theorem isDefinition_of_attributes {r : Request} {f : Failure}
    (h : r.attributes.result = .error f) : f.isDefinition = true := by
  rw [result_attributes] at h
  split at h
  · exact Attribute.isDefinition_of_parseAll h
  · cases h
    rfl

theorem isDefinition_of_brief {r : Request} {typeCase : String → String} {f : Failure}
    (h : (r.brief typeCase).result = .error f) : f.isDefinition = true := by
  rw [result_brief] at h
  cases has : r.attributes.result with
  | error g =>
    rw [has] at h
    obtain rfl : g = f := Except.error.inj h
    exact isDefinition_of_attributes has
  | ok as =>
    simp only [has, Except.bind] at h
    split at h
    · cases h
      rfl
    · split at h <;> cases h
      rfl

end Request

namespace Generator

variable (g : Generator) (s : Store) (r : Request)

theorem result_plan :
    (g.plan s r).result = (r.brief g.typeCase).result.map (g.planFor (g.wantsStub s)) := by
  rw [plan, Traced.result_andThen]
  cases (r.brief g.typeCase).result <;> rfl

theorem plan_eq_error_iff {f : Failure} :
    (g.plan s r).result = .error f ↔ (r.brief g.typeCase).result = .error f := by
  rw [result_plan]
  cases (r.brief g.typeCase).result <;> simp [Except.map]

theorem isDefinition_of_plan {f : Failure} (h : (g.plan s r).result = .error f) :
    f.isDefinition = true :=
  Request.isDefinition_of_brief ((g.plan_eq_error_iff s r).mp h)

theorem generate_of_plan_error {f : Failure} (h : (g.plan s r).result = .error f) :
    (g.generate s r).result = .error f ∧ (g.generate s r).store = s := by
  have hplan : ((g.plan s r).inStore s).result = .error f := h
  rw [generate, Outcome.andThen_of_error hplan]
  exact ⟨rfl, rfl⟩

theorem generate_of_plan_ok {p : Plan} (h : (g.plan s r).result = .ok p) :
    (g.generate s r).result = (p.execute s).result ∧
      (g.generate s r).store = (p.execute s).store := by
  have hplan : ((g.plan s r).inStore s).result = .ok p := h
  rw [generate, Outcome.andThen_of_ok hplan]
  exact ⟨rfl, rfl⟩

end Generator

theorem Plan.execute_eq_error {p : Plan} {s : Store} {f : Failure}
    (h : (p.execute s).result = .error f) :
    ∃ operation path fault, f = .refused operation path fault :=
  PlannedFile.installAll_eq_error (Outcome.map_eq_error.mp h)

/-- Among the failures of a run those of the definition are those of the plan. -/
theorem Generator.generate_eq_definition_error_iff (g : Generator) (s : Store) (r : Request)
    {f : Failure} (hf : f.isDefinition = true) :
    (g.generate s r).result = .error f ↔ (g.plan s r).result = .error f := by
  refine ⟨fun h => ?_, fun h => (g.generate_of_plan_error s r h).1⟩
  cases hplan : (g.plan s r).result with
  | error f' =>
    rw [(g.generate_of_plan_error s r hplan).1] at h
    rw [Except.error.inj h]
  | ok p =>
    rw [(g.generate_of_plan_ok s r hplan).1] at h
    obtain ⟨operation, path, fault, rfl⟩ := Plan.execute_eq_error h
    contradiction

namespace Invocation

variable (i : Invocation) (s : Store)

theorem run_of_plan_error {f : Failure} (h : (i.generator.plan s i.request).result = .error f) :
    (i.run s).result = .error f ∧ (i.run s).store = s := by
  rw [run]
  split
  · exact ⟨Outcome.map_eq_error.mpr h, rfl⟩
  · exact i.generator.generate_of_plan_error s i.request h

theorem run_eq_definition_error_iff {f : Failure} (hf : f.isDefinition = true) :
    (i.run s).result = .error f ↔ (i.request.brief pascalCase).result = .error f := by
  have hplan : (i.generator.plan s i.request).result = .error f ↔
      (i.request.brief pascalCase).result = .error f := i.generator.plan_eq_error_iff s i.request
  rw [← hplan, run]
  split
  · exact Outcome.map_eq_error
  · exact i.generator.generate_eq_definition_error_iff s i.request hf

end Invocation

/-- Either the definition is at fault, and then the store is left alone, by every way of running and
with the same failure whatever the store and the layout; or only the store can refuse. -/
theorem definition_failure_precedes_writing (g : Generator) (s : Store) (r : Request) :
    (∀ operation path fault, (g.plan s r).result ≠ .error (.refused operation path fault)) ∧
    (∀ (p : Plan) (f : Failure), (p.execute s).result = .error f →
      ∃ operation path fault, f = .refused operation path fault) ∧
    (∀ f, (g.plan s r).result = .error f →
      (g.generate s r).result = .error f ∧ (g.generate s r).store = s) ∧
    (∀ (i : Invocation) (f : Failure), (i.generator.plan s i.request).result = .error f →
      ∀ pretend : Bool, ({ i with pretend }.run s).result = .error f ∧
        ({ i with pretend }.run s).store = s) ∧
    ((∃ f, (g.generate s r).result = .error f ∧ f.isDefinition = true) ↔
      ∃ f, (g.plan s r).result = .error f) ∧
    (∀ (g' : Generator) (s' : Store), g'.typeCase = g.typeCase → ∀ f,
      (g'.plan s' r).result = .error f ↔ (g.plan s r).result = .error f) ∧
    (∀ (i j : Invocation) (s' : Store), i.request = j.request → ∀ f, f.isDefinition = true →
      ((i.run s).result = .error f ↔ (j.run s').result = .error f)) := by
  refine ⟨?_, fun p f => Plan.execute_eq_error, fun f => g.generate_of_plan_error s r, ?_, ?_, ?_,
    ?_⟩
  · intro operation path fault h
    have hdefinition := g.isDefinition_of_plan s r h
    contradiction
  · intro i f h pretend
    exact Invocation.run_of_plan_error { i with pretend } s h
  · constructor
    · rintro ⟨f, h, hf⟩
      exact ⟨f, (g.generate_eq_definition_error_iff s r hf).mp h⟩
    · rintro ⟨f, h⟩
      exact ⟨f, (g.generate_of_plan_error s r h).1, g.isDefinition_of_plan s r h⟩
  · intro g' s' hcase f
    rw [g'.plan_eq_error_iff, g.plan_eq_error_iff, hcase]
  · intro i j s' hrequest f hf
    rw [i.run_eq_definition_error_iff s hf, j.run_eq_definition_error_iff s' hf, hrequest]

theorem unknown_filter_precedes_writing :
    (({} : Generator).plan (.empty none) ⟨"create_user", ["title:string", "age:bogus"]⟩).result =
        .error (.unknownFilter "age:bogus" "bogus") ∧
      (({} : Generator).generate (.empty none) ⟨"create_user", ["title:string", "age:bogus"]⟩).store =
        .empty none := by
  have hplan : (({} : Generator).plan (.empty none)
      ⟨"create_user", ["title:string", "age:bogus"]⟩).result =
        .error (.unknownFilter "age:bogus" "bogus") := by rfl
  exact ⟨hplan, ((definition_failure_precedes_writing {} _ _).2.2.1 _ hplan).2⟩

end Stencil
