import Stencil.Proofs.Planning.Failure
import Stencil.Proofs.Planning.Target

/-! The verdict on a request. Of everything that can be wrong with it the first thing counts: the
target, then the tokens in their order, then a name that comes twice, then the name of the type. Of
a request that has nothing wrong with it the plan is fixed. -/

namespace Stencil

/-- What the plan for a request is, once the request is read. -/
structure Plan.Fulfils (p : Plan) (g : Generator) (s : Store) (r : Request) (as : List Attribute)
    (i : Identifier) : Prop where
  typeName : p.typeName = i.text
  required : p.required = as.filter (!·.isOptional)
  optional : p.optional = as.filter (·.isOptional)
  with_stub : g.emitSpec = true → g.layout.hasTestRoot s = true →
    p.skipped = none ∧ p.files =
      [⟨.mutation, g.layout.sourcePath r.target,
          g.renderer .mutation ⟨r.target, i, p.required, p.optional⟩⟩,
        ⟨.spec, g.layout.testPath r.target,
          g.renderer .spec ⟨r.target, i, p.required, p.optional⟩⟩]
  without_stub : ¬ (g.emitSpec = true ∧ g.layout.hasTestRoot s = true) →
    p.skipped = some (g.layout.testPath r.target) ∧ p.files =
      [⟨.mutation, g.layout.sourcePath r.target,
          g.renderer .mutation ⟨r.target, i, p.required, p.optional⟩⟩]

/-- What planning comes to. Each fault is stated with all that comes before it found good. -/
inductive Verdict (g : Generator) (s : Store) (r : Request) : Except Failure Plan → Prop where
  | badTarget (htarget : ¬ IsSnakeName r.target) :
      Verdict g s r (.error (.invalidTarget r.target))
  | badToken {before after : List String} {token : String} {e : Failure}
      (htarget : IsSnakeName r.target) (htokens : r.definitions = before ++ token :: after)
      (hbefore : ∀ t ∈ before, ∃ a, Attribute.parse t = .ok a)
      (htoken : Attribute.parse token = .error e) : Verdict g s r (.error e)
  | repeatedName {before after : List Attribute} {a : Attribute} (htarget : IsSnakeName r.target)
      (htokens : r.definitions.map Attribute.parse = (before ++ a :: after).map .ok)
      (hdistinct : (Attribute.names before).Nodup)
      (hrepeated : a.name.plain ∈ Attribute.names before) :
      Verdict g s r (.error (.duplicateName a.name.plain))
  | badTypeName {as : List Attribute} (htarget : IsSnakeName r.target)
      (htokens : r.definitions.map Attribute.parse = as.map .ok)
      (hdistinct : (Attribute.names as).Nodup)
      (htype : ∀ i : Identifier, i.text ≠ g.typeCase r.target) :
      Verdict g s r (.error (.invalidTypeName r.target (g.typeCase r.target)))
  | accepted {as : List Attribute} {i : Identifier} {p : Plan} (htarget : IsSnakeName r.target)
      (htokens : r.definitions.map Attribute.parse = as.map .ok)
      (hdistinct : (Attribute.names as).Nodup) (htype : i.text = g.typeCase r.target)
      (hplan : p.Fulfils g s r as i) : Verdict g s r (.ok p)

namespace Generator

variable {g : Generator} {s : Store} {r : Request} {as : List Attribute} {i : Identifier} {p : Plan}

theorem fulfils_planFor (g : Generator) (s : Store) (r : Request) (as : List Attribute)
    (i : Identifier) :
    (g.planFor (g.wantsStub s)
      ⟨r.target, i, (Attribute.partition as).1, (Attribute.partition as).2⟩).Fulfils
        g s r as i where
  typeName := rfl
  required := rfl
  optional := rfl
  with_stub hemit hroot := by
    have hwants : g.wantsStub s = true := by rw [wantsStub, hemit, hroot]; rfl
    rw [hwants]
    exact ⟨rfl, rfl⟩
  without_stub h := by
    have hwants : g.wantsStub s = false := by
      rw [Bool.eq_false_iff, wantsStub, ne_eq, Bool.and_eq_true]
      exact h
    rw [hwants]
    exact ⟨rfl, rfl⟩

theorem eq_planFor_of_fulfils (h : p.Fulfils g s r as i) :
    p = g.planFor (g.wantsStub s)
      ⟨r.target, i, (Attribute.partition as).1, (Attribute.partition as).2⟩ := by
  obtain ⟨typeName, required, optional, files, skipped⟩ := p
  obtain ⟨rfl, rfl, rfl, hwith, hwithout⟩ := h
  dsimp only at hwith hwithout
  by_cases hwants : g.emitSpec = true ∧ g.layout.hasTestRoot s = true
  · obtain ⟨rfl, rfl⟩ := hwith hwants.1 hwants.2
    rw [wantsStub, hwants.1, hwants.2]
    rfl
  · obtain ⟨rfl, rfl⟩ := hwithout hwants
    rw [wantsStub, Bool.eq_false_iff.mpr (mt Bool.and_eq_true_iff.mp hwants)]
    rfl

theorem verdict_plan (g : Generator) (s : Store) (r : Request) :
    Verdict g s r (g.plan s r).result := by
  rw [result_plan, Request.result_brief, Request.result_attributes]
  by_cases htarget : isTarget r.target = true
  · rw [if_pos htarget]
    have hsnake := isTarget_iff.mp htarget
    cases hparse : Attribute.parseAll r.definitions with
    | error e =>
      obtain ⟨before, token, after, htokens, hbefore, htoken⟩ := Attribute.exists_first_fault hparse
      exact .badToken hsnake htokens hbefore htoken
    | ok as =>
      have htokens := Attribute.parseAll_eq_ok_iff.mp hparse
      simp only [Except.bind]
      cases hrepeat : Attribute.repeatedName? [] as with
      | some name =>
        obtain ⟨before, a, after, rfl, rfl, hdistinct, -, hrepeated⟩ :=
          Attribute.exists_first_repeat hrepeat
        exact .repeatedName hsnake htokens hdistinct (hrepeated.resolve_left List.not_mem_nil)
      | none =>
        have hdistinct := (Attribute.repeatedName?_eq_none_iff.mp hrepeat).1
        cases htype : Identifier.ofText? (g.typeCase r.target) with
        | none =>
          exact .badTypeName hsnake htokens hdistinct (Identifier.ofText?_eq_none_iff.mp htype)
        | some i =>
          exact .accepted hsnake htokens hdistinct (Identifier.eq_text_of_ofText? htype).symm
            (fulfils_planFor g s r as i)
  · rw [if_neg htarget]
    exact .badTarget (mt isTarget_iff.mpr htarget)

theorem plan_of_verdict {result : Except Failure Plan} (h : Verdict g s r result) :
    (g.plan s r).result = result := by
  rw [result_plan, Request.result_brief, Request.result_attributes]
  cases h with
  | badTarget htarget =>
    rw [if_neg (mt isTarget_iff.mp htarget)]
    rfl
  | badToken htarget htokens hbefore htoken =>
    rw [if_pos (isTarget_iff.mpr htarget), htokens,
      Attribute.parseAll_of_first_fault hbefore htoken]
    rfl
  | @repeatedName before after a htarget htokens hdistinct hrepeated =>
    have hname : Attribute.repeatedName? [] (before ++ a :: after) = some a.name.plain :=
      Attribute.repeatedName?_of_first_repeat hdistinct (fun _ _ => List.not_mem_nil)
        (.inr hrepeated)
    rw [if_pos (isTarget_iff.mpr htarget), Attribute.parseAll_eq_ok_iff.mpr htokens]
    simp only [Except.bind, hname]
    rfl
  | badTypeName htarget htokens hdistinct htype =>
    have hunique := Attribute.repeatedName?_eq_none_iff.mpr ⟨hdistinct, fun _ _ => List.not_mem_nil⟩
    rw [if_pos (isTarget_iff.mpr htarget), Attribute.parseAll_eq_ok_iff.mpr htokens]
    simp only [Except.bind, hunique, Identifier.ofText?_eq_none_iff.mpr htype]
    rfl
  | accepted htarget htokens hdistinct htype hplan =>
    have hunique := Attribute.repeatedName?_eq_none_iff.mpr ⟨hdistinct, fun _ _ => List.not_mem_nil⟩
    rw [if_pos (isTarget_iff.mpr htarget), Attribute.parseAll_eq_ok_iff.mpr htokens,
      eq_planFor_of_fulfils hplan]
    simp only [Except.bind, hunique, Identifier.ofText?_eq_some_iff.mpr htype.symm]
    rfl

theorem plan_eq_iff_verdict {result : Except Failure Plan} :
    (g.plan s r).result = result ↔ Verdict g s r result :=
  ⟨fun h => h ▸ verdict_plan g s r, plan_of_verdict⟩

theorem plan_eq_invalidTarget_iff :
    (g.plan s r).result = .error (.invalidTarget r.target) ↔ ¬ IsSnakeName r.target := by
  rw [plan_eq_iff_verdict]
  constructor
  · intro h
    cases h with
    | badTarget htarget => exact htarget
    | badToken _ _ _ htoken => cases Attribute.parse_eq_error_iff.mp htoken
  · exact .badTarget

end Generator

namespace Plan.Fulfils

variable {p : Plan} {g : Generator} {s : Store} {r : Request} {as : List Attribute} {i : Identifier}

/-- Between them the two lists have every attribute once. -/
theorem perm (h : p.Fulfils g s r as i) : (p.required ++ p.optional).Perm as := by
  rw [h.required, h.optional]
  exact List.perm_append_comm.trans (List.filter_append_perm _ as)

/-- Whatever is to be written, the source comes first. -/
theorem head?_files (h : p.Fulfils g s r as i) : p.files.head? =
    some ⟨.mutation, g.layout.sourcePath r.target,
      g.renderer .mutation ⟨r.target, i, p.required, p.optional⟩⟩ := by
  by_cases hwants : g.emitSpec = true ∧ g.layout.hasTestRoot s = true
  · rw [(h.with_stub hwants.1 hwants.2).2]
    rfl
  · rw [(h.without_stub hwants).2]
    rfl

theorem contents (h : p.Fulfils g s r as i) : ∀ f ∈ p.files,
    f.contents = g.renderer f.template ⟨r.target, i, p.required, p.optional⟩ := by
  by_cases hwants : g.emitSpec = true ∧ g.layout.hasTestRoot s = true
  · rw [(h.with_stub hwants.1 hwants.2).2, List.forall_mem_cons, List.forall_mem_singleton]
    exact ⟨rfl, rfl⟩
  · rw [(h.without_stub hwants).2, List.forall_mem_singleton]

theorem isOptional_of_mem_required (h : p.Fulfils g s r as i) {a : Attribute}
    (ha : a ∈ p.required) : a.isOptional = false := by
  rw [h.required] at ha
  simpa using List.of_mem_filter ha

theorem isOptional_of_mem_optional (h : p.Fulfils g s r as i) {a : Attribute}
    (ha : a ∈ p.optional) : a.isOptional = true := by
  rw [h.optional] at ha
  exact List.of_mem_filter ha

theorem skipped_iff (h : p.Fulfils g s r as i) :
    p.skipped = none ↔ g.emitSpec = true ∧ g.layout.hasTestRoot s = true := by
  constructor
  · intro hnone
    by_contra hwants
    rw [(h.without_stub hwants).1] at hnone
    contradiction
  · rintro ⟨hemit, hroot⟩
    exact (h.with_stub hemit hroot).1

end Plan.Fulfils

/-- The verdict on a request is one fault, the first that there is, or a plan; and of the plan all
is said by the request, the generator and whether there is a test root. -/
theorem Generator.plan_is_the_verdict (g : Generator) (s : Store) (r : Request) :
    (∀ result, (g.plan s r).result = result ↔ Verdict g s r result) ∧
    ((g.plan s r).result = .error (.invalidTarget r.target) ↔ ¬ IsSnakeName r.target) ∧
    ∀ p, (g.plan s r).result = .ok p → ∃ as i, r.definitions.map Attribute.parse = as.map .ok ∧
      p.Fulfils g s r as i ∧ p.typeName = g.typeCase r.target ∧
      (p.required ++ p.optional).Perm as ∧
      (Attribute.names (p.required ++ p.optional)).Nodup ∧
      (p.skipped = none ↔ g.emitSpec = true ∧ g.layout.hasTestRoot s = true) := by
  refine ⟨fun result => plan_eq_iff_verdict, plan_eq_invalidTarget_iff, fun p h => ?_⟩
  obtain _ | _ | _ | _ | ⟨-, htokens, hdistinct, htype, hplan⟩ := plan_eq_iff_verdict.mp h
  refine ⟨_, _, htokens, hplan, hplan.typeName.trans htype, hplan.perm, ?_, hplan.skipped_iff⟩
  exact (hplan.perm.map _).nodup_iff.mpr hdistinct

theorem Generator.verdicts_on_payments :
    (({} : Generator).plan (.empty none) ⟨"pay", ["sum:integer", "r#sum:date", "what"]⟩).result =
        .error (.missingFilter "what") ∧
      (({} : Generator).plan (.empty none) ⟨"pay", ["sum:integer", "r#sum:date"]⟩).result =
        .error (.duplicateName "sum") ∧
      ∃ p, (({} : Generator).plan (.empty none)
          ⟨"pay", ["note:string:optional", "sum:integer"]⟩).result = .ok p ∧
        (Attribute.names (p.required ++ p.optional)).Nodup ∧ p.skipped ≠ none := by
  have htarget : IsSnakeName "pay" := isTarget_iff.mp (by decide)
  let plain : Attribute := ⟨⟨"sum", false, by decide⟩, .integer, .required, by decide⟩
  let raw : Attribute := ⟨⟨"sum", true, by decide⟩, .date, .required, by decide⟩
  have hplain : Attribute.parse "sum:integer" = .ok plain := by rfl
  have hraw : Attribute.parse "r#sum:date" = .ok raw := by rfl
  have hbefore : ∀ t ∈ ["sum:integer", "r#sum:date"], ∃ a, Attribute.parse t = .ok a :=
    List.forall_mem_cons.mpr ⟨⟨_, hplain⟩, List.forall_mem_singleton.mpr ⟨_, hraw⟩⟩
  have htokens : ["sum:integer", "r#sum:date"].map Attribute.parse =
      ([plain] ++ [raw]).map .ok := by
    simp [hplain, hraw]
  have hfault : Verdict {} (.empty none) ⟨"pay", ["sum:integer", "r#sum:date", "what"]⟩
      (.error (.missingFilter "what")) :=
    @Verdict.badToken _ _ _ ["sum:integer", "r#sum:date"] [] "what" _ htarget rfl hbefore (by rfl)
  have hrepeat : Verdict {} (.empty none) ⟨"pay", ["sum:integer", "r#sum:date"]⟩
      (.error (.duplicateName "sum")) :=
    @Verdict.repeatedName _ _ _ [plain] [] raw htarget htokens (by decide) (by decide)
  refine ⟨((plan_is_the_verdict _ _ _).1 _).mpr hfault,
    ((plan_is_the_verdict _ _ _).1 _).mpr hrepeat, ?_⟩
  let p : Plan := ({} : Generator).planFor false ⟨"pay", ⟨"Pay", false, by decide⟩,
    [⟨⟨"sum", false, by decide⟩, .integer, .required, by decide⟩],
    [⟨⟨"note", false, by decide⟩, .string, .optional, by decide⟩]⟩
  have hp : (({} : Generator).plan (.empty none)
      ⟨"pay", ["note:string:optional", "sum:integer"]⟩).result = .ok p := by rfl
  obtain ⟨_, _, -, -, -, -, hdistinct, hskipped⟩ := (plan_is_the_verdict _ _ _).2.2 p hp
  exact ⟨p, hp, hdistinct, fun hnone => absurd (hskipped.mp hnone).2 (by decide)⟩

end Stencil
