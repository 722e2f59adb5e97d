import Stencil.Proofs.Execution.Repetition
import Stencil.Proofs.Mutation.Consistency
import Stencil.Proofs.Mutation.Decoding

/-! A mutation written where one is. Its source turns out identical exactly when the attributes are
the same, since the text tells what they are. -/

namespace Stencil

theorem Store.WidensTo.read {s t : Store} (h : s.WidensTo t) {p : Path} {contents : String}
    (hread : s.read p = .ok contents) : t.read p = .ok contents := by
  rw [Store.read] at hread ⊢
  cases hlocate : s.locate p with
  | error fault =>
    rw [hlocate] at hread
    contradiction
  | ok l =>
    rw [hlocate] at hread
    rw [h.growsTo.locate hlocate]
    simp only at hread ⊢
    cases hentry : s.get? l with
    | none =>
      rw [hentry] at hread
      contradiction
    | some e =>
      rw [hentry] at hread
      rw [h.get? hentry]
      exact hread

namespace PlannedFile

variable {f : PlannedFile} {s : Store} {old : String}

theorem statusOf_of_read (hread : s.read f.path = .ok old) :
    s.statusOf f.path f.contents =
      .ok (if old = f.contents then .identical else .overwritten) := by
  rw [Store.statusOf, hread]

theorem write_over {entry : Path × Status} (hread : s.read f.path = .ok old)
    (h : (f.write s).result = .ok entry) :
    entry = (f.path, if old = f.contents then .identical else .overwritten) := by
  rw [write, statusOf_of_read hread] at h
  simp only at h
  split at h
  · contradiction
  · exact (Except.ok.inj h).symm

/-- What is there is compared with what is written. -/
theorem install_over {entry : Path × Status} (hread : s.read f.path = .ok old)
    (h : (f.install s).result = .ok entry) :
    entry = (f.path, if old = f.contents then .identical else .overwritten) := by
  obtain ⟨-, hwrite, -⟩ := install_eq_ok h
  exact write_over ((widensTo_ensureParent f s).read hread) hwrite

end PlannedFile

theorem Plan.execute_over {p : Plan} {s : Store} {f : PlannedFile} {old : String}
    (hfirst : p.files.head? = some f) (hread : s.read f.path = .ok old) {report : Report}
    (hok : (p.execute s).result = .ok report) :
    ∃ rest, report.files =
      (f.path, if old = f.contents then .identical else .overwritten) :: rest := by
  obtain ⟨others, hfiles⟩ := List.head?_eq_some_iff.mp hfirst
  obtain ⟨entries, hentries, hreport⟩ := Plan.execute_eq_ok hok
  rw [hfiles] at hentries
  obtain ⟨entry, rest, hcons, hentry, -, -⟩ := PlannedFile.installAll_cons_eq_ok hentries
  rw [hreport, hcons, PlannedFile.install_over hread hentry]
  exact ⟨rest ++ p.skippedEntry, rfl⟩

open Mutation

namespace Generator

variable {g : Generator} {s t : Store} {r r' : Request} {p p' : Plan}

/-- What is planned does not hang on the store, except for the stub. -/
theorem plan_elsewhere (h : (g.plan s r).result = .ok p) (t : Store) :
    ∃ q, (g.plan t r).result = .ok q ∧ q.required = p.required ∧ q.optional = p.optional := by
  obtain ⟨-, b, hbrief, -, rfl⟩ := plan_eq_ok h
  refine ⟨g.planFor (g.wantsStub t) b, ?_, rfl, rfl⟩
  rw [result_plan, hbrief]
  rfl

/-- What the files of a plan are rendered from. -/
structure Renders (g : Generator) (r : Request) (p : Plan) (b : Brief) : Prop where
  isTarget : isTarget b.target = true
  target : b.target = r.target
  typeName : b.typeName.text = g.typeCase r.target
  required : b.required = p.required
  optional : b.optional = p.optional
  first : p.files.head? =
    some ⟨.mutation, g.layout.sourcePath r.target, g.renderer .mutation b⟩
  contents : ∀ f ∈ p.files, f.contents = g.renderer f.template b

theorem exists_renders (h : (g.plan s r).result = .ok p) : ∃ b, g.Renders r p b := by
  obtain _ | _ | _ | _ | ⟨htarget, -, -, htype, hplan⟩ := plan_eq_iff_verdict.mp h
  exact ⟨_, isTarget_iff.mpr htarget, rfl, htype, rfl, rfl, hplan.head?_files, hplan.contents⟩

theorem Renders.source_eq_iff {b c : Brief} (hb : g.Renders r p b) (hc : g.Renders r' p' c)
    (htarget : r.target = r'.target) :
    source b = source c ↔ p.required = p'.required ∧ p.optional = p'.optional := by
  have htargets : b.target = c.target := by rw [hb.target, hc.target, htarget]
  have htypeNames : b.typeName = c.typeName := by
    apply Identifier.text_injective
    rw [hb.typeName, hc.typeName, htarget]
  rw [source_eq_source_iff (oneLine_of_isTarget hb.isTarget) (oneLine_of_isTarget hc.isTarget),
    brief_eq_iff, hb.required, hb.optional, hc.required, hc.optional]
  exact ⟨fun h => h.2.2, fun h => ⟨htargets, htypeNames, h⟩⟩

/-- The sources differ as the attributes do, and so does what is said of the second. -/
theorem generate_over (hrenderer : g.renderer = render) (htarget : r.target = r'.target)
    (h : (g.plan s r).result = .ok p) (h' : (g.plan t r').result = .ok p')
    (hthere : ∀ f ∈ p.files, f.template = .mutation → t.read f.path = .ok f.contents)
    {report : Report} (hok : (g.generate t r').result = .ok report) :
    ∃ rest, report.files = (g.layout.sourcePath r.target,
      if p.required = p'.required ∧ p.optional = p'.optional then .identical else .overwritten) ::
        rest := by
  obtain ⟨b, hb⟩ := exists_renders h
  obtain ⟨c, hc⟩ := exists_renders h'
  have hread : t.read (g.layout.sourcePath r'.target) = .ok (source b) := by
    have hfirst := hthere _ (List.mem_of_head? hb.first) rfl
    rw [hrenderer, htarget] at hfirst
    exact hfirst
  rw [(g.generate_of_plan_ok t r' h').1] at hok
  obtain ⟨rest, hrest⟩ := Plan.execute_over hc.first hread hok
  have hcontents : g.renderer .mutation c = source c := by rw [hrenderer, render]
  refine ⟨rest, ?_⟩
  rw [hrest, hcontents, htarget]
  simp only [hb.source_eq_iff hc htarget]

theorem generate_renews (hrenderer : g.renderer = render) (htarget : r.target = r'.target)
    (hlayout : g.layout.Steady s r.target)
    (h : (g.plan s r).result = .ok p) (h' : (g.plan s r').result = .ok p')
    {report : Report} (hok : (g.generate s r).result = .ok report) :
    ∃ rest, (g.generate (g.generate s r).store r').result = .ok ⟨(g.layout.sourcePath r.target,
      if p.required = p'.required ∧ p.optional = p'.optional then .identical else .overwritten) ::
        rest⟩ := by
  obtain ⟨b, hb⟩ := exists_renders h
  obtain ⟨c, hc⟩ := exists_renders h'
  obtain ⟨fs, hfs⟩ := List.head?_eq_some_iff.mp hb.first
  obtain ⟨fs', hfs'⟩ := List.head?_eq_some_iff.mp hc.first
  refine ⟨List.zipWith PlannedFile.renewed fs fs' ++ p'.skippedEntry, ?_⟩
  rw [result_generate_again hlayout htarget h h' hok, hfs, hfs', List.zipWith_cons_cons,
    List.cons_append, PlannedFile.renewed, hrenderer, ← htarget]
  simp only [render, hb.source_eq_iff hc htarget]

/-- Written where one is, the source of a mutation is identical exactly when the definitions come to
the same attributes, for the texts keep them. The test stub keeps no more than their names. -/
theorem texts_tell_the_attributes (hrenderer : g.renderer = render)
    (htarget : r.target = r'.target) (h : (g.plan s r).result = .ok p)
    (h' : (g.plan t r').result = .ok p') :
    (∀ b c : Brief, isTarget b.target = true → isTarget c.target = true →
      (source b = source c ↔ b.target = c.target ∧ b.typeName = c.typeName ∧
        b.required = c.required ∧ b.optional = c.optional)) ∧
    (∀ b c : Brief, testStub b = testStub c ↔ b.typeName = c.typeName ∧
      Attribute.names b.required = Attribute.names c.required ∧
      Attribute.names b.optional = Attribute.names c.optional) ∧
    ((∀ f ∈ p.files, f.template = .mutation → t.read f.path = .ok f.contents) →
      ∀ report, (g.generate t r').result = .ok report →
        ∃ rest, report.files = (g.layout.sourcePath r.target,
          if p.required = p'.required ∧ p.optional = p'.optional then .identical
          else .overwritten) :: rest) ∧
    (g.layout.Steady s r.target → ∀ report, (g.generate s r).result = .ok report →
      ∃ rest, (g.generate (g.generate s r).store r').result =
        .ok ⟨(g.layout.sourcePath r.target,
          if p.required = p'.required ∧ p.optional = p'.optional then .identical
          else .overwritten) :: rest⟩) ∧
    (Attribute.names p.required = Attribute.names p'.required →
      Attribute.names p.optional = Attribute.names p'.optional →
      ∀ f ∈ p.files, ∀ f' ∈ p'.files, f.template = .spec → f'.template = .spec →
        f.contents = f'.contents) := by
  refine ⟨fun b c hb hc => ?_, fun b c => testStub_eq_testStub_iff,
    fun hthere report => generate_over hrenderer htarget h h' hthere,
    fun hlayout report hok => ?_, fun hrequired hoptional f hf f' hf' hspec hspec' => ?_⟩
  · rw [source_eq_source_iff (oneLine_of_isTarget hb) (oneLine_of_isTarget hc), brief_eq_iff]
  · obtain ⟨q, hq, hrequired, hoptional⟩ := plan_elsewhere h' s
    rw [← hrequired, ← hoptional]
    exact generate_renews hrenderer htarget hlayout h hq hok
  · obtain ⟨b, hb⟩ := exists_renders h
    obtain ⟨c, hc⟩ := exists_renders h'
    have htypeNames : b.typeName = c.typeName := by
      apply Identifier.text_injective
      rw [hb.typeName, hc.typeName, htarget]
    rw [hb.contents f hf, hc.contents f' hf', hspec, hspec', hrenderer]
    rw [← hb.required, ← hc.required] at hrequired
    rw [← hb.optional, ← hc.optional] at hoptional
    exact testStub_eq_testStub_iff.mpr ⟨htypeNames, hrequired, hoptional⟩

theorem later_payment_is_identical_or_not :
    let t := (({} : Generator).generate (.empty none) ⟨"pay", ["type:date", "sum:integer"]⟩).store
    (∃ rest, (({} : Generator).generate t ⟨"pay", ["r#type:date:required", "sum:integer"]⟩).result =
        .ok ⟨(⟨"./app/mutations/pay.rs"⟩, .identical) :: rest⟩) ∧
      ∃ rest, (({} : Generator).generate t ⟨"pay", ["type:date", "sum:model"]⟩).result =
        .ok ⟨(⟨"./app/mutations/pay.rs"⟩, .overwritten) :: rest⟩ := by
  let kind : Attribute := ⟨⟨"type", true, by decide⟩, .date, .required, by decide⟩
  let sum : Attribute := ⟨⟨"sum", false, by decide⟩, .integer, .required, by decide⟩
  let sum' : Attribute := ⟨⟨"sum", false, by decide⟩, .model, .required, by decide⟩
  let planned (as : List Attribute) : Plan :=
    ({} : Generator).planFor false ⟨"pay", ⟨"Pay", false, by decide⟩, as, []⟩
  have hfirst : (({} : Generator).plan (.empty none)
      ⟨"pay", ["type:date", "sum:integer"]⟩).result = .ok (planned [kind, sum]) := by rfl
  have hsame : (({} : Generator).plan (.empty none)
      ⟨"pay", ["r#type:date:required", "sum:integer"]⟩).result = .ok (planned [kind, sum]) := by rfl
  have hother : (({} : Generator).plan (.empty none)
      ⟨"pay", ["type:date", "sum:model"]⟩).result = .ok (planned [kind, sum']) := by rfl
  have hrun : (({} : Generator).generate (.empty none)
      ⟨"pay", ["type:date", "sum:integer"]⟩).result =
      .ok ⟨[(⟨"./app/mutations/pay.rs"⟩, .created),
        (⟨"./spec/mutations/pay_spec.rs"⟩, .skipped)]⟩ := by rfl
  have hroot : ".." ∉ (Path.mk ".").steps := by decide
  have hlayout : ({} : Generator).layout.Steady (.empty none) "pay" :=
    Layout.steady_under hroot _ (by decide)
  have htarget : ∀ tokens, (Request.mk "pay" ["type:date", "sum:integer"]).target =
      (Request.mk "pay" tokens).target := fun _ => rfl
  obtain ⟨-, -, -, hidentical, -⟩ := texts_tell_the_attributes rfl (htarget _) hfirst hsame
  obtain ⟨-, -, -, hoverwritten, -⟩ := texts_tell_the_attributes rfl (htarget _) hfirst hother
  exact ⟨hidentical hlayout _ hrun, hoverwritten hlayout _ hrun⟩

end Generator

end Stencil
