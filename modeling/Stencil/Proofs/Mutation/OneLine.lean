import Stencil.Mutation.TestStub
import Stencil.Proofs.Mutation.Pieces

/-! The texts of a mutation come apart into the lines that they were put together from: nothing that
is filled in breaks a line. -/

namespace Stencil.Mutation

open Text

variable {b : Brief}

/-! ### Names and types -/

@[simp]
theorem oneLine_text (i : Identifier) : OneLine i.text :=
  i.not_mem_text (by decide) (by decide)

@[simp]
theorem oneLine_plain (i : Identifier) : OneLine i.plain :=
  i.not_mem_plain (by decide)

@[simp]
theorem oneLine_ticked {word : String} : OneLine (ticked word) ↔ OneLine word := by
  have htick : OneLine "\x60" := by decide
  simp [ticked, htick]

@[simp]
theorem oneLine_filter (f : Filter) : OneLine f.text := by
  cases f <;> decide

@[simp]
theorem oneLine_valueType (a : Attribute) : OneLine a.valueType :=
  a.not_mem_valueType _ (by decide)

@[simp]
theorem oneLine_fieldType (a : Attribute) : OneLine a.fieldType := by
  have hopen : OneLine "Option<" := by decide
  have hclose : OneLine ">" := by decide
  unfold Attribute.fieldType
  split <;> simp [hopen, hclose]

@[simp]
theorem oneLine_parameter (a : Attribute) : OneLine (parameter a) := by
  have hcolon : OneLine ": " := by decide
  simp [parameter, hcolon]

/-! ### The source -/

theorem oneLine_summary {kind : String} (hkind : OneLine kind) (as : List Attribute) :
    ∀ l ∈ summary kind as, OneLine l := by
  have hnames : OneLine (", ".intercalate (as.map fun a => ticked a.name.plain)) := by
    refine not_mem_intercalate (by decide) ?_
    rw [List.forall_mem_map]
    exact fun a _ => oneLine_ticked.mpr (oneLine_plain a.name)
  unfold summary
  split
  · exact List.forall_mem_nil _
  · simp only [List.forall_mem_cons, oneLine_append, hkind, hnames]
    decide

theorem oneLine_heading (htarget : OneLine b.target) : ∀ l ∈ heading b, OneLine l := by
  have hrequired : ∀ l ∈ summary "Required" b.required, OneLine l :=
    oneLine_summary (by decide) b.required
  have hoptional : ∀ l ∈ summary "Optional" b.optional, OneLine l :=
    oneLine_summary (by decide) b.optional
  simp only [heading, List.forall_mem_append]
  refine ⟨⟨?_, hrequired⟩, hoptional⟩
  simp only [List.forall_mem_cons, oneLine_append, oneLine_ticked, oneLine_text, htarget]
  decide

theorem oneLine_field (a : Attribute) : ∀ l ∈ field a, OneLine l := by
  have hkind : OneLine (if a.isOptional then "Optional" else "Required") := by
    split <;> decide
  simp only [field, fieldLine, List.forall_mem_cons, oneLine_indent, oneLine_append, hkind,
    oneLine_ticked, oneLine_plain, oneLine_filter, oneLine_text, oneLine_fieldType]
  decide

theorem oneLine_declaration (b : Brief) : ∀ l ∈ declaration b, OneLine l := by
  have hfields : ∀ l ∈ b.inputs.flatMap field, OneLine l := by
    intro l hl
    obtain ⟨a, -, hl⟩ := List.mem_flatMap.mp hl
    exact oneLine_field a l hl
  simp only [declaration, List.forall_mem_append]
  refine ⟨⟨?_, hfields⟩, by decide⟩
  simp only [List.forall_mem_cons, oneLine_append, oneLine_text]
  decide

theorem oneLine_constructor (b : Brief) : ∀ l ∈ constructor b, OneLine l := by
  have hparameters : OneLine (", ".intercalate (b.required.map parameter)) := by
    refine not_mem_intercalate (by decide) ?_
    rw [List.forall_mem_map]
    exact fun a _ => oneLine_parameter a
  have hcomma : OneLine "," := by decide
  have hnone : OneLine ": None," := by decide
  simp only [constructor, List.forall_mem_append, List.forall_mem_map, oneLine_indent,
    oneLine_append, oneLine_text]
  refine ⟨⟨⟨?_, fun a _ => ⟨trivial, hcomma⟩⟩, fun a _ => ⟨trivial, hnone⟩⟩, by decide⟩
  simp only [List.forall_mem_cons, oneLine_indent, oneLine_append, hparameters]
  decide

theorem oneLine_setter (a : Attribute) : ∀ l ∈ setter a, OneLine l := by
  simp only [setter, setterName, List.forall_mem_cons, oneLine_indent, oneLine_append,
    oneLine_ticked, oneLine_plain, oneLine_text, oneLine_parameter]
  decide

theorem oneLine_execution (b : Brief) : ∀ l ∈ execution b, OneLine l := by
  simp only [execution, List.forall_mem_cons, oneLine_indent, oneLine_append, oneLine_text]
  decide

theorem oneLine_sourceLines (htarget : OneLine b.target) : ∀ l ∈ sourceLines b, OneLine l := by
  have hsetters : ∀ l ∈ b.optional.flatMap setter, OneLine l := by
    intro l hl
    obtain ⟨a, -, hl⟩ := List.mem_flatMap.mp hl
    exact oneLine_setter a l hl
  have hopening : ∀ l ∈ ["", "impl " ++ b.typeName.text ++ " \x7b"], OneLine l := by
    simp only [List.forall_mem_cons, oneLine_append, oneLine_text]
    decide
  simp only [sourceLines, List.forall_mem_append]
  exact ⟨⟨⟨⟨⟨⟨oneLine_heading htarget, oneLine_declaration b⟩, hopening⟩, oneLine_constructor b⟩,
    hsetters⟩, oneLine_execution b⟩, by decide⟩

theorem lines_source (htarget : OneLine b.target) : lines (source b) = sourceLines b :=
  lines_ofLines (oneLine_sourceLines htarget)

/-! ### The test stub -/

theorem oneLine_testCases (b : Brief) : ∀ t ∈ testCases b, OneLine t.name ∧ OneLine t.task := by
  have hrequires : OneLine "requires_" := by decide
  have haccepts : OneLine "accepts_missing_" := by decide
  have htasks : ∀ word ∈ ["executes", "exercise ", "::execute", "check ", " rejects a missing ",
      " runs without "], OneLine word := by decide
  simp only [List.forall_mem_cons] at htasks
  obtain ⟨hexecutes, hexercise, hexecute, hcheck, hrejects, hruns, -⟩ := htasks
  simp only [testCases, List.cons_append, List.forall_mem_cons, List.forall_mem_append,
    List.forall_mem_map, oneLine_append, oneLine_text, oneLine_plain, oneLine_ticked]
  exact ⟨⟨hexecutes, ⟨hexercise, trivial⟩, hexecute⟩, fun a _ => ⟨⟨hrequires, trivial⟩,
    ⟨⟨hcheck, trivial⟩, hrejects⟩, trivial⟩, fun a _ => ⟨⟨haccepts, trivial⟩,
    ⟨⟨hcheck, trivial⟩, hruns⟩, trivial⟩⟩

theorem oneLine_testStubLines (b : Brief) : ∀ l ∈ testStubLines b, OneLine l := by
  have hfirst : OneLine ("//! Tests for the " ++ ticked b.typeName.text ++ " mutation.") := by
    simp only [oneLine_append, oneLine_ticked, oneLine_text, and_true]
    decide
  have hlines : ∀ t : TestCase, OneLine t.name ∧ OneLine t.task →
      ∀ l ∈ "" :: t.lines, OneLine l := by
    intro t ht
    simp only [TestCase.lines, List.forall_mem_cons, oneLine_append, oneLine_indent, ht.1, ht.2,
      and_true]
    decide
  rw [testStubLines, List.forall_mem_cons]
  refine ⟨hfirst, fun l hl => ?_⟩
  obtain ⟨t, ht, hl⟩ := List.mem_flatMap.mp hl
  exact hlines t (oneLine_testCases b t ht) l hl

theorem lines_testStub (b : Brief) : lines (testStub b) = testStubLines b :=
  lines_ofLines (oneLine_testStubLines b)

end Stencil.Mutation
