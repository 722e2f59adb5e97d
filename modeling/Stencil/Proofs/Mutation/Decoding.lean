import Mathlib.Data.List.Basic
import Stencil.Proofs.Definition.Display
import Stencil.Proofs.Definition.Tokens
import Stencil.Proofs.Mutation.Reading

/-! What the texts keep of what they are made from. The source keeps all of it; the test stub keeps
the name of the type and the names of the inputs without their raw marks. -/

namespace Stencil.Mutation

open Text

/-! ### The source -/

/-- What the struct says of an input: the note and the declaration. -/
def entry (a : Attribute) : Note × Typed :=
  (⟨if a.isOptional then "Optional" else "Required", a.filter.text⟩, ⟨a.name.text, a.fieldType⟩)

theorem entry_injective : Function.Injective entry := by
  intro a c h
  have hkind : (if a.isOptional then "Optional" else "Required") =
      if c.isOptional then "Optional" else "Required" :=
    congrArg (fun e : Note × Typed => e.1.kind) h
  have hoptional : a.isOptional = true ↔ c.isOptional = true := by
    cases ha : a.isOptional <;> cases hc : c.isOptional <;> simp [ha, hc] at hkind ⊢
  exact Attribute.eq_of_parts (congrArg (fun e : Note × Typed => e.2.name) h)
    (congrArg (fun e : Note × Typed => e.1.filter) h) hoptional

theorem map_entry (as : List Attribute) : as.map entry =
    (as.map fun a => Note.mk (if a.isOptional then "Optional" else "Required") a.filter.text).zip
      (as.map fun a => Typed.mk a.name.text a.fieldType) :=
  List.zip_map'.symm

/-- The parameters of the constructor tell where the required inputs end. -/
theorem length_parameters (b : Brief) : (construction b).parameters.length = b.required.length :=
  List.length_map _

theorem brief_eq_iff {b c : Brief} : b = c ↔ b.target = c.target ∧ b.typeName = c.typeName ∧
    b.required = c.required ∧ b.optional = c.optional := by
  cases b
  cases c
  rw [Brief.mk.injEq]

theorem source_eq_source_iff {b c : Brief} (hb : OneLine b.target) (hc : OneLine c.target) :
    source b = source c ↔ b = c := by
  refine ⟨fun h => ?_, fun h => h ▸ rfl⟩
  have houtline := congrArg outline h
  rw [outline_source hb, outline_source hc, Outline.mk.injEq] at houtline
  obtain ⟨htarget, htypeName, hnotes, hfields, hmethods⟩ := houtline
  have hinputs : b.inputs = c.inputs := by
    apply List.map_injective_iff.mpr entry_injective
    rw [map_entry, map_entry, hnotes, hfields]
  have hlength : b.required.length = c.required.length := by
    rw [← length_parameters, ← length_parameters, (List.cons.inj hmethods).1]
  obtain ⟨hrequired, hoptional⟩ := List.append_inj hinputs hlength
  exact brief_eq_iff.mpr ⟨Option.some.inj htarget,
    Identifier.text_injective (Option.some.inj htypeName), hrequired, hoptional⟩

/-! ### The test stub -/

/-- The names of the functions that a text defines, of those that take nothing. -/
def functionNames (text : String) : List String :=
  (lines text).filterMap (between? "fn " "() \x7b")

theorem filterMap_testCase (t : TestCase) :
    ("" :: t.lines).filterMap (between? "fn " "() \x7b") = [t.name] := by
  have hother : ∀ l : String, l.toList[0]? ≠ some 'f' → between? "fn " "() \x7b" l = none :=
    fun l hl => between?_eq_none 0 (by decide) hl
  have htask : (indent 1 ("todo!(\"" ++ t.task ++ "\")")).toList[0]? ≠ some 'f' := by
    simp [toList_indent_succ]
  rw [TestCase.lines, List.filterMap_cons_none (hother _ (by decide)),
    List.filterMap_cons_none (hother _ (by decide)),
    List.filterMap_cons_none (hother _ (by decide)),
    List.filterMap_cons_some (between?_append "fn " t.name "() \x7b"),
    List.filterMap_cons_none (hother _ htask), List.filterMap_cons_none (hother _ (by decide))]
  rfl

theorem functionNames_testStub (b : Brief) :
    functionNames (testStub b) = (testCases b).map (·.name) := by
  have hfirst : between? "fn " "() \x7b"
      ("//! Tests for the " ++ ticked b.typeName.text ++ " mutation.") = none := by
    apply between?_eq_none 0 (by decide)
    simp [String.toList_append]
  rw [functionNames, lines_testStub, testStubLines, List.filterMap_cons_none hfirst,
    filterMap_pieces filterMap_testCase]

/-- Of the inputs a stub is told nothing but their names without the raw marks. -/
theorem testCases_eq (b : Brief) : testCases b =
    ⟨"executes", "exercise " ++ b.typeName.text ++ "::execute"⟩ ::
      ((Attribute.names b.required).map (fun name => ⟨"requires_" ++ name,
          "check " ++ b.typeName.text ++ " rejects a missing " ++ ticked name⟩) ++
        (Attribute.names b.optional).map fun name => ⟨"accepts_missing_" ++ name,
          "check " ++ b.typeName.text ++ " runs without " ++ ticked name⟩) := by
  rw [Attribute.names, Attribute.names, List.map_map, List.map_map]
  rfl

theorem names_testCases (b : Brief) : (testCases b).map (·.name) =
    "executes" :: ((Attribute.names b.required).map ("requires_" ++ ·) ++
      (Attribute.names b.optional).map ("accepts_missing_" ++ ·)) := by
  rw [testCases_eq, List.map_cons, List.map_append, List.map_map, List.map_map]
  rfl

theorem filterMap_requires (vs ws : List String) :
    ("executes" :: (vs.map ("requires_" ++ ·) ++ ws.map ("accepts_missing_" ++ ·))).filterMap
      (between? "requires_" "") = vs := by
  have hexecutes : between? "requires_" "" "executes" = none :=
    between?_eq_none 0 (by decide) (by decide)
  have hrequires : vs.filterMap (fun v => between? "requires_" "" ("requires_" ++ v)) = vs := by
    have hread : (fun v => between? "requires_" "" ("requires_" ++ v)) = some := by
      funext v
      rw [between?_eq_some_iff, String.append_empty]
    rw [hread, List.filterMap_some]
  have haccepts :
      ws.filterMap (fun w => between? "requires_" "" ("accepts_missing_" ++ w)) = [] := by
    rw [List.filterMap_eq_nil_iff]
    intro w _
    apply between?_eq_none 0 (by decide)
    simp [String.toList_append]
  rw [List.filterMap_cons_none hexecutes, List.filterMap_append, List.filterMap_map,
    List.filterMap_map, Function.comp_def, Function.comp_def, hrequires, haccepts, List.append_nil]

theorem testStub_eq_testStub_iff {b c : Brief} : testStub b = testStub c ↔
    b.typeName = c.typeName ∧ Attribute.names b.required = Attribute.names c.required ∧
      Attribute.names b.optional = Attribute.names c.optional := by
  constructor
  · intro h
    have hlines := congrArg lines h
    rw [lines_testStub, lines_testStub, testStubLines, testStubLines, List.cons.injEq] at hlines
    have htypeName : b.typeName.text = c.typeName.text := by
      simpa [ticked, String.toList_append, ← String.toList_inj] using hlines.1
    have hnames := congrArg functionNames h
    rw [functionNames_testStub, functionNames_testStub, names_testCases, names_testCases] at hnames
    have hrequired : Attribute.names b.required = Attribute.names c.required := by
      rw [← filterMap_requires (Attribute.names b.required), hnames, filterMap_requires]
    rw [hrequired, List.cons.injEq, List.append_cancel_left_eq] at hnames
    exact ⟨Identifier.text_injective htypeName, hrequired,
      List.map_injective_iff.mpr (append_injective _) hnames.2⟩
  · rintro ⟨htypeName, hrequired, hoptional⟩
    rw [testStub, testStub, testStubLines, testStubLines, testCases_eq, testCases_eq, htypeName,
      hrequired, hoptional]

end Stencil.Mutation
