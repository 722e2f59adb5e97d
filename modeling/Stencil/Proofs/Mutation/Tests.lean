import Stencil.Proofs.Mutation.Decoding
import Stencil.Proofs.Planning.Verdict

/-! The tests of a stub, read off its lines as functions with the attributes right above them. There
is one for the execution and one for each input, their names are all different, and each is a word
that may stand as it is. -/

namespace Stencil

/-! ### Names made of names -/

namespace Identifier

/-- A plain identifier: it is written as it is, without the raw mark. -/
def IsPlain (word : String) : Prop :=
  ∃ i : Identifier, i.raw = false ∧ i.text = word

theorem isPlain_iff {word : String} : IsPlain word ↔ Stencil.spellable false word = true := by
  constructor
  · rintro ⟨⟨plain, raw, hspellable⟩, rfl, rfl⟩
    exact hspellable
  · exact fun h => ⟨⟨word, false, h⟩, rfl, rfl⟩

theorem not_mark_of_isPlain {word : String} (h : IsPlain word) : '#' ∉ word.toList := by
  obtain ⟨i, hraw, rfl⟩ := h
  rw [text, hraw, if_neg Bool.false_ne_true]
  exact i.not_mem_plain (by decide)

/-- A name with a word in front of it is a plain identifier, reserved or not, if no reserved word
begins like this. -/
theorem isPlain_append {front : String} (hfront : isWord front.toList = true)
    (hfree : ∀ word ∈ "_" :: keywords, ¬ front.toList <+: word.toList) (i : Identifier) :
    IsPlain (front ++ i.plain) := by
  have hbegins : front.toList <+: (front ++ i.plain).toList := by
    rw [String.toList_append]
    exact List.prefix_append _ _
  have hword : isWord (front ++ i.plain).toList = true := by
    rw [String.toList_append]
    cases hlist : front.toList with
    | nil => simp [hlist, isWord] at hfront
    | cons c cs =>
      rw [hlist, isWord, Bool.and_eq_true] at hfront
      rw [List.cons_append, isWord, hfront.1, Bool.true_and, List.all_append, hfront.2,
        Bool.true_and, List.all_eq_true]
      exact fun d hd => continues_of_mem hd
  rw [isPlain_iff, spellable_plain_iff]
  exact ⟨hword, fun h => hfree _ List.mem_cons_self (h ▸ hbegins),
    fun h => hfree _ (List.mem_cons_of_mem _ h) hbegins⟩

/-- What is written in front of the name of an input to name a test or a setter. -/
def fronts : List String :=
  ["requires_", "accepts_missing_", "with_"]

theorem isPlain_of_front {front : String} (h : front ∈ fronts) (i : Identifier) :
    IsPlain (front ++ i.plain) := by
  have hwords : ∀ front ∈ fronts, isWord front.toList = true := by decide
  have hfree : ∀ front ∈ fronts, ∀ word ∈ "_" :: keywords, ¬ front.toList <+: word.toList := by
    decide
  exact isPlain_append (hwords front h) (hfree front h) i

end Identifier

namespace Mutation

open Text

/-! ### Functions of a text -/

/-- A function with the lines right above it that say something about it. -/
structure MarkedFunction where
  marks : List String
  name : String
deriving DecidableEq, Repr

/-- A line without the blanks that it begins with. -/
def flush (line : String) : String :=
  String.ofList (line.toList.dropWhile (· == ' '))

def isMark (line : String) : Bool :=
  (flush line).toList.head? == some '#'

/-- The name of the function that a line begins, whatever it takes and returns. -/
def function? (line : String) : Option String :=
  (between? "fn " "" (flush line)).map fun text => String.ofList (cut '(' text.toList).1

/-- The functions that lines define, when `marks` stand right above the first of them. -/
def functionsBelow (marks : List String) : List String → List MarkedFunction
  | [] => []
  | line :: rest =>
    if isMark line then functionsBelow (marks ++ [line]) rest
    else
      match function? line with
      | some name => ⟨marks, name⟩ :: functionsBelow [] rest
      | none => functionsBelow [] rest

def functions (text : String) : List MarkedFunction :=
  functionsBelow [] (lines text)

variable {b : Brief} {marks : List String} {line : String}

theorem functionsBelow_mark (h : isMark line = true) (rest : List String) :
    functionsBelow marks (line :: rest) = functionsBelow (marks ++ [line]) rest := by
  rw [functionsBelow, if_pos h]

/-- A line that begins like neither of the two is passed over. -/
theorem functionsBelow_other (hmark : (flush line).toList.head? ≠ some '#')
    (hname : (flush line).toList.head? ≠ some 'f') (rest : List String) :
    functionsBelow marks (line :: rest) = functionsBelow [] rest := by
  have hfunction : function? line = none := by
    rw [List.head?_eq_getElem?] at hname
    rw [function?, between?_eq_none 0 (by decide) hname]
    rfl
  rw [functionsBelow, isMark, if_neg (by simpa using hmark), hfunction]

theorem functionsBelow_function {name : String} (h : isMark line = false)
    (hline : function? line = some name) (rest : List String) :
    functionsBelow marks (line :: rest) = ⟨marks, name⟩ :: functionsBelow [] rest := by
  rw [functionsBelow, h, if_neg Bool.false_ne_true, hline]

/-! ### The tests of a stub -/

/-- What stands right above each test. -/
def testMarks : List String :=
  ["#[test]", "#[ignore = \"not yet implemented\"]"]

theorem functionsBelow_testCase (t : TestCase) (hname : '(' ∉ t.name.toList)
    (rest : List String) :
    functionsBelow marks (("" :: t.lines) ++ rest) =
      ⟨testMarks, t.name⟩ :: functionsBelow [] rest := by
  have hheader : flush ("fn " ++ t.name ++ "() \x7b") = "fn " ++ (t.name ++ "() \x7b") ++ "" := by
    apply String.toList_injective
    simp [flush, String.toList_append]
  have hparts : (t.name ++ "() \x7b").toList = t.name.toList ++ '(' :: ") \x7b".toList := by
    simp [String.toList_append]
  have hfunction : function? ("fn " ++ t.name ++ "() \x7b") = some t.name := by
    rw [function?, hheader, between?_append, Option.map_some, hparts, cut_append hname]
    simp only [String.ofList_toList]
  have hmark : isMark ("fn " ++ t.name ++ "() \x7b") = false := by
    simp [isMark, hheader, String.toList_append]
  have htask : (flush (indent 1 ("todo!(\"" ++ t.task ++ "\")"))).toList.head? = some 't' := by
    simp [flush, indent, String.toList_append]
  show functionsBelow marks ("" :: "#[test]" :: "#[ignore = \"not yet implemented\"]" ::
    ("fn " ++ t.name ++ "() \x7b") :: indent 1 ("todo!(\"" ++ t.task ++ "\")") :: "\x7d" ::
      rest) = _
  rw [functionsBelow_other (by decide) (by decide), functionsBelow_mark (by decide),
    functionsBelow_mark (by decide), functionsBelow_function hmark hfunction,
    functionsBelow_other (by simp [htask]) (by simp [htask]),
    functionsBelow_other (by decide) (by decide)]
  rfl

theorem functionsBelow_testCases {ts : List TestCase} (h : ∀ t ∈ ts, '(' ∉ t.name.toList) :
    functionsBelow [] (ts.flatMap fun t => "" :: t.lines) =
      ts.map fun t => ⟨testMarks, t.name⟩ := by
  induction ts with
  | nil => rfl
  | cons t rest ih =>
    rw [List.forall_mem_cons] at h
    rw [List.flatMap_cons, functionsBelow_testCase t h.1, ih h.2, List.map_cons]

/-- The names of the tests, one for the execution and one for each input. -/
def testNames (required optional : List Attribute) : List String :=
  "executes" :: ((Attribute.names required).map ("requires_" ++ ·) ++
    (Attribute.names optional).map ("accepts_missing_" ++ ·))

theorem isPlain_testNames {required optional : List Attribute} :
    ∀ name ∈ testNames required optional, Identifier.IsPlain name := by
  have hexecutes : Identifier.IsPlain "executes" := Identifier.isPlain_iff.mpr (by decide)
  rw [testNames, List.forall_mem_cons, List.forall_mem_append, List.forall_mem_map,
    List.forall_mem_map, Attribute.names, Attribute.names, List.forall_mem_map, List.forall_mem_map]
  exact ⟨hexecutes, fun a _ => Identifier.isPlain_of_front (by decide) a.name,
    fun a _ => Identifier.isPlain_of_front (by decide) a.name⟩

theorem nodup_testNames {required optional : List Attribute}
    (h : (Attribute.names (required ++ optional)).Nodup) : (testNames required optional).Nodup := by
  have hsplit : Attribute.names (required ++ optional) =
      Attribute.names required ++ Attribute.names optional := List.map_append
  rw [hsplit, List.nodup_append] at h
  obtain ⟨hrequired, hoptional, -⟩ := h
  have hrequires : "requires_".toList.head? = some 'r' := by decide
  have haccepts : "accepts_missing_".toList.head? = some 'a' := by decide
  have hexecutes : "executes" ∉ (Attribute.names required).map ("requires_" ++ ·) ++
      (Attribute.names optional).map ("accepts_missing_" ++ ·) := by
    rw [List.mem_append, List.mem_map, List.mem_map]
    rintro (⟨v, -, hv⟩ | ⟨v, -, hv⟩)
    · exact append_ne_of_head? hrequires (by decide) v hv
    · exact append_ne_of_head? haccepts (by decide) v hv
  rw [testNames, List.nodup_cons, List.nodup_append]
  refine ⟨hexecutes, hrequired.map (append_injective _), hoptional.map (append_injective _), ?_⟩
  rw [List.forall_mem_map]
  intro v _
  rw [List.forall_mem_map]
  intro w _
  refine append_ne_of_head? hrequires ?_ v
  simp [String.toList_append]

/-- How the functions of a test stub stand to the inputs. -/
structure TestsEach (text : String) (required optional : List Attribute) : Prop where
  names : (functions text).map (·.name) = "executes" ::
    ((Attribute.names required).map ("requires_" ++ ·) ++
      (Attribute.names optional).map ("accepts_missing_" ++ ·))
  marks : ∀ f ∈ functions text, f.marks = ["#[test]", "#[ignore = \"not yet implemented\"]"]
  distinct : ((functions text).map (·.name)).Nodup
  free : ∀ f ∈ functions text, ¬ ['r', '#'] <:+: f.name.toList
  plain : ∀ f ∈ functions text, Identifier.IsPlain f.name

theorem functions_testStub (b : Brief) : functions (testStub b) =
    (testNames b.required b.optional).map fun name => ⟨testMarks, name⟩ := by
  have hnames : (testCases b).map (·.name) = testNames b.required b.optional := names_testCases b
  have hbrackets : ∀ t ∈ testCases b, '(' ∉ t.name.toList := by
    intro t ht hmem
    have hname : t.name ∈ testNames b.required b.optional := hnames ▸ List.mem_map_of_mem ht
    obtain ⟨i, hraw, htext⟩ := isPlain_testNames _ hname
    exact i.not_mem_text (by decide) (by decide) (htext ▸ hmem)
  have hflush : (flush ("//! Tests for the " ++ ticked b.typeName.text ++
      " mutation.")).toList.head? = some '/' := by
    simp [flush, String.toList_append]
  rw [functions, lines_testStub, testStubLines,
    functionsBelow_other (by simp [hflush]) (by simp [hflush]),
    functionsBelow_testCases hbrackets, ← hnames, List.map_map]
  rfl

theorem testsEach_testStub {b : Brief} (h : (Attribute.names (b.required ++ b.optional)).Nodup) :
    TestsEach (testStub b) b.required b.optional := by
  have hnames : (functions (testStub b)).map (·.name) = testNames b.required b.optional := by
    rw [functions_testStub, List.map_map]
    exact List.map_id _
  have hplain : ∀ f ∈ functions (testStub b), Identifier.IsPlain f.name := by
    rw [functions_testStub, List.forall_mem_map]
    exact isPlain_testNames
  constructor
  case names => exact hnames
  case marks =>
    rw [functions_testStub, List.forall_mem_map]
    exact fun _ _ => rfl
  case distinct =>
    rw [hnames]
    exact nodup_testNames h
  case free =>
    intro f hf hmark
    exact Identifier.not_mark_of_isPlain (hplain f hf) (hmark.mem (by simp))
  case plain => exact hplain

end Mutation

open Mutation

namespace Generator

variable {g : Generator} {s : Store} {r : Request} {p : Plan}

/-- Of every request that is planned for the usual texts, the test stub has a test for the execution
and one for each input; and whatever the input is, a test or a setter may be named after it. -/
theorem stub_tests_each_input (hrenderer : g.renderer = render)
    (h : (g.plan s r).result = .ok p) :
    (∃ i : Identifier, i.text = p.typeName ∧
      (p.skipped = none → ∃ f ∈ p.files, f.template = .spec) ∧
      (∀ f ∈ p.files, f.template = .spec →
        f.contents = testStub ⟨r.target, i, p.required, p.optional⟩) ∧
      TestsEach (testStub ⟨r.target, i, p.required, p.optional⟩) p.required p.optional ∧
      (functions (testStub ⟨r.target, i, p.required, p.optional⟩)).length =
        1 + r.definitions.length) ∧
    ∀ (a : Attribute), ∀ name ∈ ["requires_" ++ a.name.plain, "accepts_missing_" ++ a.name.plain,
      setterName a], Identifier.IsPlain name := by
  obtain _ | _ | _ | _ | ⟨-, htokens, hdistinct, -, hplan⟩ := plan_eq_iff_verdict.mp h
  rename_i as i
  have hnames : (Attribute.names (p.required ++ p.optional)).Nodup :=
    (hplan.perm.map _).nodup_iff.mpr hdistinct
  have htests : TestsEach (testStub ⟨r.target, i, p.required, p.optional⟩) p.required p.optional :=
    testsEach_testStub hnames
  have hlength : p.required.length + p.optional.length = r.definitions.length := by
    have hread : r.definitions.length = as.length := by simpa using congrArg List.length htokens
    rw [hread, ← hplan.perm.length_eq, List.length_append]
  refine ⟨⟨i, hplan.typeName.symm, fun hskipped => ?_, fun f hf htemplate => ?_, htests, ?_⟩, ?_⟩
  · obtain ⟨hemit, hroot⟩ := hplan.skipped_iff.mp hskipped
    exact ⟨_, (hplan.with_stub hemit hroot).2 ▸ List.mem_cons_of_mem _ List.mem_cons_self, rfl⟩
  · rw [hplan.contents f hf, htemplate, hrenderer]
    rfl
  · rw [← List.length_map (·.name), htests.names, ← hlength]
    simp [Attribute.names, Nat.add_comm]
  · intro a
    simp only [List.forall_mem_cons]
    exact ⟨Identifier.isPlain_of_front (by decide) a.name,
      Identifier.isPlain_of_front (by decide) a.name,
      Identifier.isPlain_of_front (by decide) a.name, List.forall_mem_nil _⟩

theorem stub_of_payment_tests_each_input :
    let s := (Store.empty none).put ["spec"] .directory
    ∃ p, (({} : Generator).plan s ⟨"pay", ["sum:integer:optional", "type:string"]⟩).result = .ok p ∧
      ∃ f ∈ p.files, f.template = .spec ∧ (functions f.contents).map (·.name) =
        ["executes", "requires_type", "accepts_missing_sum"] := by
  intro s
  have hplan : (({} : Generator).plan s ⟨"pay", ["sum:integer:optional", "type:string"]⟩).result =
      .ok (({} : Generator).planFor true ⟨"pay", ⟨"Pay", false, by decide⟩,
        [⟨⟨"type", true, by decide⟩, .string, .required, by decide⟩],
        [⟨⟨"sum", false, by decide⟩, .integer, .optional, by decide⟩]⟩) := by rfl
  obtain ⟨⟨i, -, hwritten, hcontents, htests, -⟩, -⟩ := stub_tests_each_input rfl hplan
  obtain ⟨f, hf, htemplate⟩ := hwritten rfl
  refine ⟨_, hplan, f, hf, htemplate, ?_⟩
  rw [hcontents f hf htemplate, htests.names]
  rfl

end Generator

end Stencil
