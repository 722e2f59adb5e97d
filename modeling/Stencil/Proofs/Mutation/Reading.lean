import Stencil.Proofs.Mutation.OneLine

/-! The outline of the source of a mutation, in terms of what the source was made from. -/

namespace Stencil.Mutation

open Text

variable {a : Attribute} {b : Brief}

/-! ### Indented lines -/

theorem toList_indent_succ (depth : Nat) (line : String) :
    (indent (depth + 1) line).toList = ' ' :: ' ' :: ' ' :: ' ' :: (indent depth line).toList := by
  simp [indent, String.toList_append]

/-- Deeper lines do not close a block. -/
theorem indent_ne_close (depth more : Nat) (line : String) :
    indent (depth + (more + 1)) line ≠ indent depth "\x7d" := by
  induction depth with
  | zero =>
    intro h
    have hlist := congrArg String.toList h
    rw [Nat.zero_add, toList_indent_succ] at hlist
    simp [indent] at hlist
  | succ depth ih =>
    intro h
    have hlist := congrArg String.toList h
    rw [Nat.add_right_comm, toList_indent_succ, toList_indent_succ] at hlist
    simp only [List.cons.injEq, true_and, String.toList_inj] at hlist
    exact ih hlist

/-- Lines as they stand inside of a brace. -/
def Inner (line : String) : Prop :=
  line = "" ∨ ∃ depth inner, line = indent (depth + 1) inner

theorem inner_indent (depth : Nat) (line : String) : Inner (indent (depth + 1) line) :=
  .inr ⟨depth, line, rfl⟩

theorem Inner.ne_close {line : String} (h : Inner line) : line ≠ "\x7d" := by
  rcases h with rfl | ⟨depth, inner, rfl⟩
  · decide
  · have hdeeper := indent_ne_close 0 depth inner
    rwa [Nat.zero_add] at hdeeper

/-! ### The struct -/

/-- What is noted of an input, over its field. -/
def noteLine (a : Attribute) : String :=
  "/// " ++ (if a.isOptional then "Optional" else "Required") ++ " " ++ ticked a.name.plain ++
    " input (" ++ a.filter.text ++ ")."

theorem field_eq (a : Attribute) : field a = [indent 1 (noteLine a), indent 1 (fieldLine a)] :=
  rfl

theorem note?_of_line {kind name filter : String} (hkind : ' ' ∉ kind.toList)
    (hname : '(' ∉ (kind ++ " " ++ ticked name ++ " input ").toList) :
    note? (indent 1 ("/// " ++ kind ++ " " ++ ticked name ++ " input (" ++ filter ++ ").")) =
      some ⟨kind, filter⟩ := by
  have hline : indent 1 ("/// " ++ kind ++ " " ++ ticked name ++ " input (" ++ filter ++ ").") =
      indent 1 "/// " ++ (kind ++ " " ++ ticked name ++ " input (" ++ filter) ++ ")." := by
    simp only [indent, String.append_assoc]
  have hblank : (kind ++ " " ++ ticked name ++ " input (" ++ filter).toList =
      kind.toList ++ ' ' :: (ticked name ++ " input (" ++ filter).toList := by
    simp [String.toList_append]
  have hbracket : (kind ++ " " ++ ticked name ++ " input (" ++ filter).toList =
      (kind ++ " " ++ ticked name ++ " input ").toList ++ '(' :: filter.toList := by
    simp [String.toList_append]
  rw [note?, hline, between?_append, Option.map_some, hbracket, cut_append hname, ← hbracket,
    hblank, cut_append hkind]
  simp

theorem filterMap_note?_field (a : Attribute) : (field a).filterMap note? =
    [⟨if a.isOptional then "Optional" else "Required", a.filter.text⟩] := by
  have hnote : note? (indent 1 (noteLine a)) =
      some ⟨if a.isOptional then "Optional" else "Required", a.filter.text⟩ := by
    have hbracket : '(' ∉ a.name.plain.toList := a.name.not_mem_plain (by decide)
    apply note?_of_line
    · split <;> decide
    · split <;> simp [ticked, String.toList_append, hbracket]
  have hfield : note? (indent 1 (fieldLine a)) = none := by
    rw [note?, between?_eq_none 4 (by decide)]
    · rfl
    · simp [indent, fieldLine, String.toList_append]
  rw [field_eq, List.filterMap_cons_some hnote, List.filterMap_cons_none hfield]
  rfl

theorem filterMap_field?_field (a : Attribute) :
    (field a).filterMap field? = [⟨a.name.text, a.fieldType⟩] := by
  have hnote : field? (indent 1 (noteLine a)) = none := by
    rw [field?, between?_eq_none 4 (by decide)]
    · rfl
    · simp [indent, noteLine, String.toList_append]
  have hline : indent 1 (fieldLine a) =
      indent 1 "pub " ++ (a.name.text ++ ": " ++ a.fieldType) ++ "," := by
    simp only [indent, fieldLine, String.append_assoc]
  have hfield : field? (indent 1 (fieldLine a)) = some ⟨a.name.text, a.fieldType⟩ := by
    rw [field?, hline, between?_append]
    exact typed?_append a.name a.fieldType
  rw [field_eq, List.filterMap_cons_none hnote, List.filterMap_cons_some hfield]
  rfl

theorem inner_field (a : Attribute) : ∀ l ∈ field a, Inner l := by
  rw [field_eq, List.forall_mem_cons, List.forall_mem_singleton]
  exact ⟨inner_indent 0 _, inner_indent 0 _⟩

/-! ### The methods -/

/-- The constructor as it is read. -/
def construction (b : Brief) : Method where
  name := "new"
  parameters := b.required.map fun a => ⟨a.name.text, a.valueType⟩
  body := indent 2 "Self \x7b" ::
    (b.required.map (fun a => indent 3 (a.name.text ++ ",")) ++
      b.optional.map (fun a => indent 3 (a.name.text ++ ": None,")) ++ [indent 2 "\x7d"])

/-- The setter of an input as it is read. -/
def setting (a : Attribute) : Method where
  name := setterName a
  parameters := [⟨a.name.text, a.valueType⟩]
  body := [indent 2 ("self." ++ a.name.text ++ " = Some(" ++ a.name.text ++ ");"), indent 2 "self"]

/-- The body left to be written as it is read. -/
def running (b : Brief) : Method where
  name := "execute"
  parameters := []
  body := [indent 2 ("todo!(\"implement " ++ b.typeName.text ++ "::execute\")")]

theorem header?_of_line {line name parameters result : String}
    (hline : line = "pub fn " ++ name ++ "(" ++ parameters ++ ")" ++ result ++ " \x7b")
    (hname : '(' ∉ name.toList) (hparameters : ')' ∉ parameters.toList) :
    header? (indent 1 line) = some (name, parametersOf parameters.toList) := by
  have hindent : indent 1 line =
      indent 1 "pub fn " ++ (name ++ "(" ++ parameters ++ ")" ++ result) ++ " \x7b" := by
    rw [hline]
    simp only [indent, String.append_assoc]
  have hopen : (name ++ "(" ++ parameters ++ ")" ++ result).toList =
      name.toList ++ '(' :: (parameters ++ ")" ++ result).toList := by
    simp [String.toList_append]
  have hclose : (parameters ++ ")" ++ result).toList =
      parameters.toList ++ ')' :: result.toList := by
    simp [String.toList_append]
  rw [header?, hindent, between?_append, Option.map_some, hopen, cut_append hname]
  simp only [Option.getD_some]
  rw [hclose, cut_append hparameters, String.ofList_toList]

theorem header?_eq_none {line : String} (h : line.toList[4]? ≠ some 'p') : header? line = none := by
  rw [header?, between?_eq_none 4 (by decide) h]
  rfl

theorem header?_empty : header? "" = none :=
  header?_eq_none (by decide)

theorem header?_indent (depth : Nat) (line : String) :
    header? (indent (depth + 2) line) = none := by
  apply header?_eq_none
  simp [toList_indent_succ]

theorem methodsOf_cons_none {line : String} (h : header? line = none) (rest : List String) :
    methodsOf (line :: rest) = methodsOf rest := by
  rw [methodsOf, h]

/-- Lines that lie deeper than those of a method itself. -/
def Deep (line : String) : Prop :=
  ∃ depth inner, line = indent (depth + 2) inner

theorem deep_indent (depth : Nat) (line : String) : Deep (indent (depth + 2) line) :=
  ⟨depth, line, rfl⟩

theorem methodsOf_deep {body : List String} (h : ∀ l ∈ body, Deep l) (rest : List String) :
    methodsOf (body ++ rest) = methodsOf rest := by
  induction body with
  | nil => rfl
  | cons l body ih =>
    rw [List.forall_mem_cons] at h
    obtain ⟨⟨depth, inner, rfl⟩, hbody⟩ := h
    rw [List.cons_append, methodsOf_cons_none (header?_indent depth inner), ih hbody]

theorem methodsOf_method {m : Method} {line : String}
    (hline : header? line = some (m.name, m.parameters)) (hbody : ∀ l ∈ m.body, Deep l)
    (rest : List String) :
    methodsOf (line :: (m.body ++ indent 1 "\x7d" :: rest)) = m :: methodsOf rest := by
  have hclose : header? (indent 1 "\x7d") = none := by
    apply header?_eq_none
    simp [indent]
  have htaken : ∀ l ∈ m.body, l ≠ indent 1 "\x7d" := by
    intro l hl
    obtain ⟨depth, inner, rfl⟩ := hbody l hl
    rw [show depth + 2 = 1 + (depth + 1) by omega]
    exact indent_ne_close 1 depth inner
  rw [methodsOf, hline]
  simp only
  rw [takeWhile_close htaken, methodsOf_deep hbody, methodsOf_cons_none hclose]

theorem deep_construction (b : Brief) : ∀ l ∈ (construction b).body, Deep l := by
  simp only [construction, List.forall_mem_cons, List.forall_mem_append, List.forall_mem_map]
  exact ⟨deep_indent 0 _, ⟨fun a _ => deep_indent 1 _, fun a _ => deep_indent 1 _⟩, deep_indent 0 _,
    nofun⟩

theorem not_mem_parameter (a : Attribute) : ')' ∉ (parameter a).toList := by
  have hname : ')' ∉ a.name.text.toList := a.name.not_mem_text (by decide) (by decide)
  have htype : ')' ∉ a.valueType.toList := a.not_mem_valueType _ (by decide)
  simp [parameter, String.toList_append, hname, htype]

theorem methodsOf_constructor (b : Brief) (rest : List String) :
    methodsOf (constructor b ++ rest) = construction b :: methodsOf rest := by
  let parameters := ", ".intercalate (b.required.map parameter)
  let header := "pub fn new(" ++ parameters ++ ") -> Self \x7b"
  have hlines : constructor b ++ rest =
      indent 1 "/// Build the mutation from its required inputs." ::
      indent 1 header :: ((construction b).body ++ indent 1 "\x7d" :: rest) := by
    simp [constructor, construction, header, parameters]
  have hnote : header? (indent 1 "/// Build the mutation from its required inputs.") = none := by
    apply header?_eq_none
    simp [indent]
  have hparameters : ')' ∉ parameters.toList := by
    refine not_mem_intercalate (by decide) ?_
    rw [List.forall_mem_map]
    exact fun a _ => not_mem_parameter a
  have hparts : header =
      "pub fn " ++ "new" ++ "(" ++ parameters ++ ")" ++ " -> Self" ++ " \x7b" := by
    apply String.toList_injective
    simp [header, String.toList_append]
  have hheader : header? (indent 1 header) =
      some ((construction b).name, (construction b).parameters) := by
    rw [header?_of_line hparts (by decide) hparameters, parametersOf_parameters]
    rfl
  rw [hlines, methodsOf_cons_none hnote, methodsOf_method hheader (deep_construction b)]

theorem deep_setting (a : Attribute) : ∀ l ∈ (setting a).body, Deep l := by
  simp only [setting, List.forall_mem_cons]
  exact ⟨deep_indent 0 _, deep_indent 0 _, nofun⟩

theorem methodsOf_setter (a : Attribute) (rest : List String) :
    methodsOf (setter a ++ rest) = setting a :: methodsOf rest := by
  let header := "pub fn " ++ setterName a ++ "(mut self, " ++ parameter a ++ ") -> Self \x7b"
  have hlines : setter a ++ rest =
      "" :: indent 1 ("/// Set the optional " ++ ticked a.name.plain ++ " input.") ::
      indent 1 header :: ((setting a).body ++ indent 1 "\x7d" :: rest) := by
    simp [setter, setting, header]
  have hnote : header? (indent 1 ("/// Set the optional " ++ ticked a.name.plain ++ " input.")) =
      none := by
    apply header?_eq_none
    simp [indent, String.toList_append]
  have hname : '(' ∉ (setterName a).toList := by
    have hplain : '(' ∉ a.name.plain.toList := a.name.not_mem_plain (by decide)
    simp [setterName, String.toList_append, hplain]
  have hparameters : ')' ∉ ("mut self, " ++ parameter a).toList := by
    simp [String.toList_append, not_mem_parameter]
  have hparts : header = "pub fn " ++ setterName a ++ "(" ++ ("mut self, " ++ parameter a) ++ ")" ++
      " -> Self" ++ " \x7b" := by
    apply String.toList_injective
    simp [header, String.toList_append]
  have hheader : header? (indent 1 header) = some ((setting a).name, (setting a).parameters) := by
    rw [header?_of_line hparts hname hparameters, parametersOf_receiver]
    rfl
  rw [hlines, methodsOf_cons_none header?_empty, methodsOf_cons_none hnote,
    methodsOf_method hheader (deep_setting a)]

theorem methodsOf_execution (b : Brief) : methodsOf (execution b) = [running b] := by
  have hnote : header? (indent 1 "/// Run the mutation.") = none := by
    apply header?_eq_none
    simp [indent]
  have hheader : header? (indent 1
      "pub fn execute(self) -> Result<(), Box<dyn std::error::Error>> \x7b") =
      some ((running b).name, (running b).parameters) := by
    have hparts : "pub fn execute(self) -> Result<(), Box<dyn std::error::Error>> \x7b" =
        "pub fn " ++ "execute" ++ "(" ++ "self" ++ ")" ++
          " -> Result<(), Box<dyn std::error::Error>>" ++ " \x7b" := by
      decide
    rw [header?_of_line hparts (by decide) (by decide)]
    rfl
  have hbody : ∀ l ∈ (running b).body, Deep l :=
    List.forall_mem_singleton.mpr (deep_indent 0 _)
  show methodsOf ("" :: indent 1 "/// Run the mutation." ::
    indent 1 "pub fn execute(self) -> Result<(), Box<dyn std::error::Error>> \x7b" ::
      ((running b).body ++ indent 1 "\x7d" :: [])) = _
  rw [methodsOf_cons_none header?_empty, methodsOf_cons_none hnote, methodsOf_method hheader hbody]
  rfl

theorem methodsOf_methods (b : Brief) :
    methodsOf (constructor b ++ b.optional.flatMap setter ++ execution b) =
      construction b :: (b.optional.map setting ++ [running b]) := by
  have hsetters : ∀ as : List Attribute, methodsOf (as.flatMap setter ++ execution b) =
      as.map setting ++ [running b] := by
    intro as
    induction as with
    | nil => exact methodsOf_execution b
    | cons a rest ih =>
      rw [List.flatMap_cons, List.append_assoc, methodsOf_setter, ih]
      rfl
  rw [List.append_assoc, methodsOf_constructor, hsetters]

/-! ### What the methods do -/

theorem initialisers_construction (b : Brief) : (construction b).initialisers =
    b.required.map (fun a => ⟨a.name.text, a.name.text⟩) ++
      b.optional.map (fun a => ⟨a.name.text, "None"⟩) := by
  have hmiddle : ∀ l ∈ b.required.map (fun a => indent 3 (a.name.text ++ ",")) ++
      b.optional.map (fun a => indent 3 (a.name.text ++ ": None,")), l ≠ indent 2 "\x7d" := by
    rw [List.forall_mem_append, List.forall_mem_map, List.forall_mem_map]
    exact ⟨fun a _ => indent_ne_close 2 0 _, fun a _ => indent_ne_close 2 0 _⟩
  have hrequired : ∀ a : Attribute, initialiser? (indent 3 (a.name.text ++ ",")) =
      some ⟨a.name.text, a.name.text⟩ := by
    intro a
    have hline : indent 3 (a.name.text ++ ",") = indent 3 "" ++ a.name.text ++ "," := by
      apply String.toList_injective
      simp [indent, String.toList_append]
    rw [initialiser?, hline, between?_append, Option.map_some, colon_text]
    rfl
  have hoptional : ∀ a : Attribute, initialiser? (indent 3 (a.name.text ++ ": None,")) =
      some ⟨a.name.text, "None"⟩ := by
    intro a
    have hline : indent 3 (a.name.text ++ ": None,") =
        indent 3 "" ++ (a.name.text ++ ": " ++ "None") ++ "," := by
      apply String.toList_injective
      simp [indent, String.toList_append]
    rw [initialiser?, hline, between?_append, Option.map_some, colon_append]
    rfl
  have hbefore : ∀ l ∈ ([] : List String), (l == indent 2 "Self \x7b") = false :=
    List.forall_mem_nil _
  have hblock : block (· == indent 2 "Self \x7b") (indent 2 "\x7d") (construction b).body =
      b.required.map (fun a => indent 3 (a.name.text ++ ",")) ++
        b.optional.map (fun a => indent 3 (a.name.text ++ ": None,")) :=
    block_append hbefore (beq_self_eq_true _) hmiddle
  rw [Method.initialisers, hblock, List.filterMap_append, List.filterMap_map, List.filterMap_map,
    ← List.filterMap_eq_map, ← List.filterMap_eq_map]
  congr 2
  · funext a
    exact hrequired a
  · funext a
    exact hoptional a

theorem assignment?_eq_none {line : String} (n : Nat) (hn : n < (indent 2 "self.").toList.length)
    (h : line.toList[n]? ≠ (indent 2 "self.").toList[n]?) : assignment? line = none := by
  rw [assignment?, between?_eq_none n hn h]
  rfl

theorem assignments_construction (b : Brief) : (construction b).assignments = [] := by
  rw [Method.assignments, List.filterMap_eq_nil_iff]
  simp only [construction, List.forall_mem_cons, List.forall_mem_append, List.forall_mem_map]
  refine ⟨?_, ⟨fun a _ => ?_, fun a _ => ?_⟩, ?_, nofun⟩
  all_goals
    apply assignment?_eq_none 8 (by decide)
    simp [indent, String.toList_append]

theorem assignments_setting (a : Attribute) :
    (setting a).assignments = [⟨a.name.text, "Some(" ++ a.name.text ++ ")"⟩] := by
  have hline : indent 2 ("self." ++ a.name.text ++ " = Some(" ++ a.name.text ++ ");") =
      indent 2 "self." ++ (a.name.text ++ " = " ++ ("Some(" ++ a.name.text ++ ")")) ++ ";" := by
    apply String.toList_injective
    simp [indent, String.toList_append]
  have hparts : (a.name.text ++ " = " ++ ("Some(" ++ a.name.text ++ ")")).toList =
      a.name.text.toList ++ ' ' :: '=' :: ' ' :: ("Some(" ++ a.name.text ++ ")").toList := by
    simp [String.toList_append]
  have hassignment : assignment? (indent 2 ("self." ++ a.name.text ++ " = Some(" ++ a.name.text ++
      ");")) = some ⟨a.name.text, "Some(" ++ a.name.text ++ ")"⟩ := by
    rw [assignment?, hline, between?_append, Option.bind_some, hparts,
      cut_append (a.name.not_mem_text (by decide) (by decide))]
    simp only [String.ofList_toList]
  have hself : assignment? (indent 2 "self") = none := by
    apply assignment?_eq_none 12 (by decide)
    decide
  rw [Method.assignments, setting, List.filterMap_cons_some hassignment,
    List.filterMap_cons_none hself]
  rfl

theorem assignments_running (b : Brief) : (running b).assignments = [] := by
  have hbody : assignment? (indent 2 ("todo!(\"implement " ++ b.typeName.text ++ "::execute\")")) =
      none := by
    apply assignment?_eq_none 8 (by decide)
    simp [indent, String.toList_append]
  rw [Method.assignments, running, List.filterMap_cons_none hbody]
  rfl

/-! ### The whole source -/

theorem heading_begins (b : Brief) :
    ∀ l ∈ heading b, l.toList[0]? ≠ some 'p' ∧ l.toList[0]? ≠ some 'i' := by
  have hsummary : ∀ kind as, ∀ l ∈ summary kind as,
      l.toList[0]? ≠ some 'p' ∧ l.toList[0]? ≠ some 'i' := by
    intro kind as
    unfold summary
    split <;> simp [String.toList_append]
  simp only [heading, List.forall_mem_append]
  refine ⟨⟨?_, hsummary _ _⟩, hsummary _ _⟩
  simp [String.toList_append]

theorem not_opensStruct {line : String} (h : line.toList[0]? ≠ some 'p') :
    opensStruct line = false := by
  rw [opensStruct, between?_eq_none 0 (by decide) h]
  rfl

theorem not_opensImpl {line : String} (h : line.toList[0]? ≠ some 'i') :
    opensImpl line = false := by
  rw [opensImpl, between?_eq_none 0 (by decide) h]
  rfl

theorem inner_fields (b : Brief) : ∀ l ∈ b.inputs.flatMap field, Inner l := by
  intro l hl
  obtain ⟨a, -, hl⟩ := List.mem_flatMap.mp hl
  exact inner_field a l hl

theorem inner_methods (b : Brief) :
    ∀ l ∈ constructor b ++ b.optional.flatMap setter ++ execution b, Inner l := by
  have hempty : Inner "" := .inl rfl
  have hnone : ∀ l ∈ ([] : List String), Inner l := List.forall_mem_nil _
  have hsetter : ∀ a : Attribute, ∀ l ∈ setter a, Inner l := by
    intro a
    simp only [setter, List.forall_mem_cons]
    exact ⟨hempty, inner_indent 0 _, inner_indent 0 _, inner_indent 1 _, inner_indent 1 _,
      inner_indent 0 _, hnone⟩
  simp only [constructor, execution, List.forall_mem_append, List.forall_mem_cons,
    List.forall_mem_map]
  refine ⟨⟨⟨⟨⟨⟨inner_indent 0 _, inner_indent 0 _, inner_indent 1 _, hnone⟩,
    fun a _ => inner_indent 2 _⟩, fun a _ => inner_indent 2 _⟩, inner_indent 1 _, inner_indent 0 _,
    hnone⟩, fun l hl => ?_⟩, hempty, inner_indent 0 _, inner_indent 0 _, inner_indent 1 _,
    inner_indent 0 _, hnone⟩
  obtain ⟨a, -, hl⟩ := List.mem_flatMap.mp hl
  exact hsetter a l hl

theorem declaration_begins (b : Brief) : ∀ l ∈ declaration b, l.toList[0]? ≠ some 'i' := by
  have hfields : ∀ l ∈ b.inputs.flatMap field, l.toList[0]? ≠ some 'i' := by
    intro l hl
    rcases inner_fields b l hl with rfl | ⟨depth, inner, rfl⟩
    · decide
    · simp [toList_indent_succ]
  simp only [declaration, List.forall_mem_append]
  refine ⟨⟨?_, hfields⟩, by decide⟩
  simp [String.toList_append]

/-- The source up to its struct, the lines of the struct, and what comes after them. -/
theorem sourceLines_struct (b : Brief) : ∃ rest, sourceLines b =
    (heading b ++ ["#[derive(Debug)]"]) ++ ("pub struct " ++ b.typeName.text ++ " \x7b") ::
      (b.inputs.flatMap field ++ "\x7d" :: rest) := by
  refine ⟨["", "impl " ++ b.typeName.text ++ " \x7b"] ++ constructor b ++
    b.optional.flatMap setter ++ execution b ++ ["\x7d"], ?_⟩
  simp [sourceLines, declaration]

theorem not_opensStruct_heading (b : Brief) :
    ∀ l ∈ heading b ++ ["#[derive(Debug)]"], opensStruct l = false := by
  rw [List.forall_mem_append, List.forall_mem_singleton]
  exact ⟨fun l hl => not_opensStruct (heading_begins b l hl).1, not_opensStruct (by decide)⟩

theorem block_struct (b : Brief) :
    block opensStruct "\x7d" (sourceLines b) = b.inputs.flatMap field := by
  obtain ⟨rest, hlines⟩ := sourceLines_struct b
  have hopening : opensStruct ("pub struct " ++ b.typeName.text ++ " \x7b") = true := by
    rw [opensStruct, between?_append]
    rfl
  rw [hlines]
  exact block_append (not_opensStruct_heading b) hopening fun l hl => (inner_fields b l hl).ne_close

theorem block_impl (b : Brief) : block opensImpl "\x7d" (sourceLines b) =
    constructor b ++ b.optional.flatMap setter ++ execution b := by
  have hlines : sourceLines b = (heading b ++ declaration b ++ [""]) ++
      ("impl " ++ b.typeName.text ++ " \x7b") ::
        (constructor b ++ b.optional.flatMap setter ++ execution b ++ "\x7d" :: []) := by
    simp [sourceLines]
  have hopening : opensImpl ("impl " ++ b.typeName.text ++ " \x7b") = true := by
    rw [opensImpl, between?_append]
    rfl
  rw [hlines]
  refine block_append ?_ hopening fun l hl => (inner_methods b l hl).ne_close
  rw [List.forall_mem_append, List.forall_mem_append, List.forall_mem_singleton]
  exact ⟨⟨fun l hl => not_opensImpl (heading_begins b l hl).2,
    fun l hl => not_opensImpl (declaration_begins b l hl)⟩, not_opensImpl (by decide)⟩

theorem findSome?_typeName (b : Brief) :
    (sourceLines b).findSome? (between? "pub struct " " \x7b") = some b.typeName.text := by
  obtain ⟨rest, hlines⟩ := sourceLines_struct b
  have hheading : (heading b ++ ["#[derive(Debug)]"]).findSome? (between? "pub struct " " \x7b") =
      none := by
    rw [List.findSome?_eq_none_iff]
    intro l hl
    have hopens := not_opensStruct_heading b l hl
    simpa [opensStruct] using hopens
  rw [hlines, List.findSome?_append, hheading, Option.none_or, List.findSome?_cons, between?_append]

theorem findSome?_target (b : Brief) :
    (sourceLines b).findSome? (between? "/// Command object for \x60" "\x60.") = some b.target := by
  have hfirst : between? "/// Command object for \x60" "\x60."
      ("//! " ++ ticked b.typeName.text ++ " mutation.") = none := by
    apply between?_eq_none 2 (by decide)
    simp [String.toList_append]
  have hsecond : between? "/// Command object for \x60" "\x60." "" = none := by
    apply between?_eq_none 0 (by decide)
    decide
  have hthird : between? "/// Command object for \x60" "\x60."
      ("/// Command object for " ++ ticked b.target ++ ".") = some b.target := by
    rw [between?_eq_some_iff]
    apply String.toList_injective
    simp [ticked, String.toList_append]
  simp only [sourceLines, heading, List.append_assoc, List.cons_append, List.findSome?_cons, hfirst,
    hsecond, hthird]

theorem outline_source (htarget : OneLine b.target) : outline (source b) =
    { target := some b.target
      typeName := some b.typeName.text
      notes := b.inputs.map fun a =>
        ⟨if a.isOptional then "Optional" else "Required", a.filter.text⟩
      fields := b.inputs.map fun a => ⟨a.name.text, a.fieldType⟩
      methods := construction b :: (b.optional.map setting ++ [running b]) } := by
  unfold outline
  simp only [lines_source htarget, block_struct, block_impl, methodsOf_methods, findSome?_target,
    findSome?_typeName, filterMap_pieces filterMap_note?_field,
    filterMap_pieces filterMap_field?_field]

end Stencil.Mutation
