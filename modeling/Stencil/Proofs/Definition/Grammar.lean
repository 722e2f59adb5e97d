import Stencil.Proofs.Definition.Name
import Stencil.Proofs.Definition.Segments

/-! Which tokens define an attribute, which attribute they define, and what is wrong with the others.
A token is a name, a filter and perhaps a requirement; of several faults the first one counts,
where names are looked at last unless they are missing. -/

namespace Stencil

theorem Filter.mem_names_iff {word : String} : word ∈ names ↔ ∃ f : Filter, word = f.text := by
  simp [names, mem_all, eq_comm]

theorem Filter.ofText?_eq_none_iff {word : String} : ofText? word = none ↔ word ∉ names := by
  rw [mem_names_iff, Option.eq_none_iff_forall_ne_some, not_exists]
  simp only [ne_eq, ofText?_eq_some_iff]

theorem Filter.text_ne_empty (f : Filter) : f.text ≠ "" := by
  cases f <;> decide

theorem Filter.not_colon_mem_text (f : Filter) : ':' ∉ f.text.toList := by
  cases f <;> decide

namespace Requirement

theorem mem_names_iff {word : String} : word ∈ names ↔ ∃ r : Requirement, word = r.text := by
  constructor
  · intro h
    obtain ⟨r, -, rfl⟩ := List.mem_map.mp h
    exact ⟨r, rfl⟩
  · rintro ⟨r, rfl⟩
    cases r <;> decide

theorem ofText?_eq_none_iff {word : String} : ofText? word = none ↔ word ∉ names := by
  rw [mem_names_iff, Option.eq_none_iff_forall_ne_some, not_exists]
  simp only [ne_eq, ofText?_eq_some_iff]

theorem text_ne_empty (r : Requirement) : r.text ≠ "" := by
  cases r <;> decide

/-- The segments that a requirement may be told by. The usual one need not be told. -/
def segments : Requirement → List (Option String)
  | required => [none, some "", some "required"]
  | optional => [some "optional"]

theorem mem_segments_iff {r : Requirement} {segment : Option String} :
    segment ∈ r.segments ↔
      segment = some r.text ∨ r = implied ∧ (segment = none ∨ segment = some "") := by
  cases r with
  | required => simp [segments, implied, text, or_comm, or_assoc]
  | optional => simp [segments, implied, text]

theorem word_of_mem_segments {r : Requirement} {word : String} (h : some word ∈ r.segments) :
    word = "" ∨ word = "required" ∨ word = "optional" := by
  cases r with
  | required =>
    have hword : word = "" ∨ word = "required" := by simpa [segments] using h
    exact hword.imp_right .inl
  | optional =>
    have hword : word = "optional" := by simpa [segments] using h
    exact .inr (.inr hword)

theorem optional_mem_segments_iff {r : Requirement} :
    some "optional" ∈ r.segments ↔ r = optional := by
  cases r <;> decide

end Requirement

namespace Attribute

variable {token : String} {segment : Option String}

theorem filterOf_eq_ok_iff {f : Filter} :
    filterOf token segment = .ok f ↔ segment = some f.text := by
  rcases segment with _ | word
  · simp [filterOf]
  · by_cases hempty : word = ""
    · simp [filterOf, hempty, (f.text_ne_empty).symm]
    · rw [filterOf, if_neg hempty, Option.some.injEq, ← Filter.ofText?_eq_some_iff]
      cases Filter.ofText? word <;> simp

theorem filterOf_eq_error_iff {e : Failure} :
    filterOf token segment = .error e ↔
      (segment = none ∨ segment = some "") ∧ e = .missingFilter token ∨
        ∃ word, segment = some word ∧ word ≠ "" ∧ word ∉ Filter.names ∧
          e = .unknownFilter token word := by
  rcases segment with _ | word
  · simp [filterOf, eq_comm]
  · by_cases hempty : word = ""
    · simp [filterOf, hempty, eq_comm]
    · rw [filterOf, if_neg hempty]
      cases hword : Filter.ofText? word with
      | none =>
        have hnames := Filter.ofText?_eq_none_iff.mp hword
        simp [hempty, hnames, eq_comm]
      | some f =>
        have hnames : word ∈ Filter.names :=
          Filter.mem_names_iff.mpr ⟨f, Filter.ofText?_eq_some_iff.mp hword⟩
        simp [hempty, hnames]

theorem requirementOf_eq_ok_iff {r : Requirement} :
    requirementOf token segment = .ok r ↔ segment ∈ r.segments := by
  rw [Requirement.mem_segments_iff]
  rcases segment with _ | word
  · simp [requirementOf, eq_comm]
  · by_cases hempty : word = ""
    · simp [requirementOf, hempty, (r.text_ne_empty).symm, eq_comm]
    · rw [requirementOf, if_neg hempty, Option.some.injEq, ← Requirement.ofText?_eq_some_iff]
      cases Requirement.ofText? word <;> simp [hempty]

/-- A segment tells one requirement. -/
theorem requirement_unique {r r' : Requirement} (h : segment ∈ r.segments)
    (h' : segment ∈ r'.segments) : r = r' := by
  have hread : requirementOf "" segment = .ok r := requirementOf_eq_ok_iff.mpr h
  rw [requirementOf_eq_ok_iff.mpr h'] at hread
  exact (Except.ok.inj hread).symm

theorem requirementOf_eq_error_iff {e : Failure} :
    requirementOf token segment = .error e ↔
      ∃ word, segment = some word ∧ word ≠ "" ∧ word ∉ Requirement.names ∧
        e = .unknownRequirement token word := by
  rcases segment with _ | word
  · simp [requirementOf]
  · by_cases hempty : word = ""
    · simp [requirementOf, hempty]
    · rw [requirementOf, if_neg hempty]
      cases hword : Requirement.ofText? word with
      | none =>
        have hnames := Requirement.ofText?_eq_none_iff.mp hword
        simp [hempty, hnames, eq_comm]
      | some r =>
        have hnames : word ∈ Requirement.names :=
          Requirement.mem_names_iff.mpr ⟨r, Requirement.ofText?_eq_some_iff.mp hword⟩
        simp [hempty, hnames]

end Attribute

/-! ### What segments say -/

namespace Segments

open Attribute

/-- The segments define the attribute. -/
structure Spell (g : Segments) (a : Attribute) : Prop where
  name : a.name.text = escaped g.name
  filter : g.filter = some a.filter.text
  requirement : g.requirement ∈ a.requirement.segments

/-- What is wrong with the segments of a token, each fault with what must be right before it
counts. -/
inductive Blame (token : String) (g : Segments) : Failure → Prop where
  | missingName (hname : g.name = "") : Blame token g (.missingName token)
  | missingFilter (hname : g.name ≠ "") (hfilter : g.filter = none ∨ g.filter = some "") :
      Blame token g (.missingFilter token)
  | unknownFilter {word : String} (hname : g.name ≠ "") (hfilter : g.filter = some word)
      (hempty : word ≠ "") (hword : word ∉ Filter.names) :
      Blame token g (.unknownFilter token word)
  | unknownRequirement {word : String} {f : Filter} (hname : g.name ≠ "")
      (hfilter : g.filter = some f.text) (hrequirement : g.requirement = some word)
      (hempty : word ≠ "") (hword : word ∉ Requirement.names) :
      Blame token g (.unknownRequirement token word)
  | invalidName {f : Filter} {r : Requirement} (hempty : g.name ≠ "")
      (hfilter : g.filter = some f.text) (hrequirement : g.requirement ∈ r.segments)
      (hname : ¬ IsName g.name) : Blame token g (.invalidName token g.name)

variable {token : String} {g : Segments} {a : Attribute}

theorem parted_mk {name : String} (hname : ':' ∉ name.toList) (f : Filter)
    (requirement : Option String) : Parted ⟨name, some f.text, requirement⟩ := by
  refine ⟨hname, ?_, nofun⟩
  rintro _ ⟨⟩
  exact f.not_colon_mem_text

theorem Spell.isName (h : g.Spell a) : IsName g.name :=
  isName_iff.mpr ⟨(isAscii_plain_of_text h.name).symm.trans a.ascii, a.name, h.name⟩

theorem Spell.isOptional_iff (h : g.Spell a) :
    a.isOptional = true ↔ g.requirement = some "optional" := by
  have hrequirement := h.requirement
  constructor
  · intro hoptional
    cases hr : a.requirement with
    | required => simp [isOptional, hr, Requirement.isOptional] at hoptional
    | optional => simpa [hr, Requirement.segments] using hrequirement
  · intro hsegment
    rw [hsegment, Requirement.optional_mem_segments_iff] at hrequirement
    rw [isOptional, hrequirement]
    rfl

theorem exists_spell_iff : (∃ a, g.Spell a) ↔
    IsName g.name ∧ (∃ f : Filter, g.filter = some f.text) ∧
      ∃ r : Requirement, g.requirement ∈ r.segments := by
  constructor
  · rintro ⟨a, h⟩
    exact ⟨h.isName, ⟨a.filter, h.filter⟩, a.requirement, h.requirement⟩
  · rintro ⟨hname, ⟨f, hf⟩, r, hr⟩
    obtain ⟨hascii, i, hi⟩ := isName_iff.mp hname
    exact ⟨⟨i, f, r, (isAscii_plain_of_text hi).trans hascii⟩, hi, hf, hr⟩

end Segments

namespace Attribute

variable {token : String} {a : Attribute} {e : Failure}

theorem parse_eq_ok_iff : parse token = .ok a ↔ (Segments.ofToken token).Spell a := by
  constructor
  · intro h
    unfold parse at h
    simp only at h
    split at h
    · contradiction
    split at h
    · contradiction
    rename_i f hfilter
    split at h
    · contradiction
    rename_i r hrequirement
    split at h
    · contradiction
    rename_i i ascii hname
    cases h
    exact ⟨nameOf?_eq_some_iff.mp hname, filterOf_eq_ok_iff.mp hfilter,
      requirementOf_eq_ok_iff.mp hrequirement⟩
  · intro h
    have hname : nameOf? (Segments.ofToken token).name = some ⟨a.name, a.ascii⟩ :=
      nameOf?_eq_some_iff.mpr h.name
    simp only [parse, if_neg (ne_empty_of_isName h.isName), filterOf_eq_ok_iff.mpr h.filter,
      requirementOf_eq_ok_iff.mpr h.requirement, hname]

theorem parse_text {g : Segments} (hparted : g.Parted) (h : g.Spell a) :
    parse g.text = .ok a := by
  rw [parse_eq_ok_iff, Segments.ofToken_text hparted]
  exact h

theorem parse_eq_error_iff :
    parse token = .error e ↔ (Segments.ofToken token).Blame token e := by
  constructor
  · intro h
    unfold parse at h
    simp only at h
    split at h
    · rename_i hname
      cases h
      exact .missingName hname
    rename_i hname
    split at h
    · rename_i hfilter
      cases h
      rcases filterOf_eq_error_iff.mp hfilter with ⟨habsent, rfl⟩ | ⟨word, hword, hempty, hnew, rfl⟩
      · exact .missingFilter hname habsent
      · exact .unknownFilter hname hword hempty hnew
    rename_i f hfilter
    have hfilter := filterOf_eq_ok_iff.mp hfilter
    split at h
    · rename_i hrequirement
      cases h
      obtain ⟨word, hword, hempty, hnew, rfl⟩ := requirementOf_eq_error_iff.mp hrequirement
      exact .unknownRequirement hname hfilter hword hempty hnew
    rename_i r hrequirement
    split at h
    · rename_i hnone
      cases h
      exact .invalidName hname hfilter (requirementOf_eq_ok_iff.mp hrequirement)
        (nameOf?_eq_none_iff.mp hnone)
    · contradiction
  · intro h
    cases h with
    | missingName hname => simp only [parse, if_pos hname]
    | missingFilter hname hfilter =>
      have hfault : filterOf token _ = .error _ := filterOf_eq_error_iff.mpr (.inl ⟨hfilter, rfl⟩)
      simp only [parse, if_neg hname, hfault]
    | unknownFilter hname hfilter hempty hword =>
      have hfault : filterOf token _ = .error _ :=
        filterOf_eq_error_iff.mpr (.inr ⟨_, hfilter, hempty, hword, rfl⟩)
      simp only [parse, if_neg hname, hfault]
    | unknownRequirement hname hfilter hrequirement hempty hword =>
      have hfault : requirementOf token _ = .error _ :=
        requirementOf_eq_error_iff.mpr ⟨_, hrequirement, hempty, hword, rfl⟩
      simp only [parse, if_neg hname, filterOf_eq_ok_iff.mpr hfilter, hfault]
    | invalidName hempty hfilter hrequirement hname =>
      simp only [parse, if_neg hempty, filterOf_eq_ok_iff.mpr hfilter,
        requirementOf_eq_ok_iff.mpr hrequirement, nameOf?_eq_none_iff.mpr hname]

end Attribute

/-! ### Whole tokens -/

namespace Attribute

variable {token : String}

/-- A name and a filter, with nothing after them or what may tell a requirement. -/
def IsToken (token : String) : Prop :=
  ∃ name, IsName name ∧ ∃ filter ∈ Filter.names, ∃ ending ∈ ["", ":", ":required", ":optional"],
    token = name ++ ":" ++ filter ++ ending

theorem isToken_of_spell {a : Attribute} (h : (Segments.ofToken token).Spell a) :
    IsToken token := by
  have htext := Segments.text_ofToken token
  generalize Segments.ofToken token = g at h htext
  obtain ⟨name, filter, requirement⟩ := g
  obtain rfl : filter = some a.filter.text := h.filter
  refine ⟨name, h.isName, a.filter.text, Filter.mem_names_iff.mpr ⟨_, rfl⟩, ?_⟩
  cases requirement with
  | none => exact ⟨"", by simp, by rw [← htext, String.append_empty]; rfl⟩
  | some word =>
    have hending : ":" ++ word ∈ ["", ":", ":required", ":optional"] := by
      rcases Requirement.word_of_mem_segments h.requirement with rfl | rfl | rfl <;> decide
    exact ⟨":" ++ word, hending, by rw [← htext, ← String.append_assoc]; rfl⟩

theorem spell_of_isToken (h : IsToken token) : ∃ a, (Segments.ofToken token).Spell a := by
  obtain ⟨name, hname, filter, hfilter, ending, hending, rfl⟩ := h
  obtain ⟨f, rfl⟩ := Filter.mem_names_iff.mp hfilter
  -- each ending is that of a token with a requirement segment, or without any
  have hsegments : ∃ (requirement : Option String) (r : Requirement),
      requirement ∈ r.segments ∧
        name ++ ":" ++ f.text ++ ending = Segments.text ⟨name, some f.text, requirement⟩ := by
    simp only [List.mem_cons, List.not_mem_nil, or_false] at hending
    rcases hending with rfl | rfl | rfl | rfl
    · exact ⟨none, .required, by decide, String.append_empty⟩
    · exact ⟨some "", .required, by decide, by simp [Segments.text]⟩
    · exact ⟨some "required", .required, by decide, by simp [Segments.text, String.append_assoc]⟩
    · exact ⟨some "optional", .optional, by decide, by simp [Segments.text, String.append_assoc]⟩
  obtain ⟨requirement, r, hr, htext⟩ := hsegments
  rw [htext, Segments.ofToken_text (Segments.parted_mk (not_colon_of_isName hname) f requirement)]
  exact Segments.exists_spell_iff.mpr ⟨hname, ⟨f, rfl⟩, r, hr⟩

end Attribute

namespace Failure

theorem exists_quoted (front back token : String) :
    ∃ before after, front ++ quoted token ++ back = before ++ token ++ after :=
  ⟨front ++ "\x60", "\x60" ++ back, by simp only [quoted, String.append_assoc]⟩

end Failure

theorem Segments.Blame.message {token : String} {g : Segments} {e : Failure}
    (h : g.Blame token e) : ∃ before after, e.message = before ++ token ++ after := by
  cases h with
  | missingName => exact Failure.exists_quoted "attribute definition " _ token
  | missingFilter => exact Failure.exists_quoted "attribute definition " _ token
  | @unknownFilter word =>
    obtain ⟨before, after, h⟩ := Failure.exists_quoted
      ("invalid filter type " ++ Failure.quoted word ++ " in ")
      (", must be one of: " ++ Failure.listed Filter.names) token
    exact ⟨before, after, by rw [← h, ← String.append_assoc]; rfl⟩
  | @unknownRequirement word =>
    obtain ⟨before, after, h⟩ := Failure.exists_quoted
      ("invalid requirement " ++ Failure.quoted word ++ " in ")
      (", must be one of: " ++ Failure.listed Requirement.names) token
    exact ⟨before, after, by rw [← h, ← String.append_assoc]; rfl⟩
  | invalidName =>
    exact Failure.exists_quoted ("attribute name " ++ Failure.quoted g.name ++ " in ") _ token

namespace Attribute

/-- Every token is cut at its first two colons, in one way. It is accepted if it has the form of a
token, and then says what the attribute is; or else it is blamed for the first fault that applies,
in words that quote it and list what would have been right. -/
theorem token_accepted_or_blamed (token : String) :
    (∀ g, Segments.ofToken token = g ↔ g.Parted ∧ g.text = token) ∧
    ((∃ a, parse token = .ok a) ↔ IsToken token) ∧
    (∀ a, parse token = .ok a →
      a.name.text = escaped (Segments.ofToken token).name ∧
      (Segments.ofToken token).filter = some a.filter.text ∧
      (a.isOptional = true ↔ (Segments.ofToken token).requirement = some "optional")) ∧
    (∀ e, parse token = .error e ↔ (Segments.ofToken token).Blame token e) ∧
    (∀ e, parse token = .error e → ∃ before after, e.message = before ++ token ++ after) ∧
    (∀ word, ∃ before, (Failure.unknownFilter token word).message = before ++
      ", must be one of: " ++
        "string, integer, model, hash, array, boolean, date, duck, input, symbol, time") ∧
    (∀ word, ∃ before, (Failure.unknownRequirement token word).message = before ++
      ", must be one of: " ++ "required, optional") := by
  have hfilters : Failure.listed Filter.names =
      "string, integer, model, hash, array, boolean, date, duck, input, symbol, time" := by decide
  have hrequirements : Failure.listed Requirement.names = "required, optional" := by decide
  refine ⟨fun g => Segments.ofToken_eq_iff, ?_, fun a h => ?_,
    fun e => parse_eq_error_iff, fun e h => (parse_eq_error_iff.mp h).message,
    fun word => ⟨"invalid filter type " ++ Failure.quoted word ++ " in " ++
      Failure.quoted token, ?_⟩,
    fun word => ⟨"invalid requirement " ++ Failure.quoted word ++ " in " ++
      Failure.quoted token, ?_⟩⟩
  · simp only [parse_eq_ok_iff]
    exact ⟨fun ⟨a, h⟩ => isToken_of_spell h, spell_of_isToken⟩
  · have h := parse_eq_ok_iff.mp h
    exact ⟨h.name, h.filter, h.isOptional_iff⟩
  · exact congrArg (_ ++ ·) hfilters
  · exact congrArg (_ ++ ·) hrequirements

theorem reserved_name_is_marked_and_third_colon_blamed :
    (∃ a, parse "type:date:" = .ok a ∧ a.name.text = "r#type" ∧ a.isOptional = false) ∧
      ∃ e, parse "count:integer:optional:x" = .error e ∧
        e = .unknownRequirement "count:integer:optional:x" "optional:x" ∧
        ∃ before after, e.message = before ++ "count:integer:optional:x" ++ after := by
  have haccepted : parse "type:date:" =
      .ok ⟨⟨"type", true, by decide⟩, .date, .required, by decide⟩ := by rfl
  have hblamed : parse "count:integer:optional:x" =
      .error (.unknownRequirement "count:integer:optional:x" "optional:x") := by rfl
  obtain ⟨hname, -, -⟩ := (token_accepted_or_blamed "type:date:").2.2.1 _ haccepted
  have hquoted := (token_accepted_or_blamed "count:integer:optional:x").2.2.2.2.1 _ hblamed
  exact ⟨⟨_, haccepted, hname.trans (by decide), rfl⟩, _, hblamed, rfl, hquoted⟩

end Attribute

end Stencil
