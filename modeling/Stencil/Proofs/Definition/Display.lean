import Stencil.Proofs.Definition.Grammar

/-! The token that an attribute is shown as. It reads back as the attribute, so that attributes are
equal exactly when they are shown alike; it leaves out what goes without saying, and it marks
reserved names. -/

namespace Stencil.Attribute

variable {a b : Attribute} {token : String}

theorem eq_of_parts (hname : a.name.text = b.name.text) (hfilter : a.filter.text = b.filter.text)
    (hoptional : a.isOptional = true ↔ b.isOptional = true) : a = b := by
  have hn : a.name = b.name := Identifier.text_injective hname
  have hf : a.filter = b.filter := by
    have hread := Filter.ofText?_text a.filter
    rw [hfilter, Filter.ofText?_text] at hread
    exact (Option.some.inj hread).symm
  have hr : a.requirement = b.requirement := by
    cases ha : a.requirement <;> cases hb : b.requirement <;>
      simp_all [isOptional, Requirement.isOptional]
  cases a
  cases b
  simp_all

/-! ### The segments of the token shown -/

/-- The segments that tell an attribute. They tell of the requirement if it is not the usual one. -/
def shown (a : Attribute) : Segments :=
  ⟨a.name.text, some a.filter.text, if a.isOptional then some "optional" else none⟩

theorem text_shown (a : Attribute) : a.shown.text = a.display := by
  unfold shown display
  cases hr : a.requirement with
  | required => simp [isOptional, hr, Requirement.isOptional, Segments.text]
  | optional =>
    simp [isOptional, hr, Requirement.isOptional, Requirement.text, Segments.text,
      String.append_assoc]

theorem ofToken_display (a : Attribute) : Segments.ofToken a.display = a.shown := by
  rw [← text_shown]
  exact Segments.ofToken_text (Segments.parted_mk a.name.not_colon_mem_text a.filter _)

theorem spell_shown (a : Attribute) : a.shown.Spell a where
  name := (escaped_of_not_mem a.name.text_not_mem_keywords).symm
  filter := rfl
  requirement := by
    unfold shown
    cases hr : a.requirement with
    | required => simp [isOptional, hr, Requirement.isOptional, Requirement.segments]
    | optional => simp [isOptional, hr, Requirement.isOptional, Requirement.segments]

theorem parse_display (a : Attribute) : parse a.display = .ok a := by
  rw [parse_eq_ok_iff, ofToken_display]
  exact a.spell_shown

theorem display_eq_display_iff : a.display = b.display ↔ a = b := by
  refine ⟨fun h => ?_, fun h => h ▸ rfl⟩
  have hread := a.parse_display
  rw [h, parse_display] at hread
  exact (Except.ok.inj hread).symm

/-! ### Tokens of equal attributes -/

theorem requirement_of_spell {g : Segments} (h : g.Spell a)
    (hexplicit : g.requirement ≠ some "required") (hempty : g.requirement ≠ some "") :
    g.requirement = if a.isOptional then some "optional" else none := by
  have hrequirement := h.requirement
  cases hr : a.requirement with
  | required =>
    have hnone : g.requirement = none := by
      simpa [hr, Requirement.segments, hexplicit, hempty] using hrequirement
    simp [hnone, isOptional, hr, Requirement.isOptional]
  | optional =>
    have hsome : g.requirement = some "optional" := by
      simpa [hr, Requirement.segments] using hrequirement
    simp [hsome, isOptional, hr, Requirement.isOptional]

/-- A token is the one shown where it says nothing that goes without saying and marks what must be
marked. -/
theorem display_eq_token_iff (h : parse token = .ok a) : a.display = token ↔
    (Segments.ofToken token).requirement ≠ some "required" ∧
      (Segments.ofToken token).requirement ≠ some "" ∧
      (Segments.ofToken token).name ∉ keywords := by
  have hspell := parse_eq_ok_iff.mp h
  constructor
  · rintro rfl
    rw [ofToken_display]
    refine ⟨?_, ?_, a.name.text_not_mem_keywords⟩
    · rw [shown]
      split <;> simp
    · rw [shown]
      split <;> simp
  · rintro ⟨hexplicit, hempty, hfree⟩
    have hname : a.name.text = (Segments.ofToken token).name := by
      rw [hspell.name, escaped_of_not_mem hfree]
    rw [← text_shown, shown, hname, ← hspell.filter, ← requirement_of_spell hspell hexplicit hempty]
    exact Segments.text_ofToken token

theorem eq_iff_of_parse {t u : String} (ht : parse t = .ok a) (hu : parse u = .ok b) : a = b ↔
    (Segments.ofToken t).filter = (Segments.ofToken u).filter ∧
      ((Segments.ofToken t).requirement = some "optional" ↔
        (Segments.ofToken u).requirement = some "optional") ∧
      escaped (Segments.ofToken t).name = escaped (Segments.ofToken u).name := by
  have ht := parse_eq_ok_iff.mp ht
  have hu := parse_eq_ok_iff.mp hu
  rw [ht.filter, hu.filter, ← ht.isOptional_iff, ← hu.isOptional_iff, ← ht.name, ← hu.name,
    Option.some.injEq]
  constructor
  · rintro rfl
    exact ⟨rfl, Iff.rfl, rfl⟩
  · rintro ⟨hfilter, hoptional, hname⟩
    exact eq_of_parts hname hfilter hoptional

/-- What an attribute is shown as is a canonical token for it. -/
theorem display_is_canonical {t u : String} (ht : parse t = .ok a) (hu : parse u = .ok b) :
    parse a.display = .ok a ∧
    (a = b ↔ a.display = b.display) ∧
    (a.display = t ↔ (Segments.ofToken t).requirement ≠ some "required" ∧
      (Segments.ofToken t).requirement ≠ some "" ∧ (Segments.ofToken t).name ∉ keywords) ∧
    (a = b ↔ (Segments.ofToken t).filter = (Segments.ofToken u).filter ∧
      ((Segments.ofToken t).requirement = some "optional" ↔
        (Segments.ofToken u).requirement = some "optional") ∧
      ((Segments.ofToken t).name = (Segments.ofToken u).name ∨
        (Segments.ofToken t).name ∈ keywords ∧
          (Segments.ofToken u).name = "r#" ++ (Segments.ofToken t).name ∨
        (Segments.ofToken u).name ∈ keywords ∧
          (Segments.ofToken t).name = "r#" ++ (Segments.ofToken u).name)) := by
  refine ⟨a.parse_display, display_eq_display_iff.symm, display_eq_token_iff ht, ?_⟩
  rw [eq_iff_of_parse ht hu, escaped_eq_escaped_iff]

theorem reserved_name_is_shown_marked :
    ∃ a b, parse "type:string:" = .ok a ∧ parse "r#type:string:required" = .ok b ∧
      a = b ∧ a.display ≠ "type:string:" := by
  have ht : parse "type:string:" =
      .ok ⟨⟨"type", true, by decide⟩, .string, .required, by decide⟩ := by rfl
  have hu : parse "r#type:string:required" =
      .ok ⟨⟨"type", true, by decide⟩, .string, .required, by decide⟩ := by rfl
  obtain ⟨-, -, hcanonical, hequal⟩ := display_is_canonical ht hu
  refine ⟨_, _, ht, hu, hequal.mpr (by decide), fun h => ?_⟩
  exact (hcanonical.mp h).2.1 (by decide)

end Stencil.Attribute
