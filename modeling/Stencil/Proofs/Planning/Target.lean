import Stencil.Plan
import Stencil.Proofs.Definition.Name
import Stencil.Proofs.Text.Lines

/-! Targets. They are the names in snake case that are identifiers as they stand. -/

namespace Stencil

/-- A name in snake case that may stand as it is. -/
structure IsSnakeName (name : String) : Prop where
  nonempty : name ≠ ""
  chars : ∀ c ∈ name.toList, c.isLower = true ∨ c.isDigit = true ∨ c = '_'
  first : ∀ c, name.toList.head? = some c → c.isDigit = false
  not_underscore : name ≠ "_"
  not_keyword : name ∉ keywords

theorem isSnakeChar_iff {c : Char} :
    isSnakeChar c = true ↔ c.isLower = true ∨ c.isDigit = true ∨ c = '_' := by
  simp [isSnakeChar, or_assoc]

theorem isAlpha_iff {c : Char} : c.isAlpha = true ↔ c.isUpper = true ∨ c.isLower = true :=
  Bool.or_eq_true_iff

/-- Letters come after the digits. -/
theorem le_toNat_of_isAlpha {c : Char} (h : c.isAlpha = true) : 65 ≤ c.toNat := by
  rcases isAlpha_iff.mp h with hupper | hlower
  · obtain ⟨hfirst, -⟩ : 'A'.val ≤ c.val ∧ c.val ≤ 'Z'.val := of_decide_eq_true hupper
    exact UInt32.le_iff_toNat_le.mp hfirst
  · have hfirst : 'a'.val ≤ c.val := of_decide_eq_true (Bool.and_eq_true_iff.mp hlower).1
    have hafter : 97 ≤ c.toNat := UInt32.le_iff_toNat_le.mp hfirst
    omega

theorem not_startsIdentifier_of_isDigit {c : Char} (h : c.isDigit = true) :
    startsIdentifier c = false := by
  have hrange : 48 ≤ c.toNat ∧ c.toNat ≤ 57 := by
    simpa [Char.isDigit, UInt32.le_iff_toNat_le] using h
  have halpha : c.isAlpha = false := by
    rw [Bool.eq_false_iff]
    intro hletter
    have hafter := le_toNat_of_isAlpha hletter
    omega
  have hunderscore : (c == '_') = false := by
    rw [beq_eq_false_iff_ne]
    rintro rfl
    contradiction
  have hascii : c.toNat < 128 := by omega
  rw [startsIdentifier, halpha, hunderscore, Text.inTable_of_ascii _ hascii]
  rfl

theorem startsIdentifier_of_snake {c : Char} (h : isSnakeChar c = true)
    (hdigit : c.isDigit = false) : startsIdentifier c = true := by
  rcases isSnakeChar_iff.mp h with hlower | hdigit' | rfl
  · rw [startsIdentifier, isAlpha_iff.mpr (.inr hlower)]
    rfl
  · rw [hdigit] at hdigit'
    contradiction
  · rfl

theorem continuesIdentifier_of_snake {c : Char} (h : isSnakeChar c = true) :
    continuesIdentifier c = true := by
  cases hdigit : c.isDigit with
  | true => simp [continuesIdentifier, hdigit]
  | false => simp [continuesIdentifier, startsIdentifier_of_snake h hdigit]

theorem isSnakeName_of_isTarget {name : String} (h : isTarget name = true) : IsSnakeName name := by
  rw [isTarget, Bool.and_eq_true, Option.isSome_iff_exists] at h
  obtain ⟨hchars, i, hi⟩ := h
  have hchars := List.all_eq_true.mp hchars
  obtain rfl := Identifier.eq_text_of_ofText? hi
  -- the raw mark is not in snake case
  have hraw : i.raw = false := by
    cases hraw : i.raw with
    | false => rfl
    | true =>
      have hmark := hchars '#' (by simp [Identifier.text, hraw, String.toList_append])
      contradiction
  have htext : i.text = i.plain := by rw [Identifier.text, hraw, if_neg Bool.false_ne_true]
  have hspellable := i.spellable
  rw [hraw, spellable_plain_iff, ← htext] at hspellable
  obtain ⟨hword, hunderscore, hkeyword⟩ := hspellable
  refine ⟨i.text_ne_empty, fun c hc => isSnakeChar_iff.mp (hchars c hc), fun c hc => ?_,
    hunderscore, hkeyword⟩
  obtain ⟨cs, hlist⟩ := List.head?_eq_some_iff.mp hc
  rw [hlist, isWord, Bool.and_eq_true] at hword
  rw [Bool.eq_false_iff]
  intro hdigit
  rw [not_startsIdentifier_of_isDigit hdigit] at hword
  exact absurd hword.1 Bool.false_ne_true

theorem isTarget_of_isSnakeName {name : String} (h : IsSnakeName name) : isTarget name = true := by
  have hchars : ∀ c ∈ name.toList, isSnakeChar c = true :=
    fun c hc => isSnakeChar_iff.mpr (h.chars c hc)
  obtain ⟨c, cs, hlist⟩ := List.exists_cons_of_ne_nil (mt String.toList_eq_nil_iff.mp h.nonempty)
  have hword : isWord name.toList = true := by
    rw [hlist, isWord, Bool.and_eq_true, List.all_eq_true]
    rw [hlist, List.forall_mem_cons] at hchars
    exact ⟨startsIdentifier_of_snake hchars.1 (h.first c (by rw [hlist]; rfl)),
      fun d hd => continuesIdentifier_of_snake (hchars.2 d hd)⟩
  let i : Identifier :=
    ⟨name, false, spellable_plain_iff.mpr ⟨hword, h.not_underscore, h.not_keyword⟩⟩
  have hi : Identifier.ofText? name = some i := i.ofText?_text
  rw [isTarget, hi, List.all_eq_true.mpr hchars]
  rfl

theorem isTarget_iff {name : String} : isTarget name = true ↔ IsSnakeName name :=
  ⟨isSnakeName_of_isTarget, isTarget_of_isSnakeName⟩

theorem IsSnakeName.oneLine {name : String} (h : IsSnakeName name) : Text.OneLine name := by
  intro hmem
  exact absurd (h.chars _ hmem) (by decide)

theorem oneLine_of_isTarget {name : String} (h : isTarget name = true) : Text.OneLine name :=
  (isTarget_iff.mp h).oneLine

end Stencil
