import Stencil.Definition.Attribute

/-! Words that may stand for the name of an attribute. Each names one identifier, which is written
as the word is, or with the raw mark in front if the word is reserved. -/

namespace Stencil

/-! ### Identifiers as they are written -/

theorem isWord_of_mem_keywords : ∀ word ∈ keywords, isWord word.toList = true := by
  decide

theorem spellable_raw_iff {word : String} :
    spellable true word = true ↔ isWord word.toList = true ∧ word ∉ unescapable := by
  simp [spellable]

theorem spellable_plain_iff {word : String} :
    spellable false word = true ↔ isWord word.toList = true ∧ word ≠ "_" ∧ word ∉ keywords := by
  simp [spellable]

namespace Identifier

variable {i j : Identifier} {word : String}

theorem text_injective (h : i.text = j.text) : i = j := by
  have hi := ofText?_text i
  rw [h, ofText?_text] at hi
  exact (Option.some.inj hi).symm

theorem ofText?_eq_none_iff : ofText? word = none ↔ ∀ i : Identifier, i.text ≠ word := by
  rw [Option.eq_none_iff_forall_ne_some]
  simp only [ne_eq, ofText?_eq_some_iff]
  exact forall_congr' fun i => not_congr eq_comm

theorem ofText?_raw (word : String) : ofText? ("r#" ++ word) = make? true word := by
  have hlist : ("r#" ++ word).toList = 'r' :: '#' :: word.toList := by
    simp [String.toList_append]
  rw [ofText?, hlist]
  simp

theorem text_eq_raw_iff : i.text = "r#" ++ word ↔ i.raw = true ∧ i.plain = word := by
  rw [eq_comm, ← ofText?_eq_some_iff, ofText?_raw, make?_eq_some_iff]

theorem raw_not_mem_keywords (word : String) : "r#" ++ word ∉ keywords := by
  intro hmem
  have hword := isWord_of_mem_keywords _ hmem
  simp [String.toList_append, not_isWord_raw] at hword

theorem text_not_mem_keywords (i : Identifier) : i.text ∉ keywords := by
  intro hmem
  have hspellable := i.spellable
  cases hraw : i.raw with
  | true =>
    rw [text_eq_raw_iff.mpr ⟨hraw, rfl⟩] at hmem
    exact raw_not_mem_keywords _ hmem
  | false =>
    rw [hraw, spellable_plain_iff] at hspellable
    rw [text, hraw, if_neg Bool.false_ne_true] at hmem
    exact hspellable.2.2 hmem

theorem text_ne_empty (i : Identifier) : i.text ≠ "" := by
  intro h
  have hword := i.isWord_plain
  unfold text at h
  split at h
  · have hlist := congrArg String.toList h
    simp [String.toList_append] at hlist
  · rw [h] at hword
    contradiction

theorem isAscii_text (i : Identifier) : isAscii i.text = isAscii i.plain := by
  unfold text
  split
  · simp [isAscii, String.toList_append]
  · rfl

theorem continues_of_mem {c : Char} (h : c ∈ i.plain.toList) : continuesIdentifier c = true := by
  have hword := i.isWord_plain
  cases hlist : i.plain.toList with
  | nil => simp [hlist] at h
  | cons d ds =>
    rw [hlist, isWord, Bool.and_eq_true] at hword
    rcases List.mem_cons.mp (hlist ▸ h) with rfl | hrest
    · rw [continuesIdentifier, hword.1, Bool.true_or, Bool.true_or]
    · exact List.all_eq_true.mp hword.2 c hrest

theorem not_mem_plain (i : Identifier) {c : Char} (h : continuesIdentifier c = false) :
    c ∉ i.plain.toList := by
  intro hmem
  rw [continues_of_mem hmem] at h
  contradiction

theorem not_mem_text (i : Identifier) {c : Char} (h : continuesIdentifier c = false)
    (hmark : c ≠ '#') : c ∉ i.text.toList := by
  have hplain := i.not_mem_plain h
  have hr : c ≠ 'r' := by
    rintro rfl
    contradiction
  unfold text
  split
  · simpa [String.toList_append, hr, hmark] using hplain
  · exact hplain

theorem not_colon_mem_text (i : Identifier) : ':' ∉ i.text.toList :=
  i.not_mem_text (by decide) (by decide)

end Identifier

/-! ### Words for names -/

namespace Attribute

/-- An identifier as it is written, or a reserved word that the raw mark sets free; all in ASCII. -/
def IsName (word : String) : Prop :=
  isAscii word = true ∧
    ((∃ i : Identifier, i.text = word) ∨ word ∈ keywords ∧ word ∉ unescapable)

/-- A word with the raw mark in front if it is reserved. -/
def escaped (word : String) : String :=
  if word ∈ keywords then "r#" ++ word else word

theorem escaped_of_mem {word : String} (h : word ∈ keywords) : escaped word = "r#" ++ word :=
  if_pos h

theorem escaped_of_not_mem {word : String} (h : word ∉ keywords) : escaped word = word :=
  if_neg h

/-- Words come to the same with the mark where they are the same, or one is the other marked. -/
theorem escaped_eq_escaped_iff {v w : String} : escaped v = escaped w ↔
    v = w ∨ v ∈ keywords ∧ w = "r#" ++ v ∨ w ∈ keywords ∧ v = "r#" ++ w := by
  constructor
  · intro h
    by_cases hv : v ∈ keywords <;> by_cases hw : w ∈ keywords
    · rw [escaped_of_mem hv, escaped_of_mem hw, String.append_right_inj] at h
      exact .inl h
    · rw [escaped_of_mem hv, escaped_of_not_mem hw] at h
      exact .inr (.inl ⟨hv, h.symm⟩)
    · rw [escaped_of_not_mem hv, escaped_of_mem hw] at h
      exact .inr (.inr ⟨hw, h⟩)
    · rw [escaped_of_not_mem hv, escaped_of_not_mem hw] at h
      exact .inl h
  · rintro (rfl | ⟨hv, rfl⟩ | ⟨hw, rfl⟩)
    · rfl
    · rw [escaped_of_mem hv, escaped_of_not_mem (Identifier.raw_not_mem_keywords v)]
    · rw [escaped_of_mem hw, escaped_of_not_mem (Identifier.raw_not_mem_keywords w)]

theorem ofText?_or_make?_eq_some_iff {word : String} {i : Identifier} :
    (Identifier.ofText? word).or (Identifier.make? true word) = some i ↔ i.text = escaped word := by
  by_cases hmem : word ∈ keywords
  · have hnone : Identifier.ofText? word = none := by
      rw [Option.eq_none_iff_forall_ne_some]
      intro j hj
      exact j.text_not_mem_keywords (Identifier.eq_text_of_ofText? hj ▸ hmem)
    rw [hnone, Option.none_or, escaped_of_mem hmem, Identifier.make?_eq_some_iff,
      Identifier.text_eq_raw_iff]
  · rw [escaped_of_not_mem hmem, eq_comm (a := i.text), ← Identifier.ofText?_eq_some_iff]
    cases hplain : Identifier.ofText? word with
    | some j => rfl
    | none =>
      -- a word free of the raw mark and not reserved needs no mark to be an identifier
      suffices hraw : Identifier.make? true word = none by simp [hraw]
      rw [Option.eq_none_iff_forall_ne_some]
      intro j hj
      obtain ⟨hraw, rfl⟩ := Identifier.make?_eq_some_iff.mp hj
      obtain ⟨hword, hfree⟩ := spellable_raw_iff.mp (hraw ▸ j.spellable)
      have hunderscore : j.plain ≠ "_" := fun h => hfree (h ▸ List.mem_cons_self)
      let i : Identifier := ⟨j.plain, false, spellable_plain_iff.mpr ⟨hword, hunderscore, hmem⟩⟩
      have hi : Identifier.ofText? j.plain = some i := i.ofText?_text
      rw [hplain] at hi
      contradiction

theorem isName_iff {word : String} :
    IsName word ↔ isAscii word = true ∧ ∃ i : Identifier, i.text = escaped word := by
  refine and_congr_right fun _ => ?_
  by_cases hmem : word ∈ keywords
  · rw [escaped_of_mem hmem]
    constructor
    · rintro (⟨i, rfl⟩ | ⟨-, hfree⟩)
      · exact absurd hmem i.text_not_mem_keywords
      · have hspellable := spellable_raw_iff.mpr ⟨isWord_of_mem_keywords word hmem, hfree⟩
        exact ⟨⟨word, true, hspellable⟩, Identifier.text_eq_raw_iff.mpr ⟨rfl, rfl⟩⟩
    · rintro ⟨i, hi⟩
      obtain ⟨hraw, rfl⟩ := Identifier.text_eq_raw_iff.mp hi
      exact .inr ⟨hmem, (spellable_raw_iff.mp (hraw ▸ i.spellable)).2⟩
  · rw [escaped_of_not_mem hmem]
    exact ⟨fun h => h.resolve_right fun h => hmem h.1, .inl⟩

theorem not_colon_of_isName {word : String} (h : IsName word) : ':' ∉ word.toList := by
  obtain ⟨-, i, hi⟩ := isName_iff.mp h
  have hcolon := i.not_colon_mem_text
  rw [hi, escaped] at hcolon
  split at hcolon
  · exact fun hmem => hcolon (by simp [String.toList_append, hmem])
  · exact hcolon

theorem ne_empty_of_isName {word : String} (h : IsName word) : word ≠ "" := by
  rintro rfl
  rcases h.2 with ⟨i, hi⟩ | ⟨hmem, -⟩
  · exact i.text_ne_empty hi
  · exact absurd hmem (by decide)

theorem isAscii_escaped (word : String) : isAscii (escaped word) = isAscii word := by
  unfold escaped
  split
  · simp [isAscii, String.toList_append]
  · rfl

theorem isAscii_plain_of_text {word : String} {i : Identifier} (h : i.text = escaped word) :
    isAscii i.plain = isAscii word := by
  rw [← i.isAscii_text, h, isAscii_escaped]

theorem nameOf?_eq_some_iff {word : String} {n : { i : Identifier // isAscii i.plain = true }} :
    nameOf? word = some n ↔ n.1.text = escaped word := by
  rw [← ofText?_or_make?_eq_some_iff, nameOf?]
  cases (Identifier.ofText? word).or (Identifier.make? true word) with
  | none => simp
  | some i =>
    simp only [Option.some.injEq]
    by_cases hascii : isAscii i.plain = true
    · rw [dif_pos hascii, Option.some.injEq, Subtype.ext_iff]
    · rw [dif_neg hascii]
      refine ⟨nofun, fun h => absurd (h ▸ n.2) hascii⟩

theorem nameOf?_eq_none_iff {word : String} : nameOf? word = none ↔ ¬ IsName word := by
  rw [isName_iff, Option.eq_none_iff_forall_ne_some]
  constructor
  · rintro h ⟨hascii, i, hi⟩
    exact h ⟨i, (isAscii_plain_of_text hi).trans hascii⟩ (nameOf?_eq_some_iff.mpr hi)
  · rintro h ⟨i, hplain⟩ hi
    have htext := nameOf?_eq_some_iff.mp hi
    exact h ⟨(isAscii_plain_of_text htext).symm.trans hplain, i, htext⟩

end Attribute

end Stencil
