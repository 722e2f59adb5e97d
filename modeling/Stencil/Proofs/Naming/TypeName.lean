import Stencil.Proofs.Naming.Words
import Stencil.Proofs.Planning.Target

/-! Which plain words give a type name that may stand as an identifier: those that begin with a
letter, underscores aside, and do not come to `Self`. -/

namespace Stencil

namespace TypeCase

variable {b : Bool} {c x : Char} {cs xs : List Char}

/-! ### The letters of a type name -/

theorem cased_line (b : Bool) (cs : List Char) : cased b ('_' :: cs) = cased true cs := by
  rw [cased, if_pos rfl]

theorem cased_cons (hc : c ≠ '_') (b : Bool) (cs : List Char) :
    cased b (c :: cs) =
      (if b then c.toUpper else c.toLower) :: cased (turnsAfter c cs) cs := by
  rw [cased, if_neg hc]

theorem isAlphanum_cased (h : ∀ c ∈ cs, isPlain c = true) (hx : x ∈ cased b cs) :
    x.isAlpha = true ∨ x.isDigit = true := by
  induction cs generalizing b with
  | nil => simp [cased] at hx
  | cons c rest ih =>
    rw [List.forall_mem_cons] at h
    by_cases hline : c = '_'
    · rw [hline, cased_line] at hx
      exact ih h.2 hx
    · rw [cased_cons hline, List.mem_cons] at hx
      rcases hx with rfl | hx
      · rcases isPlain_iff.mp h.1 with halpha | hdigit | heq
        · cases b <;> simp [halpha]
        · have hcase : c.isLower = false ∧ c.isUpper = false := by
            rw [isDigit_iff] at hdigit
            rw [Bool.eq_false_iff, Bool.eq_false_iff, ne_eq, ne_eq, isLower_iff, isUpper_iff]
            omega
          rw [toUpper_eq_self_iff.mpr hcase.1, toLower_eq_self_iff.mpr hcase.2]
          cases b <;> exact .inr hdigit
        · exact absurd heq hline
      · exact ih h.2 hx

theorem cased_eq_nil_iff : cased b cs = [] ↔ ∀ c ∈ cs, c = '_' := by
  induction cs generalizing b with
  | nil => simp [cased]
  | cons c rest ih =>
    by_cases hline : c = '_'
    · rw [hline, cased_line, ih]
      simp
    · simp [cased_cons hline, hline]

theorem cased_dropWhile (cs : List Char) :
    cased true (cs.dropWhile (· == '_')) = cased true cs := by
  induction cs with
  | nil => rfl
  | cons c rest ih =>
    by_cases hline : c = '_'
    · rw [hline, cased_line, ← ih]
      rfl
    · rw [List.dropWhile_cons_of_neg (by simpa using hline)]

theorem exists_of_cased_true (h : cased true cs = x :: xs) :
    ∃ c rest, cs.dropWhile (· == '_') = c :: rest ∧ c ≠ '_' ∧ c.toUpper = x ∧
      cased (turnsAfter c rest) rest = xs := by
  rw [← cased_dropWhile] at h
  cases hdrop : cs.dropWhile (· == '_') with
  | nil => simp [hdrop, cased] at h
  | cons c rest =>
    have hline : c ≠ '_' := by
      have hhead := List.head?_dropWhile_not (· == '_') cs
      simpa [hdrop] using hhead
    rw [hdrop, cased_cons hline, List.cons.injEq] at h
    exact ⟨c, rest, rfl, hline, h.1, h.2⟩

/-- A small letter goes on with a word. -/
theorem exists_of_cased_lower (h : cased b cs = x :: xs) (hx : x.isLower = true) :
    ∃ c rest, cs = c :: rest ∧ b = false ∧ c.toLower = x ∧ cased (turnsAfter c rest) rest = xs := by
  have hlarge : ∀ ds, cased true ds ≠ x :: xs := by
    intro ds hds
    obtain ⟨c, rest, -, -, rfl, -⟩ := exists_of_cased_true hds
    rw [Char.isLower_toUpper_eq_false] at hx
    contradiction
  cases cs with
  | nil => simp [cased] at h
  | cons c rest =>
    by_cases hline : c = '_'
    · rw [hline, cased_line] at h
      exact absurd h (hlarge rest)
    · cases b with
      | true => exact absurd h (hlarge _)
      | false =>
        rw [cased_cons hline, List.cons.injEq] at h
        exact ⟨c, rest, rfl, rfl, h.1, h.2⟩

theorem eq_or_eq_of_toLower (h : c.toLower = x) : c = x ∨ c = x.toUpper := by
  cases hupper : c.isUpper with
  | false => exact .inl (h ▸ (toLower_eq_self_iff.mpr hupper).symm)
  | true =>
    have hself : c.toUpper = c :=
      toUpper_eq_self_iff.mpr (by simpa using Char.not_isLower_of_isUpper hupper)
    exact .inr (by rw [← h, Char.toUpper_toLower_eq_toUpper, hself])

/-! ### `Self` -/

/-- A name without the underscores around it. -/
def core (cs : List Char) : List Char :=
  (cs.dropWhile (· == '_')).rdropWhile (· == '_')

/-- The spellings that come to `Self`. -/
def selves : List (List Char) :=
  [['s', 'e', 'l', 'f'], ['S', 'e', 'l', 'f'], ['S', 'E', 'L', 'F']]

theorem core_of_lines {word lines : List Char} (h : cs.dropWhile (· == '_') = word ++ lines)
    (hlines : ∀ c ∈ lines, c = '_') : core cs = word.rdropWhile (· == '_') := by
  rw [core, h]
  clear h
  induction lines using List.reverseRecOn with
  | nil => rw [List.append_nil]
  | append_singleton front last ih =>
    rw [← List.append_assoc,
      List.rdropWhile_concat_pos _ _ _ (by simpa using hlines last (by simp))]
    exact ih fun c hc => hlines c (List.mem_append_left _ hc)

theorem exists_lines (cs : List Char) :
    ∃ lines, cs.dropWhile (· == '_') = core cs ++ lines ∧ ∀ c ∈ lines, c = '_' := by
  refine ⟨(cs.dropWhile (· == '_')).rtakeWhile (· == '_'),
    (List.rdropWhile_append_rtakeWhile).symm, fun c hc => ?_⟩
  simpa using List.mem_rtakeWhile_imp hc

/-- Of the spellings in mixed case all but three are cut into more than one word. -/
theorem mem_selves_of_turns {a b c d : Char} {next : Option Char} (ha : a = 'S' ∨ a = 's')
    (hb : b = 'e' ∨ b = 'E') (hc : c = 'l' ∨ c = 'L') (hd : d = 'f' ∨ d = 'F')
    (hab : turns a b (some c) = false) (hbc : turns b c (some d) = false)
    (hcd : turns c d next = false) : [a, b, c, d] ∈ selves := by
  rcases ha with rfl | rfl <;> rcases hb with rfl | rfl <;> rcases hc with rfl | rfl <;>
    rcases hd with rfl | rfl <;> simp [turns, selves] at hab hbc hcd ⊢

theorem cased_eq_self_of_mem {word lines : List Char} (h : word ∈ selves)
    (hlines : ∀ c ∈ lines, c = '_') : cased true (word ++ lines) = ['S', 'e', 'l', 'f'] := by
  have hend : ∀ b, cased b lines = [] := fun b => cased_eq_nil_iff.mpr hlines
  -- the capital `F` goes on with its word, as no small letter follows
  have hnext : lines.head?.any Char.isLower = false := by
    cases lines with
    | nil => rfl
    | cons c rest => rw [hlines c List.mem_cons_self]; rfl
  simp only [selves, List.mem_cons, List.not_mem_nil, or_false] at h
  rcases h with rfl | rfl | rfl <;> simp [cased, turnsAfter, turns, hend, hnext]

theorem cased_eq_self_iff : cased true cs = ['S', 'e', 'l', 'f'] ↔ core cs ∈ selves := by
  constructor
  · intro h
    obtain ⟨a, as, hword, -, ha, has⟩ := exists_of_cased_true h
    obtain ⟨b, bs, rfl, hab, hb, hbs⟩ := exists_of_cased_lower has (by decide)
    obtain ⟨c, cs', rfl, hbc, hc, hcs⟩ := exists_of_cased_lower hbs (by decide)
    obtain ⟨d, lines, rfl, hcd, hd, hlines⟩ := exists_of_cased_lower hcs (by decide)
    have ha : a = 'S' ∨ a = 's' := by
      have hlower : a.toLower = 's' := by
        rw [← Char.toLower_toUpper_eq_toLower, ha]
        rfl
      exact (eq_or_eq_of_toLower hlower).symm
    have hmem := mem_selves_of_turns ha (eq_or_eq_of_toLower hb) (eq_or_eq_of_toLower hc)
      (eq_or_eq_of_toLower hd) hab hbc hcd
    have hword : cs.dropWhile (· == '_') = [a, b, c, d] ++ lines := hword
    rw [core_of_lines hword (cased_eq_nil_iff.mp hlines), List.rdropWhile_eq_self_iff.mpr]
    · exact hmem
    · intro hne
      rcases eq_or_eq_of_toLower hd with rfl | rfl <;> simp
  · intro h
    obtain ⟨lines, hword, hlines⟩ := exists_lines cs
    rw [← cased_dropWhile, hword]
    exact cased_eq_self_of_mem h hlines

theorem find?_not_line (cs : List Char) :
    cs.find? (· != '_') = (cs.dropWhile (· == '_')).head? := by
  rw [List.find?_eq_head?_dropWhile_not]
  congr 2
  funext c
  exact Bool.not_not (c == '_')

theorem head?_cased (cs : List Char) :
    (cased true cs).head? = (cs.find? (· != '_')).map Char.toUpper := by
  rw [find?_not_line]
  cases hcased : cased true cs with
  | nil =>
    rw [← cased_dropWhile] at hcased
    cases hdrop : cs.dropWhile (· == '_') with
    | nil => rfl
    | cons c rest =>
      have hall := cased_eq_nil_iff.mp hcased c (by simp [hdrop])
      have hhead := List.head?_dropWhile_not (· == '_') cs
      simp [hdrop, hall] at hhead
  | cons x xs =>
    obtain ⟨c, rest, hdrop, -, hupper, -⟩ := exists_of_cased_true hcased
    rw [hdrop, List.head?_cons, List.head?_cons, Option.map_some, hupper]

end TypeCase

/-! ### Identifiers -/

theorem eq_self_of_mem_keywords :
    ∀ word ∈ keywords, word.toList.head?.any Char.isLower = false → word = "Self" := by
  decide

theorem self_mem_keywords : "Self" ∈ keywords := by
  decide

namespace Identifier

variable {word : String}

theorem exists_text_iff (h : '#' ∉ word.toList) :
    (∃ i : Identifier, i.text = word) ↔
      isWord word.toList = true ∧ word ≠ "_" ∧ word ∉ keywords := by
  rw [← spellable_plain_iff]
  constructor
  · rintro ⟨i, rfl⟩
    have hraw : i.raw = false := by
      rw [Bool.eq_false_iff]
      intro hraw
      simp [text, hraw, String.toList_append] at h
    have hspellable := i.spellable
    rwa [hraw, ← show i.text = i.plain by rw [text, hraw, if_neg Bool.false_ne_true]] at hspellable
  · intro hspellable
    exact ⟨⟨word, false, hspellable⟩, if_neg Bool.false_ne_true⟩

end Identifier

theorem continuesIdentifier_of_alphanum {c : Char} (h : c.isAlpha = true ∨ c.isDigit = true) :
    continuesIdentifier c = true := by
  rcases h with h | h <;> simp [continuesIdentifier, startsIdentifier, h]

theorem isAlpha_eq_false_of_isDigit {c : Char} (h : c.isDigit = true) : c.isAlpha = false := by
  rw [Bool.eq_false_iff]
  intro halpha
  rw [TypeCase.isDigit_iff] at h
  have hafter := le_toNat_of_isAlpha halpha
  omega

theorem isWord_alphanum_iff {cs : List Char} (h : ∀ c ∈ cs, c.isAlpha = true ∨ c.isDigit = true) :
    isWord cs = true ↔ cs.head?.any Char.isAlpha = true := by
  cases cs with
  | nil => simp [isWord]
  | cons c rest =>
    rw [List.forall_mem_cons] at h
    have hrest : rest.all continuesIdentifier = true :=
      List.all_eq_true.mpr fun d hd => continuesIdentifier_of_alphanum (h.2 d hd)
    rw [isWord, hrest, Bool.and_true, List.head?_cons, Option.any_some]
    rcases h.1 with halpha | hdigit
    · simp [startsIdentifier, halpha]
    · rw [not_startsIdentifier_of_isDigit hdigit, isAlpha_eq_false_of_isDigit hdigit]

section PascalCase

open TypeCase

variable {name : String}

theorem isPlain_of_isAscii {i : Identifier} (h : isAscii i.plain = true) :
    ∀ c ∈ i.plain.toList, isPlain c = true := by
  intro c hc
  have hascii : c.toNat < 128 := of_decide_eq_true (List.all_eq_true.mp h c hc)
  have hfollows : continuesIdentifier c = true := Identifier.continues_of_mem hc
  simpa [continuesIdentifier, startsIdentifier, Text.inTable_of_ascii _ hascii, isPlain,
    Bool.or_right_comm] using hfollows

theorem isAlphanum_pascalCase (h : ∀ c ∈ name.toList, isPlain c = true) :
    ∀ c ∈ (pascalCase name).toList, c.isAlpha = true ∨ c.isDigit = true := by
  rw [toList_pascalCase h]
  exact fun c hc => isAlphanum_cased h hc

theorem head?_pascalCase (h : ∀ c ∈ name.toList, isPlain c = true) :
    (pascalCase name).toList.head? = (name.toList.find? (· != '_')).map Char.toUpper := by
  rw [toList_pascalCase h, head?_cased]

theorem isAlpha_head?_pascalCase (h : ∀ c ∈ name.toList, isPlain c = true) :
    (pascalCase name).toList.head?.any Char.isAlpha =
      (name.toList.find? (· != '_')).any Char.isAlpha := by
  rw [head?_pascalCase h]
  cases name.toList.find? (· != '_') <;> simp

theorem pascalCase_eq_self_iff (h : ∀ c ∈ name.toList, isPlain c = true) :
    pascalCase name = "Self" ↔ core name.toList ∈ selves := by
  rw [← cased_eq_self_iff, ← toList_pascalCase h]
  constructor
  · intro hself
    rw [hself]
    rfl
  · exact fun hletters => String.toList_injective hletters

/-- Only a leading digit, or nothing at all, and one reserved word are in the way. -/
theorem exists_identifier_iff (h : ∀ c ∈ name.toList, isPlain c = true) :
    (∃ i : Identifier, i.text = pascalCase name) ↔
      (name.toList.find? (· != '_')).any Char.isAlpha = true ∧ pascalCase name ≠ "Self" := by
  have halphanum := isAlphanum_pascalCase h
  have hhead := head?_pascalCase h
  have hmark : '#' ∉ (pascalCase name).toList := fun hmem => absurd (halphanum _ hmem) (by decide)
  have hline : pascalCase name ≠ "_" := by
    intro hline
    exact absurd (halphanum '_' (by simp [hline])) (by decide)
  have hsmall : (pascalCase name).toList.head?.any Char.isLower = false := by
    rw [hhead]
    cases name.toList.find? (· != '_') <;> simp
  have hkeyword : pascalCase name ∈ keywords ↔ pascalCase name = "Self" :=
    ⟨fun hmem => eq_self_of_mem_keywords _ hmem hsmall, fun hself => hself ▸ self_mem_keywords⟩
  rw [Identifier.exists_text_iff hmark, isWord_alphanum_iff halphanum,
    isAlpha_head?_pascalCase h, hkeyword]
  exact and_congr_right fun _ => and_iff_right hline

theorem not_identifier_iff (h : ∀ c ∈ name.toList, isPlain c = true) :
    (¬ ∃ i : Identifier, i.text = pascalCase name) ↔
      pascalCase name = "" ∨ (pascalCase name).toList.head?.any Char.isDigit = true ∨
        pascalCase name = "Self" := by
  have hfirst : ¬ (pascalCase name).toList.head?.any Char.isAlpha = true ↔
      pascalCase name = "" ∨ (pascalCase name).toList.head?.any Char.isDigit = true := by
    rw [← String.toList_eq_nil_iff]
    cases hlist : (pascalCase name).toList with
    | nil => simp
    | cons c rest =>
      rcases isAlphanum_pascalCase h c (by simp [hlist]) with halpha | hdigit
      · have hdigit : c.isDigit = false := by
          rw [Bool.eq_false_iff]
          intro hdigit
          rw [isAlpha_eq_false_of_isDigit hdigit] at halpha
          exact Bool.false_ne_true halpha
        simp [halpha, hdigit]
      · simp [isAlpha_eq_false_of_isDigit hdigit, hdigit]
  rw [exists_identifier_iff h, ← isAlpha_head?_pascalCase h, not_and_or, hfirst, not_not, or_assoc]

end PascalCase

end Stencil
