import Mathlib
import Stencil.TypeCase

/-! Type names of plain words: names of ASCII letters, digits and underscores. There the type name
is the name without its underscores, letter by letter, and whether a letter is a capital one hangs
on its neighbours alone. -/

namespace Stencil.TypeCase

open Text

/-! ### Single characters -/

section Characters

variable {c d : Char}

theorem isUpper_iff : c.isUpper = true ↔ 65 ≤ c.toNat ∧ c.toNat ≤ 90 := by
  simp [Char.isUpper, UInt32.le_iff_toNat_le, ← Char.toNat_val]

theorem isLower_iff : c.isLower = true ↔ 97 ≤ c.toNat ∧ c.toNat ≤ 122 := by
  simp [Char.isLower, UInt32.le_iff_toNat_le, ← Char.toNat_val]

theorem isDigit_iff : c.isDigit = true ↔ 48 ≤ c.toNat ∧ c.toNat ≤ 57 := by
  simp [Char.isDigit, UInt32.le_iff_toNat_le, ← Char.toNat_val]

theorem toUpper_eq_self_iff : c.toUpper = c ↔ c.isLower = false := by
  constructor
  · intro h
    rw [← h, Char.isLower_toUpper_eq_false]
  · intro h
    exact Char.toUpper_eq_of_not_isLower (by simp [h])

theorem toLower_eq_self_iff : c.toLower = c ↔ c.isUpper = false := by
  constructor
  · intro h
    rw [← h, Char.isUpper_toLower_eq_false]
  · intro h
    exact Char.toLower_eq_of_not_isUpper (by simp [h])

theorem toUpper_eq_toLower_iff : c.toUpper = c.toLower ↔ c.isAlpha = false := by
  constructor
  · intro h
    rw [← Char.isUpper_toUpper_eq_isAlpha, h, Char.isUpper_toLower_eq_false]
  · intro h
    have hcase : c.isUpper = false ∧ c.isLower = false := by simpa [Char.isAlpha] using h
    rw [toUpper_eq_self_iff.mpr hcase.2, toLower_eq_self_iff.mpr hcase.1]

/-- What the names of attributes are made of. -/
def isPlain (c : Char) : Bool :=
  c.isAlpha || c.isDigit || c == '_'

theorem isPlain_iff : isPlain c = true ↔ c.isAlpha = true ∨ c.isDigit = true ∨ c = '_' := by
  simp [isPlain, or_assoc]

theorem toNat_lt_of_isPlain (h : isPlain c = true) : c.toNat < 128 := by
  rcases isPlain_iff.mp h with halpha | hdigit | rfl
  · rw [Char.isAlpha, Bool.or_eq_true, isUpper_iff, isLower_iff] at halpha
    omega
  · rw [isDigit_iff] at hdigit
    omega
  · decide

theorem upper_singleton (h : c.toNat < 128) : upper [c] = [c.toUpper] := by
  rw [upper_of_ascii (by simpa using h)]
  rfl

theorem lower_singleton (h : c.toNat < 128) : lower [c] = [c.toLower] := by
  rw [lower_of_ascii (by simpa using h)]
  rfl

theorem isUpper_singleton (h : c.toNat < 128) : isUpper [c] = c.isUpper := by
  have hcased : isUpper [c] = true ↔ c.isAlpha = true ∧ c.isLower = false := by
    rw [isUpper, upper_singleton h, lower_singleton h]
    simp only [Bool.and_eq_true, bne_iff_ne, ne_eq, beq_iff_eq, List.cons.injEq, and_true,
      toUpper_eq_toLower_iff, Bool.not_eq_false, eq_comm (a := c), toUpper_eq_self_iff]
  rw [Bool.eq_iff_iff, hcased, Bool.eq_false_iff, Char.isAlpha, Bool.or_eq_true]
  constructor
  · exact fun hc => hc.1.resolve_right hc.2
  · exact fun hc => ⟨.inl hc, Char.not_isLower_of_isUpper hc⟩

theorem isLower_singleton (h : c.toNat < 128) : isLower [c] = c.isLower := by
  have hcased : isLower [c] = true ↔ c.isAlpha = true ∧ c.isUpper = false := by
    rw [isLower, upper_singleton h, lower_singleton h]
    simp only [Bool.and_eq_true, bne_iff_ne, ne_eq, beq_iff_eq, List.cons.injEq, and_true,
      toUpper_eq_toLower_iff, Bool.not_eq_false, eq_comm (a := c), toLower_eq_self_iff]
  rw [Bool.eq_iff_iff, hcased, Bool.eq_false_iff, Char.isAlpha, Bool.or_eq_true]
  constructor
  · exact fun hc => hc.1.resolve_left hc.2
  · exact fun hc => ⟨.inr hc, Char.not_isUpper_of_isLower hc⟩

theorem isDigit_singleton (c : Char) : isDigit [c] = c.isDigit := by
  simp [isDigit]

theorem isSeparator_singleton (h : isPlain c = true) : isSeparator [c] = true ↔ c = '_' := by
  have hhyphen : c ≠ '-' := by
    rintro rfl
    contradiction
  have hblank : c ≠ ' ' := by
    rintro rfl
    contradiction
  simp [isSeparator, hhyphen, hblank]

end Characters

/-! ### Letter by letter -/

/-- Whether a word ends between `a` and `b`, when `next` follows `b`. -/
def turns (a b : Char) (next : Option Char) : Bool :=
  (a.isLower && (b.isUpper || b.isDigit)) || (a.isDigit && (b.isUpper || b.isLower)) ||
    (a.isUpper && (b.isDigit || (b.isUpper && next.any Char.isLower)))

def turnsAfter (a : Char) : List Char → Bool
  | [] => false
  | b :: rest => turns a b rest.head?

/-- The letters of the type name. A word begins where the last one has ended. -/
def cased (begins : Bool) : List Char → List Char
  | [] => []
  | c :: rest =>
    if c = '_' then cased true rest
    else (if begins then c.toUpper else c.toLower) :: cased (turnsAfter c rest) rest

theorem endsAfter_of_plain {c : Char} {cs : List Char} (hc : isPlain c = true)
    (h : ∀ d ∈ cs, isPlain d = true) : endsAfter [c] (cs.map ([·])) = turnsAfter c cs := by
  have hascii := toNat_lt_of_isPlain hc
  cases cs with
  | nil => rfl
  | cons b rest =>
    rw [List.forall_mem_cons] at h
    have hb := toNat_lt_of_isPlain h.1
    have hnext : ((rest.map ([·])).head?).any isLower = rest.head?.any Char.isLower := by
      cases rest with
      | nil => rfl
      | cons d rest =>
        have hd := toNat_lt_of_isPlain (h.2 d List.mem_cons_self)
        exact isLower_singleton hd
    rw [List.map_cons, endsAfter, endsBetween, hnext, isUpper_singleton hascii,
      isLower_singleton hascii, isUpper_singleton hb, isLower_singleton hb, isDigit_singleton,
      isDigit_singleton]
    rfl

theorem capitalize_cons {c : Char} {cs : List Char} (hc : c.toNat < 128)
    (hcs : ∀ d ∈ cs, d.toNat < 128) : capitalize (c :: cs) = c.toUpper :: cs.map Char.toLower := by
  rw [capitalize, upperChar_of_ascii hc, List.singleton_append, lower_of_ascii hcs]

/-- What is still to come when the words of a name have been cut, both for a name that begins a word
and for one that goes on with a word. -/
theorem cased_eq_words {cs : List Char} (h : ∀ c ∈ cs, isPlain c = true) :
    ∃ w ws, (stretches (cs.map ([·]))).map List.flatten = w :: ws ∧ (∀ c ∈ w, c.toNat < 128) ∧
      cased true cs = (w :: ws).flatMap capitalize ∧
      cased false cs = w.map Char.toLower ++ ws.flatMap capitalize := by
  induction cs with
  | nil => exact ⟨[], [], rfl, nofun, rfl, rfl⟩
  | cons c rest ih =>
    rw [List.forall_mem_cons] at h
    obtain ⟨w, ws, hwords, hw, hbegun, hgoing⟩ := ih h.2
    have hc := toNat_lt_of_isPlain h.1
    have hends := endsAfter_of_plain h.1 h.2
    rw [List.map_cons, stretches, hends, cased, cased]
    by_cases hline : c = '_'
    · rw [if_pos ((isSeparator_singleton h.1).mpr hline), if_pos hline, if_pos hline]
      exact ⟨[], w :: ws, by rw [List.map_cons, hwords]; rfl, nofun, hbegun, hbegun⟩
    · rw [if_neg (mt (isSeparator_singleton h.1).mp hline), if_neg hline, if_neg hline]
      cases hturn : turnsAfter c rest with
      | true =>
        refine ⟨[c], w :: ws, ?_, by simpa using hc, ?_, ?_⟩
        · rw [if_pos rfl, List.map_cons, hwords]
          rfl
        · have hfirst : capitalize [c] = [c.toUpper] := capitalize_cons hc (by simp)
          show c.toUpper :: cased true rest = capitalize [c] ++ (w :: ws).flatMap capitalize
          rw [hfirst, hbegun]
          rfl
        · rw [hbegun]
          rfl
      | false =>
        refine ⟨c :: w, ws, ?_, List.forall_mem_cons.mpr ⟨hc, hw⟩, ?_, ?_⟩
        · cases hstretches : stretches (rest.map ([·])) with
          | nil => simp [hstretches] at hwords
          | cons s ss =>
            rw [hstretches, List.map_cons, List.cons.injEq] at hwords
            obtain ⟨rfl, rfl⟩ := hwords
            rfl
        · rw [hgoing, List.flatMap_cons, capitalize_cons hc hw]
          rfl
        · rw [hgoing]
          rfl

theorem flatMap_filter_nonempty (ws : List (List Char)) :
    (ws.filter (!·.isEmpty)).flatMap capitalize = ws.flatMap capitalize := by
  induction ws with
  | nil => rfl
  | cons w ws ih => cases w <;> simp [ih, capitalize]

theorem toList_pascalCase {name : String} (h : ∀ c ∈ name.toList, isPlain c = true) :
    (pascalCase name).toList = cased true name.toList := by
  have hclusters : clusters name.toList = name.toList.map ([·]) := by
    refine clusters_of_ascii fun c hc => ⟨toNat_lt_of_isPlain (h c hc), ?_⟩
    rintro rfl
    exact absurd (h _ hc) (by decide)
  obtain ⟨w, ws, hwords, -, hcased, -⟩ := cased_eq_words h
  rw [pascalCase, String.toList_ofList, words, hclusters, flatMap_filter_nonempty, hwords, hcased]

end Stencil.TypeCase
