import Stencil.Text.IdentifierTable

/-! Identifiers of the code that is written: a word that is not reserved, or a raw spelling
`r#word` that sets even most reserved words free. -/

namespace Stencil

open Text

/-- Words with a meaning of their own; they name something only in raw spelling. -/
def keywords : List String :=
  ["abstract", "as", "async", "await", "become", "box", "break", "const", "continue", "crate",
   "do", "dyn", "else", "enum", "extern", "false", "final", "fn", "for", "if", "impl", "in", "let",
   "loop", "macro", "match", "mod", "move", "mut", "override", "priv", "pub", "ref", "return",
   "Self", "self", "static", "struct", "super", "trait", "true", "try", "type", "typeof", "unsafe",
   "unsized", "use", "virtual", "where", "while", "yield"]

/-- Words that even the raw spelling does not set free. -/
def unescapable : List String :=
  ["_", "self", "Self", "super", "crate"]

def startsIdentifier (c : Char) : Bool :=
  c.isAlpha || c == '_' || inTable identifierStartRanges c

def continuesIdentifier (c : Char) : Bool :=
  startsIdentifier c || c.isDigit || inTable identifierFollowRanges c

/-- A first character that may begin an identifier, and only such as may follow it. -/
def isWord : List Char → Bool
  | [] => false
  | c :: cs => startsIdentifier c && cs.all continuesIdentifier

def spellable (raw : Bool) (name : String) : Bool :=
  isWord name.toList && !(if raw then unescapable else "_" :: keywords).contains name

/-- A name in one of its two spellings. One name spelled raw and plain makes two identifiers. -/
structure Identifier where
  /-- The name without the raw mark. -/
  plain : String
  raw : Bool
  spellable : spellable raw plain = true
deriving DecidableEq

namespace Identifier

def make? (raw : Bool) (name : String) : Option Identifier :=
  if h : Stencil.spellable raw name = true then some ⟨name, raw, h⟩ else none

def text (i : Identifier) : String :=
  if i.raw then "r#" ++ i.plain else i.plain

def ofText? (text : String) : Option Identifier :=
  match text.toList with
  | 'r' :: '#' :: rest => make? true (String.ofList rest)
  | _ => make? false text

theorem make?_eq_some_iff {raw : Bool} {name : String} {i : Identifier} :
    make? raw name = some i ↔ i.raw = raw ∧ i.plain = name := by
  unfold make?
  split
  · constructor
    · rintro ⟨⟩
      exact ⟨rfl, rfl⟩
    · rintro ⟨rfl, rfl⟩
      rfl
  · rename_i h
    constructor
    · nofun
    · rintro ⟨rfl, rfl⟩
      exact absurd i.spellable h

theorem isWord_plain (i : Identifier) : isWord i.plain.toList = true :=
  (Bool.and_eq_true_iff.mp i.spellable).1

theorem not_isWord_raw (rest : List Char) : isWord ('r' :: '#' :: rest) = false := by
  have h : continuesIdentifier '#' = false := by decide
  simp [isWord, h]

theorem ofText?_text (i : Identifier) : ofText? i.text = some i := by
  unfold text
  split
  · rename_i hraw
    have hlist : ("r#" ++ i.plain).toList = 'r' :: '#' :: i.plain.toList := by
      simp [String.toList_append]
    rw [ofText?, hlist]
    exact make?_eq_some_iff.mpr ⟨hraw, by simp⟩
  · rename_i hraw
    unfold ofText?
    split
    · rename_i rest hlist
      have hword := i.isWord_plain
      rw [hlist, not_isWord_raw] at hword
      contradiction
    · exact make?_eq_some_iff.mpr ⟨by simpa using hraw, rfl⟩

theorem eq_text_of_ofText? {t : String} {i : Identifier} (h : ofText? t = some i) :
    t = i.text := by
  unfold ofText? at h
  split at h
  · rename_i rest hlist
    obtain ⟨hraw, hplain⟩ := make?_eq_some_iff.mp h
    apply String.toList_injective
    simp [text, hraw, hplain, hlist, String.toList_append]
  · obtain ⟨hraw, hplain⟩ := make?_eq_some_iff.mp h
    simp [text, hraw, hplain]

/-- An identifier has one written form. -/
theorem ofText?_eq_some_iff {t : String} {i : Identifier} : ofText? t = some i ↔ t = i.text :=
  ⟨eq_text_of_ofText?, fun h => h ▸ i.ofText?_text⟩

end Identifier

end Stencil
