import Stencil.Proofs.Naming.TypeName

/-! The letters of a type name by their places in the name. Which of them are capital ones is a
question of what stands right before and after them; of a name in snake case it is one of what
stands right before. -/

namespace Stencil.TypeCase

variable {name before rest : List Char} {b : Bool}

/-- The characters of a name other than underscores, in their order, with capital letters where
words begin and small ones elsewhere. -/
def lettered (begins : Nat → Bool) (name : List Char) : List Char :=
  (name.zipIdx.filter (·.1 != '_')).map fun p => if begins p.2 then p.1.toUpper else p.1.toLower

/-- Whether a word begins at a place of a name, or would if there were no underscore there. -/
def beginsWord (name : List Char) : Nat → Bool
  | 0 => true
  | i + 1 =>
    match name.drop i with
    | [] => false
    | c :: rest => c == '_' || turnsAfter c rest

/-- The first place of a name, and the places right after an underscore or a digit. -/
def followsBreak (name : List Char) : Nat → Bool
  | 0 => true
  | i + 1 => name[i]?.any fun c => c == '_' || c.isDigit

/-- The places where a letter is a capital one: those that follow a break; and of the capitals of the
name one that a small letter stands before, and the last one of several that a small letter
follows. -/
def isCapital (name : List Char) : Nat → Bool
  | 0 => true
  | i + 1 =>
    followsBreak name (i + 1) ||
      name[i + 1]?.any Char.isUpper && (name[i]?.any Char.isLower ||
        name[i]?.any Char.isUpper && name[i + 2]?.any Char.isLower)

theorem beginsWord_after (before : List Char) (c : Char) (rest : List Char) :
    beginsWord (before ++ c :: rest) (before.length + 1) = (c == '_' || turnsAfter c rest) := by
  rw [beginsWord, List.drop_left]

/-- What is still to come of a type name, when a part of the name has been read. -/
theorem cased_eq_lettered_after (h : name = before ++ rest)
    (hb : b = beginsWord name before.length) :
    cased b rest = ((rest.zipIdx before.length).filter (·.1 != '_')).map
      fun p => if beginsWord name p.2 then p.1.toUpper else p.1.toLower := by
  induction rest generalizing before b with
  | nil => rfl
  | cons c rest ih =>
    have hname : name = (before ++ [c]) ++ rest := by rw [h, List.append_assoc]; rfl
    have hlength : (before ++ [c]).length = before.length + 1 := List.length_append
    have hnext := beginsWord_after before c rest
    rw [← h] at hnext
    rw [List.zipIdx_cons]
    rcases eq_or_ne c '_' with rfl | hline
    · rw [cased_line, List.filter_cons_of_neg (by simp)]
      exact hlength ▸ ih hname (by rw [hlength, hnext]; rfl)
    · have hturns : turnsAfter c rest = beginsWord name (before ++ [c]).length := by
        rw [hlength, hnext, beq_eq_false_iff_ne.mpr hline, Bool.false_or]
      rw [cased_cons hline, List.filter_cons_of_pos (by simpa using hline), List.map_cons,
        ih hname hturns, hb, hlength]

theorem cased_eq_lettered (name : List Char) :
    cased true name = lettered (beginsWord name) name :=
  cased_eq_lettered_after (List.nil_append name).symm rfl

theorem lettered_congr {begins begins' : Nat → Bool}
    (h : ∀ i c, name[i]? = some c → c.isAlpha = true → begins i = begins' i) :
    lettered begins name = lettered begins' name := by
  refine List.map_congr_left fun p hmem => ?_
  have hc : name[p.2]? = some p.1 :=
    List.mem_zipIdx_iff_getElem?.mp (List.mem_of_mem_filter hmem)
  cases halpha : p.1.isAlpha with
  | true => rw [h p.2 p.1 hc halpha]
  | false => rw [toUpper_eq_toLower_iff.mpr halpha, ite_self, ite_self]

/-- Between two letters a word ends before a capital only. -/
theorem turns_of_isAlpha {c d : Char} (hd : d.isAlpha = true) (next : Option Char) :
    turns c d next =
      (c.isDigit || d.isUpper && (c.isLower || c.isUpper && next.any Char.isLower)) := by
  have hdigit : d.isDigit = false := by
    rw [Bool.eq_false_iff]
    intro hdigit
    rw [isAlpha_eq_false_of_isDigit hdigit] at hd
    contradiction
  rw [Char.isAlpha] at hd
  rw [turns, hd, hdigit, Bool.and_true, Bool.or_false, Bool.false_or]
  cases c.isDigit <;> cases d.isUpper <;> simp

theorem cased_eq_lettered_isCapital (name : List Char) :
    cased true name = lettered (isCapital name) name := by
  rw [cased_eq_lettered]
  refine lettered_congr fun i c hc halpha => ?_
  cases i with
  | zero => rfl
  | succ i =>
    obtain ⟨hi, hget⟩ := List.getElem?_eq_some_iff.mp hc
    have hbefore : name[i]? = some name[i] := List.getElem?_eq_getElem (by omega)
    rw [beginsWord, isCapital, followsBreak, hc, hbefore, List.drop_eq_getElem_cons (by omega),
      List.drop_eq_getElem_cons hi, hget]
    simp only [turnsAfter, turns_of_isAlpha halpha, List.head?_drop, Option.any_some,
      Bool.or_assoc]

/-- Without capital letters in the name only underscores and digits make a letter begin a word. -/
theorem lettered_of_small (h : ∀ c ∈ name, c.isUpper = false) :
    lettered (beginsWord name) name = lettered (followsBreak name) name := by
  rw [← cased_eq_lettered, cased_eq_lettered_isCapital]
  refine lettered_congr fun i c hc _ => ?_
  cases i with
  | zero => rfl
  | succ i =>
    rw [isCapital, hc, Option.any_some, h c (List.mem_of_getElem? hc), Bool.false_and,
      Bool.or_false]

/-- Case aside, the letters are those of the name. -/
theorem map_toLower_lettered (begins : Nat → Bool) (name : List Char) :
    (lettered begins name).map Char.toLower = (name.filter (· != '_')).map Char.toLower := by
  have hcase : ∀ p : Char × Nat,
      (if begins p.2 then p.1.toUpper else p.1.toLower).toLower = p.1.toLower := by
    intro p
    split <;> simp
  have hfst : name.filter (· != '_') = (name.zipIdx.filter (·.1 != '_')).map Prod.fst := by
    conv_lhs => rw [← List.zipIdx_map_fst 0 name, List.filter_map]
    rfl
  rw [lettered, hfst, List.map_map, List.map_map]
  exact List.map_congr_left fun p _ => hcase p

end Stencil.TypeCase
