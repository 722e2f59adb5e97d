import Stencil.Text.CaseTable

/-! Upper and lower case of a text. A character may become several, and a capital sigma has two
lower case forms: the final one at the end of a word and the ordinary one elsewhere. -/

namespace Stencil.Text

def CaseRun.covers (r : CaseRun) (n : Nat) : Bool :=
  decide (r.first ≤ n) && decide (n ≤ r.last) && (n - r.first) % r.stride == 0

def CaseRun.shiftOf (runs : List CaseRun) (c : Char) : Char :=
  match runs.find? fun r => r.covers c.toNat with
  | some r => Char.ofNat (c.toNat + r.shift).toNat
  | none => c

def upperChar (c : Char) : List Char :=
  if c.toNat < 128 then [c.toUpper]
  else
    match upperExpansions.lookup c.toNat with
    | some codes => codes.map Char.ofNat
    | none => [CaseRun.shiftOf upperRuns c]

/-- The lower case of a character by itself. -/
def lowerChar (c : Char) : List Char :=
  if c.toNat < 128 then [c.toLower]
  else
    match lowerExpansions.lookup c.toNat with
    | some codes => codes.map Char.ofNat
    | none => [CaseRun.shiftOf lowerRuns c]

def isCased (c : Char) : Bool :=
  c.isAlpha || inTable casedRanges c

/-- Characters that do not count when a word's end is looked for. -/
def isCaseIgnorable (c : Char) : Bool :=
  ['\'', '.', ':', '^', '\x60'].contains c || inTable caseIgnorableRanges c

def startsCased (cs : List Char) : Bool :=
  (cs.dropWhile isCaseIgnorable).head?.any isCased

/-- A sigma is final when a cased character stands before it and none stands after it. The text
before is given from its end. -/
def isFinalSigma (before after : List Char) : Bool :=
  startsCased before && !startsCased after

def lowerFrom (before : List Char) : List Char → List Char
  | [] => []
  | c :: after =>
    let form :=
      if c = 'Σ' then [if isFinalSigma before after then 'ς' else 'σ'] else lowerChar c
    form ++ lowerFrom (c :: before) after

def upper (cs : List Char) : List Char :=
  cs.flatMap upperChar

def lower (cs : List Char) : List Char :=
  lowerFrom [] cs

theorem upper_nil : upper [] = [] := rfl

theorem upper_cons (c : Char) (cs : List Char) : upper (c :: cs) = upperChar c ++ upper cs :=
  List.flatMap_cons ..

theorem upperChar_of_ascii {c : Char} (h : c.toNat < 128) : upperChar c = [c.toUpper] :=
  if_pos h

theorem lowerChar_of_ascii {c : Char} (h : c.toNat < 128) : lowerChar c = [c.toLower] :=
  if_pos h

theorem upper_of_ascii {cs : List Char} (h : ∀ c ∈ cs, c.toNat < 128) :
    upper cs = cs.map Char.toUpper := by
  induction cs with
  | nil => rfl
  | cons c cs ih =>
    rw [upper_cons, upperChar_of_ascii (h c (by simp)), ih fun d hd => h d (by simp [hd])]
    rfl

theorem lowerFrom_of_ascii (before : List Char) {cs : List Char} (h : ∀ c ∈ cs, c.toNat < 128) :
    lowerFrom before cs = cs.map Char.toLower := by
  induction cs generalizing before with
  | nil => rfl
  | cons c cs ih =>
    have hc : c.toNat < 128 := h c (by simp)
    have hsigma : c ≠ 'Σ' := fun e => absurd hc (by rw [e]; decide)
    simp [lowerFrom, hsigma, lowerChar_of_ascii hc, ih (c :: before) fun d hd => h d (by simp [hd])]

theorem lower_of_ascii {cs : List Char} (h : ∀ c ∈ cs, c.toNat < 128) :
    lower cs = cs.map Char.toLower :=
  lowerFrom_of_ascii [] h

end Stencil.Text
