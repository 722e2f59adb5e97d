import Mathlib.Data.String.Basic
import Stencil.Text.Fields
import Stencil.Text.Lines

/-! Reading a text line by line: the lines of the text, what stands in a line between two known
pieces, and the lines that stand between two known ones. -/

namespace Stencil.Text

/-! ### Texts of one line -/

/-- A text that breaks no line. -/
def OneLine (text : String) : Prop :=
  '\n' ∉ text.toList

instance (text : String) : Decidable (OneLine text) :=
  inferInstanceAs (Decidable (_ ∉ _))

@[simp]
theorem oneLine_append {v w : String} : OneLine (v ++ w) ↔ OneLine v ∧ OneLine w := by
  rw [OneLine, String.toList_append, List.mem_append, not_or]
  rfl

@[simp]
theorem oneLine_indent {depth : Nat} {line : String} :
    OneLine (indent depth line) ↔ OneLine line := by
  induction depth with
  | zero => rfl
  | succ depth ih =>
    have hblank : OneLine "    " := by decide
    rw [indent, oneLine_append, ih]
    exact and_iff_right hblank

theorem not_mem_intercalate {c : Char} {sep : String} {ws : List String} (hsep : c ∉ sep.toList)
    (hws : ∀ w ∈ ws, c ∉ w.toList) : c ∉ (sep.intercalate ws).toList := by
  induction ws with
  | nil => simp
  | cons w rest ih =>
    rw [List.forall_mem_cons] at hws
    cases rest with
    | nil => simpa using hws.1
    | cons v rest =>
      rw [String.intercalate_cons_cons, String.toList_append, String.toList_append, List.mem_append,
        List.mem_append, not_or, not_or]
      exact ⟨⟨hws.1, hsep⟩, ih hws.2⟩

theorem append_injective (front : String) : Function.Injective (front ++ ·) :=
  fun _ _ h => (String.append_right_inj front).mp h

theorem append_ne_of_head? {front word : String} {c : Char}
    (hfront : front.toList.head? = some c) (hword : word.toList.head? ≠ some c) (v : String) :
    front ++ v ≠ word := by
  rintro rfl
  rw [String.toList_append, List.head?_append, hfront] at hword
  exact hword rfl

/-! ### Lines -/

def lines (text : String) : List String :=
  (fields '\n' text.toList).dropLast.map String.ofList

theorem fields_append {sep : Char} {before : List Char} (h : sep ∉ before) (after : List Char) :
    fields sep (before ++ sep :: after) = before :: fields sep after := by
  induction before with
  | nil => simp [fields]
  | cons c cs ih =>
    have hc : c ≠ sep := fun e => h (by simp [e])
    have hcs : sep ∉ cs := fun m => h (List.mem_cons_of_mem _ m)
    rw [List.cons_append, fields, if_neg hc, ih hcs]

theorem toList_ofLines_cons (line : String) (rest : List String) :
    (ofLines (line :: rest)).toList = line.toList ++ '\n' :: (ofLines rest).toList := by
  simp [ofLines, String.toList_append]

theorem fields_ofLines {ls : List String} (h : ∀ l ∈ ls, OneLine l) :
    fields '\n' (ofLines ls).toList = ls.map String.toList ++ [[]] := by
  induction ls with
  | nil => rfl
  | cons l rest ih =>
    rw [List.forall_mem_cons] at h
    rw [toList_ofLines_cons, fields_append h.1, ih h.2]
    rfl

/-- A text is read into the lines it is made of. -/
theorem lines_ofLines {ls : List String} (h : ∀ l ∈ ls, OneLine l) :
    lines (ofLines ls) = ls := by
  rw [lines, fields_ofLines h, List.dropLast_concat, List.map_map]
  simp [Function.comp_def]

/-- Pieces of which each is read as one thing. -/
theorem filterMap_pieces {α β : Type} {write : α → List String} {read : String → Option β}
    {f : α → β} (h : ∀ a, (write a).filterMap read = [f a]) (as : List α) :
    (as.flatMap write).filterMap read = as.map f := by
  rw [List.filterMap_flatMap, List.map_eq_flatMap]
  simp only [h]

/-! ### Inside a line -/

/-- What stands between a known beginning and a known end. -/
def between? (front back line : String) : Option String :=
  (line.toList.dropPrefix? front.toList).bind fun rest =>
    (rest.dropSuffix? back.toList).map String.ofList

variable {front back line word : String}

theorem between?_eq_some_iff :
    between? front back line = some word ↔ line = front ++ word ++ back := by
  rw [between?, Option.bind_eq_some_iff]
  simp only [Option.map_eq_some_iff, List.dropPrefix?_eq_some_iff, List.dropSuffix?_eq_some_iff,
    beq_iff_eq, ← String.toList_inj, String.toList_append, String.toList_ofList]
  constructor
  · rintro ⟨rest, ⟨_, hline, rfl⟩, middle, ⟨_, hrest, rfl⟩, hword⟩
    rw [hline, hrest, hword, List.append_assoc]
  · intro h
    exact ⟨word.toList ++ back.toList, ⟨_, by rw [h, List.append_assoc], rfl⟩, word.toList,
      ⟨_, rfl, rfl⟩, rfl⟩

theorem between?_append (front word back : String) :
    between? front back (front ++ word ++ back) = some word :=
  between?_eq_some_iff.mpr rfl

/-- A line that parts with the beginning somewhere does not have it. -/
theorem between?_eq_none (n : Nat) (hn : n < front.toList.length)
    (h : line.toList[n]? ≠ front.toList[n]?) : between? front back line = none := by
  rw [Option.eq_none_iff_forall_ne_some]
  intro word hword
  rw [between?_eq_some_iff] at hword
  rw [hword, String.append_assoc, String.toList_append, List.getElem?_append_left hn] at h
  exact h rfl

/-! ### Between lines -/

/-- The lines after the first that opens a block, up to the one that closes it. -/
def block (opens : String → Bool) (close : String) (ls : List String) : List String :=
  (ls.dropWhile (!opens ·)).tail.takeWhile (· != close)

theorem takeWhile_close {middle after : List String} {close : String}
    (h : ∀ l ∈ middle, l ≠ close) :
    (middle ++ close :: after).takeWhile (· != close) = middle := by
  rw [List.takeWhile_append_of_pos (by simpa using h), List.takeWhile_cons_of_neg (by simp),
    List.append_nil]

theorem block_append {opens : String → Bool} {before middle after : List String}
    {opening close : String} (hbefore : ∀ l ∈ before, opens l = false)
    (hopening : opens opening = true) (hmiddle : ∀ l ∈ middle, l ≠ close) :
    block opens close (before ++ opening :: (middle ++ close :: after)) = middle := by
  rw [block, List.dropWhile_append_of_pos (by simpa using hbefore),
    List.dropWhile_cons_of_neg (by simp [hopening]), List.tail_cons, takeWhile_close hmiddle]

end Stencil.Text
