/-! Cutting a text at a separator, once or everywhere. Nothing is lost: the pieces with the
separator between them are the text again. -/

namespace Stencil.Text

/-- The text before the first separator, and the text after it if there is one. -/
def cut (sep : Char) : List Char → List Char × Option (List Char)
  | [] => ([], none)
  | c :: cs =>
    if c = sep then ([], some cs)
    else ((c :: (cut sep cs).1), (cut sep cs).2)

/-- The pieces between separators. There is one more of them than there are separators. -/
def fields (sep : Char) : List Char → List (List Char)
  | [] => [[]]
  | c :: cs =>
    if c = sep then [] :: fields sep cs
    else
      match fields sep cs with
      | [] => [[c]]
      | f :: fs => (c :: f) :: fs

def paste (sep : Char) : List Char × Option (List Char) → List Char
  | (before, none) => before
  | (before, some after) => before ++ sep :: after

theorem paste_cut (sep : Char) (cs : List Char) : paste sep (cut sep cs) = cs := by
  induction cs with
  | nil => rfl
  | cons c cs ih =>
    by_cases h : c = sep
    · simp [cut, paste, h]
    · rw [cut, if_neg h]
      cases hcut : cut sep cs with
      | mk before after =>
        rw [hcut] at ih
        cases after <;> simp_all [paste]

theorem not_mem_cut_fst (sep : Char) (cs : List Char) : sep ∉ (cut sep cs).1 := by
  induction cs with
  | nil => simp [cut]
  | cons c cs ih =>
    by_cases h : c = sep
    · simp [cut, h]
    · simp [cut, h, ih, Ne.symm h]

theorem cut_append {sep : Char} {before : List Char} (h : sep ∉ before) (after : List Char) :
    cut sep (before ++ sep :: after) = (before, some after) := by
  induction before with
  | nil => simp [cut]
  | cons c cs ih =>
    have hc : c ≠ sep := fun e => h (by simp [e])
    have hcs : sep ∉ cs := fun m => h (List.mem_cons_of_mem _ m)
    simp [cut, hc, ih hcs]

theorem cut_of_not_mem {sep : Char} {cs : List Char} (h : sep ∉ cs) : cut sep cs = (cs, none) := by
  induction cs with
  | nil => rfl
  | cons c cs ih =>
    have hc : c ≠ sep := fun e => h (by simp [e])
    have hcs : sep ∉ cs := fun m => h (List.mem_cons_of_mem _ m)
    simp [cut, hc, ih hcs]

theorem fields_ne_nil (sep : Char) (cs : List Char) : fields sep cs ≠ [] := by
  cases cs with
  | nil => simp [fields]
  | cons c cs =>
    rw [fields]
    split
    · simp
    · split <;> simp

theorem intercalate_fields (sep : Char) (cs : List Char) :
    List.intercalate [sep] (fields sep cs) = cs := by
  induction cs with
  | nil => rfl
  | cons c cs ih =>
    by_cases h : c = sep
    · cases hf : fields sep cs with
      | nil => exact absurd hf (fields_ne_nil sep cs)
      | cons f fs => simp_all [fields, List.intercalate]
    · cases hf : fields sep cs with
      | nil => exact absurd hf (fields_ne_nil sep cs)
      | cons f fs =>
        rw [hf] at ih
        cases fs <;> simp_all [fields, List.intercalate]

end Stencil.Text
