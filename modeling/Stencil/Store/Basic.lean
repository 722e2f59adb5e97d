import Std.Data.ExtTreeMap

/-! A store of directories and text files, as a finite map from locations to entries. Every entry
lies in a directory, and one directory is the current one. Two stores are equal exactly when they
hold the same entries, stand in the same place and take equally long paths. -/

namespace Stencil

/-- The names on the way from the top. -/
abbrev Location := List String

inductive Entry where
  | directory
  | file (contents : String)
deriving DecidableEq, Repr

/-- Entries by location. The top is a directory, so is what holds an entry, and so is the current
location. -/
structure Store where
  entries : Std.ExtTreeMap Location Entry
  current : Location
  /-- The most bytes that a path may have, if there is such a limit. -/
  pathLimit : Option Nat
  top_directory : entries[([] : Location)]? = some .directory
  parent_directory : ∀ l : Location, l ≠ [] → (entries[l]?).isSome →
    entries[l.dropLast]? = some Entry.directory
  current_directory : entries[current]? = some .directory

namespace Store

def get? (s : Store) (l : Location) : Option Entry :=
  s.entries[l]?

@[ext]
theorem ext {s t : Store} (hentry : ∀ l, s.get? l = t.get? l) (hcurrent : s.current = t.current)
    (hlimit : s.pathLimit = t.pathLimit) : s = t := by
  have hentries : s.entries = t.entries := Std.ExtTreeMap.ext_getElem? hentry
  cases s
  cases t
  simp_all

theorem get?_top (s : Store) : s.get? [] = some .directory :=
  s.top_directory

theorem get?_dropLast (s : Store) {l : Location} (hne : l ≠ []) (h : (s.get? l).isSome) :
    s.get? l.dropLast = some .directory :=
  s.parent_directory l hne h

theorem get?_current (s : Store) : s.get? s.current = some .directory :=
  s.current_directory

def empty (pathLimit : Option Nat) : Store where
  entries := Std.ExtTreeMap.empty.insert [] .directory
  current := []
  pathLimit := pathLimit
  top_directory := by simp
  parent_directory := by
    intro l hne h
    simp [Ne.symm hne] at h
  current_directory := by simp

/-- Whether an entry may be placed at a location: it lies in a directory and takes no directory's
place. -/
def Placeable (s : Store) (l : Location) : Prop :=
  l ≠ [] ∧ s.get? l.dropLast = some .directory ∧ s.get? l ≠ some .directory

instance (s : Store) (l : Location) : Decidable (s.Placeable l) :=
  inferInstanceAs (Decidable (_ ∧ _ ∧ _))

theorem get?_insert (s : Store) (l k : Location) (e : Entry) :
    (s.entries.insert l e)[k]? = if l = k then some e else s.get? k := by
  simp [Std.ExtTreeMap.getElem?_insert, get?]

theorem dropLast_ne_self {l : Location} (hne : l ≠ []) : l.dropLast ≠ l := by
  intro h
  have hlength := congrArg List.length h
  have hpos := List.length_pos_iff.mpr hne
  rw [List.length_dropLast] at hlength
  omega

/-- Places an entry, or leaves the store as it is where none may be placed. -/
def put (s : Store) (l : Location) (e : Entry) : Store :=
  if h : s.Placeable l then
    { entries := s.entries.insert l e
      current := s.current
      pathLimit := s.pathLimit
      top_directory := by
        rw [get?_insert, if_neg h.1]
        exact s.top_directory
      parent_directory := by
        intro k hne hk
        rw [get?_insert] at hk ⊢
        by_cases hlk : l = k
        · subst hlk
          rw [if_neg (dropLast_ne_self hne).symm]
          exact h.2.1
        · rw [if_neg hlk] at hk
          have hparent := s.parent_directory k hne hk
          by_cases hl : l = k.dropLast
          · exact absurd (hl ▸ hparent) h.2.2
          · rw [if_neg hl]
            exact hparent
      current_directory := by
        rw [get?_insert]
        have hl : l ≠ s.current := fun e => h.2.2 (e ▸ s.current_directory)
        rw [if_neg hl]
        exact s.current_directory }
  else s

theorem get?_put {s : Store} {l : Location} (h : s.Placeable l) (e : Entry) (k : Location) :
    (s.put l e).get? k = if l = k then some e else s.get? k := by
  rw [put, dif_pos h]
  exact get?_insert s l k e

@[simp]
theorem current_put (s : Store) (l : Location) (e : Entry) : (s.put l e).current = s.current := by
  rw [put]
  split <;> rfl

@[simp]
theorem pathLimit_put (s : Store) (l : Location) (e : Entry) :
    (s.put l e).pathLimit = s.pathLimit := by
  rw [put]
  split <;> rfl

def enter (s : Store) (l : Location) : Store :=
  if h : s.get? l = some .directory then { s with current := l, current_directory := h } else s

theorem get?_filter (s : Store) (keep : Location → Bool) (k : Location) :
    (s.entries.filter fun l _ => keep l)[k]? = if keep k then s.get? k else none := by
  rw [Std.ExtTreeMap.getElem?_filter]
  simp only [Std.ExtTreeMap.getKey_eq, get?]
  cases s.entries[k]? with
  | none => simp
  | some e => cases keep k <;> simp [Option.pfilter]

/-- Takes away what lies at and below a location, unless the current directory lies there. -/
def clear (s : Store) (l : Location) : Store :=
  if h : l.isPrefixOf s.current = true then s
  else
    { entries := s.entries.filter fun k _ => !l.isPrefixOf k
      current := s.current
      pathLimit := s.pathLimit
      top_directory := by
        rw [get?_filter s fun k => !l.isPrefixOf k]
        cases l with
        | nil => simp at h
        | cons a l => simpa using s.get?_top
      parent_directory := by
        intro k hne hk
        rw [get?_filter s fun k => !l.isPrefixOf k] at hk ⊢
        cases hkeep : l.isPrefixOf k with
        | true => simp [hkeep] at hk
        | false =>
          have hparent : l.isPrefixOf k.dropLast = false := by
            rw [Bool.eq_false_iff] at hkeep ⊢
            intro hp
            have hp := List.isPrefixOf_iff_prefix.mp hp
            exact hkeep (List.isPrefixOf_iff_prefix.mpr (hp.trans (List.dropLast_prefix k)))
          simp only [hkeep, Bool.not_false, if_true] at hk
          simpa [hparent] using s.get?_dropLast hne hk
      current_directory := by
        rw [get?_filter s fun k => !l.isPrefixOf k]
        simpa [h] using s.get?_current }

theorem get?_clear {s : Store} {l : Location} (h : l.isPrefixOf s.current = false)
    (k : Location) : (s.clear l).get? k = if l.isPrefixOf k then none else s.get? k := by
  rw [clear, dif_neg (by simp [h])]
  refine (get?_filter s (fun k => !l.isPrefixOf k) k).trans ?_
  cases l.isPrefixOf k <;> rfl

/-- Everything but the top, each location before those below it. -/
def toList (s : Store) : List (Location × Entry) :=
  s.entries.toList.filter (!·.1.isEmpty)

end Store

end Stencil
