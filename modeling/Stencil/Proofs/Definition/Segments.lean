import Stencil.Definition.Attribute

/-! A token and its segments. The segments with colons between them are the token again, and as the
first two hold no colon there is one way only to cut a token into them. -/

namespace Stencil.Segments

open Text

variable {token : String} {g : Segments}

/-- The token that is cut into these segments. -/
def text (g : Segments) : String :=
  match g.filter, g.requirement with
  | none, _ => g.name
  | some filter, none => g.name ++ ":" ++ filter
  | some filter, some requirement => g.name ++ ":" ++ filter ++ ":" ++ requirement

/-- The cuts are at the first two colons, and at a second one only if there is a first. -/
structure Parted (g : Segments) : Prop where
  name : ':' ∉ g.name.toList
  filter : ∀ word, g.filter = some word → ':' ∉ word.toList
  requirement : g.filter = none → g.requirement = none

theorem ofToken_of_cut {name rest filter : List Char} {requirement : Option (List Char)}
    (hname : cut ':' token.toList = (name, some rest))
    (hrest : cut ':' rest = (filter, requirement)) :
    ofToken token =
      ⟨String.ofList name, some (String.ofList filter), requirement.map String.ofList⟩ := by
  simp only [ofToken, hname, hrest, Option.map_some]

theorem ofToken_of_uncut {name : List Char} (h : cut ':' token.toList = (name, none)) :
    ofToken token = ⟨String.ofList name, none, none⟩ := by
  simp only [ofToken, h, Option.map_none]

theorem parted_ofToken (token : String) : (ofToken token).Parted := by
  have hname := not_mem_cut_fst ':' token.toList
  rcases hcut : cut ':' token.toList with ⟨name, _ | rest⟩
  · rw [hcut] at hname
    rw [ofToken_of_uncut hcut]
    exact ⟨by simpa using hname, nofun, fun _ => rfl⟩
  · have hfilter := not_mem_cut_fst ':' rest
    rw [hcut] at hname
    rw [ofToken_of_cut hcut rfl]
    refine ⟨by simpa using hname, ?_, nofun⟩
    rintro _ ⟨⟩
    simpa using hfilter

theorem text_ofToken (token : String) : (ofToken token).text = token := by
  have htoken := paste_cut ':' token.toList
  apply String.toList_injective
  rcases hcut : cut ':' token.toList with ⟨name, _ | rest⟩
  · rw [hcut] at htoken
    rw [ofToken_of_uncut hcut, ← htoken]
    simp [text, paste]
  · have hrest := paste_cut ':' rest
    rw [hcut, paste] at htoken
    rcases hcut' : cut ':' rest with ⟨filter, _ | requirement⟩
    · rw [hcut'] at hrest
      rw [ofToken_of_cut hcut hcut', ← htoken, ← hrest]
      simp [text, paste]
    · rw [hcut'] at hrest
      rw [ofToken_of_cut hcut hcut', ← htoken, ← hrest]
      simp [text, paste]

theorem ofToken_text (h : g.Parted) : ofToken g.text = g := by
  rcases g with ⟨name, _ | filter, requirement⟩
  · obtain rfl : requirement = none := h.requirement rfl
    show ofToken name = _
    rw [ofToken_of_uncut (cut_of_not_mem h.name)]
    simp
  · have hfilter := h.filter filter rfl
    cases requirement with
    | none =>
      have hlist : (text ⟨name, some filter, none⟩).toList =
          name.toList ++ ':' :: filter.toList := by
        simp [text]
      rw [ofToken_of_cut (hlist ▸ cut_append h.name _) (cut_of_not_mem hfilter)]
      simp
    | some requirement =>
      have hlist : (text ⟨name, some filter, some requirement⟩).toList =
          name.toList ++ ':' :: (filter.toList ++ ':' :: requirement.toList) := by
        simp [text]
      rw [ofToken_of_cut (hlist ▸ cut_append h.name _) (cut_append hfilter _)]
      simp

/-- A token has one way to be cut. -/
theorem ofToken_eq_iff : ofToken token = g ↔ g.Parted ∧ g.text = token := by
  constructor
  · rintro rfl
    exact ⟨parted_ofToken token, text_ofToken token⟩
  · rintro ⟨hparted, rfl⟩
    exact ofToken_text hparted

end Stencil.Segments
