import Stencil.Proofs.Path.Steps

/-! Paths that name something in a directory. The parent of such a path is the directory in the very
words in which it was given, however its root is spelled. -/

namespace Stencil.Path

variable {p q dir : Path} {name : String}

/-- The path is that of the directory with a name after it. The path of the directory ends in a name
itself. -/
structure Inside (p dir : Path) (name : String) : Prop where
  segments : p.segments = dir.segments ++ [name]
  counts : isFiller name = false
  ends : ∃ front last, dir.segments = front ++ [last] ∧ isFiller last = false

theorem ofSegments_anchored (p : Path) : ofSegments p.anchored.1 p.anchored.2 = p := by
  have htext : p = ⟨"/".intercalate p.segments⟩ := congrArg Path.mk p.text_eq
  rw [anchored]
  split
  · rename_i segment rest h
    rw [htext, h, ofSegments, String.intercalate_cons_cons, String.empty_append]
  · rename_i rest h
    rw [htext, h, ofSegments]
  · exact htext.symm

theorem trimEnd_concat (front : List String) {last : String} (h : isFiller last = false) :
    trimEnd (front ++ [last]) = front ++ [last] := by
  rw [trimEnd, trimStart, List.reverse_concat, List.dropWhile_cons_of_neg (by simp [h]),
    List.reverse_cons, List.reverse_reverse]

theorem parent?_of_trimEnd_ne (h : trimEnd p.anchored.2 ≠ []) :
    p.parent? = some (ofSegments p.anchored.1 (trimEnd (trimEnd p.anchored.2).dropLast)) := by
  unfold parent?
  cases hsegments : trimEnd p.anchored.2 with
  | nil => exact absurd hsegments h
  | cons segment rest => cases p.anchored.1 <;> rfl

namespace Inside

theorem segments_ne (h : p.Inside dir name) : dir.segments ≠ [""] := by
  obtain ⟨front, last, hends, hcounts⟩ := h.ends
  intro hempty
  rw [hends, List.append_eq_singleton_iff] at hempty
  obtain ⟨-, hlast⟩ | ⟨-, hlast⟩ := hempty
  · obtain rfl := List.singleton_inj.mp hlast
    contradiction
  · simp at hlast

theorem text_ne (h : p.Inside dir name) : dir.text ≠ "" :=
  fun htext => h.segments_ne (segments_eq_empty_iff.mpr htext)

theorem anchored_eq (h : p.Inside dir name) :
    p.anchored = (dir.anchored.1, dir.anchored.2 ++ [name]) :=
  anchored_of_segments h.segments h.segments_ne

theorem trimEnd_anchored (h : p.Inside dir name) : trimEnd dir.anchored.2 = dir.anchored.2 := by
  obtain ⟨front, last, hends, hcounts⟩ := h.ends
  obtain ⟨before, hbefore⟩ := dir.anchored_suffix
  rcases List.eq_nil_or_concat dir.anchored.2 with hnil | ⟨front', last', hlast⟩
  · rw [hnil]
    rfl
  · rw [List.concat_eq_append] at hlast
    rw [hends, hlast, ← List.append_assoc] at hbefore
    obtain ⟨-, hsame⟩ := List.append_inj' hbefore rfl
    obtain rfl := List.singleton_inj.mp hsame
    rw [hlast, trimEnd_concat front' hcounts]

theorem parent?_eq (h : p.Inside dir name) : p.parent? = some dir := by
  have htrimmed : trimEnd p.anchored.2 = dir.anchored.2 ++ [name] := by
    rw [h.anchored_eq, trimEnd_concat _ h.counts]
  rw [parent?_of_trimEnd_ne (by simp [htrimmed]), htrimmed, List.dropLast_concat,
    h.trimEnd_anchored, h.anchored_eq, ofSegments_anchored]

theorem steps (h : p.Inside dir name) : p.steps = dir.steps ++ [name] := by
  rw [Path.steps, h.segments, counted_append, counted_cons h.counts, counted_nil, Path.steps]

theorem text_eq (h : p.Inside dir name) : p.text = dir.text ++ "/" ++ name := by
  have hslash : '/' ∉ name.toList := not_slash_of_mem_segments (p := p) (by simp [h.segments])
  rw [Path.text_eq, h.segments, ← segments_of_not_slash hslash, ← segments_append_slash]
  exact (Path.text_eq ⟨dir.text ++ "/" ++ name⟩).symm

end Inside

/-! ### Joined paths -/

theorem suffix_segments_join (p : Path) (h : q.isAbsolute = false) :
    q.segments <:+ (p.join q).segments := by
  rcases join_cases p h with ⟨-, hjoin⟩ | ⟨a, -, hjoin⟩ | ⟨-, hjoin⟩
  · exact ⟨[], by rw [hjoin, List.nil_append]⟩
  · rw [hjoin, segments_append_slash]
    exact List.suffix_append _ _
  · rw [hjoin, segments_append_slash]
    exact List.suffix_append _ _

theorem inside_join (hname : (Path.mk name).segments = [name]) (hcounts : isFiller name = false)
    (hdir : ∃ front last, dir.segments = front ++ [last] ∧ isFiller last = false) :
    (dir.join ⟨name⟩).Inside dir name := by
  refine ⟨?_, hcounts, hdir⟩
  obtain ⟨front, last, hends, hlast⟩ := hdir
  have hrelative : (Path.mk name).isAbsolute = false := by
    rw [Bool.eq_false_iff, ne_eq, isAbsolute_iff, hname]
    simp
  have hslash : ∀ a : List String, dir.segments ≠ a ++ [""] := by
    intro a heq
    rw [hends] at heq
    obtain rfl := List.singleton_inj.mp (List.append_inj' heq rfl).2
    contradiction
  rcases join_cases dir hrelative with ⟨htext, -⟩ | ⟨a, htext, -⟩ | ⟨-, hjoin⟩
  · exact absurd (segments_eq_empty_iff.mpr htext) (hslash [])
  · exact absurd (segments_of_slash htext) (hslash _)
  · rw [hjoin, segments_append_slash, hname]

theorem ends_join (p : Path) (h : q.isAbsolute = false)
    (hq : ∃ front last, q.segments = front ++ [last] ∧ isFiller last = false) :
    ∃ front last, (p.join q).segments = front ++ [last] ∧ isFiller last = false := by
  obtain ⟨front, last, hends, hlast⟩ := hq
  obtain ⟨before, hbefore⟩ := suffix_segments_join p h
  exact ⟨before ++ front, last, by rw [← hbefore, hends, List.append_assoc], hlast⟩

theorem mem_text_join {c : Char} (h : c ∈ (p.join q).text.toList) :
    c ∈ p.text.toList ∨ c = '/' ∨ c ∈ q.text.toList := by
  rw [join] at h
  split at h
  · exact .inr (.inr h)
  · split at h
    · simp only [String.toList_append, List.mem_append] at h
      exact h.imp_right .inr
    · simp only [String.toList_append, List.mem_append] at h
      exact h.imp_right .inr
    · simpa [String.toList_append, or_assoc] using h

end Stencil.Path
