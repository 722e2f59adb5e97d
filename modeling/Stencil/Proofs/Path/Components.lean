import Stencil.Proofs.Path.Inside

/-! The components of a path are its anchor and its steps. A path that names nothing at its front is
joined to another by appending components; the parent leaves out the last of them, and what is left
when the base of a joined path is taken off is the path that was joined to it. -/

namespace Stencil.Path

variable {p q : Path} {segment : String}

/-! ### Joining -/

/-- What joining puts between a path and what comes after it. -/
def separator (p : Path) : String :=
  match p.text.toList.getLast? with
  | none | some '/' => ""
  | some _ => "/"

theorem join_of_relative (p : Path) (h : q.isAbsolute = false) :
    p.join q = ⟨p.text ++ p.separator ++ q.text⟩ := by
  rw [join, h, if_neg Bool.false_ne_true]
  unfold separator
  split <;> simp_all

theorem separator_of_nonempty {text : String} (before : String) (h : text ≠ "") :
    separator ⟨before ++ text⟩ = separator ⟨text⟩ := by
  rw [separator, separator, String.toList_append,
    List.getLast?_append, Option.or_of_isSome
      (List.getLast?_isSome.mpr (mt String.toList_eq_nil_iff.mp h))]

theorem separator_separated (p : Path) : separator ⟨p.text ++ p.separator⟩ = "" := by
  rw [separator.eq_def p]
  split
  · rename_i hlast
    simp [separator, hlast]
  · rename_i hlast
    simp [separator, hlast]
  · rw [separator_of_nonempty _ (by decide)]
    rfl

theorem join_assoc (p q r : Path) : (p.join q).join r = p.join (q.join r) := by
  cases hr : r.isAbsolute with
  | true => rw [join_of_isAbsolute hr, join_of_isAbsolute hr, join_of_isAbsolute hr]
  | false =>
    cases hq : q.isAbsolute with
    | true => rw [join_of_isAbsolute hq, join_of_isAbsolute ((isAbsolute_join hr).trans hq)]
    | false =>
      rw [join_of_relative _ hr, join_of_relative _ ((isAbsolute_join hr).trans hq),
        join_of_relative _ hq, join_of_relative _ hr]
      have hseparator : separator ⟨p.text ++ p.separator ++ q.text⟩ = q.separator := by
        by_cases hempty : q.text = ""
        · obtain rfl : q = ⟨""⟩ := congrArg Path.mk hempty
          rw [String.append_empty, separator_separated]
          rfl
        · exact separator_of_nonempty _ hempty
      rw [hseparator]
      simp [String.append_assoc]

theorem empty_join (q : Path) : (Path.mk "").join q = q := by
  rcases h : q.isAbsolute with _ | _
  · rcases join_cases ⟨""⟩ h with ⟨-, hjoin⟩ | ⟨a, htext, -⟩ | ⟨htext, -⟩
    · exact hjoin
    · obtain ⟨-, hslash⟩ := String.append_eq_empty_iff.mp htext.symm
      exact absurd hslash (by decide)
    · exact absurd rfl htext
  · exact join_of_isAbsolute h

/-! ### Anchors -/

theorem isAbsolute_of_unsaid (h : p.anchored.1 = .unsaid) : p.isAbsolute = false := by
  rw [Bool.eq_false_iff, ne_eq, ← anchored_eq_top_iff, h]
  exact Anchor.noConfusion

theorem anchored_of_counts {rest : List String} (h : p.segments = segment :: rest)
    (hcounts : isFiller segment = false) : p.anchored = (.unsaid, segment :: rest) := by
  rw [isFiller, Bool.or_eq_false_iff, beq_eq_false_iff_ne, beq_eq_false_iff_ne] at hcounts
  simp [anchored, h, hcounts]

/-- A joined path begins as the path on its left, where the one on its right names no beginning. -/
theorem anchored_join (p : Path) (h : q.anchored.1 = .unsaid) :
    ∃ before, (p.join q).anchored = (p.anchored.1, before ++ q.segments) ∧
      counted before = p.steps := by
  rcases join_cases p (isAbsolute_of_unsaid h) with
    ⟨htext, hjoin⟩ | ⟨a, htext, hjoin⟩ | ⟨htext, hjoin⟩
  · obtain rfl : p = ⟨""⟩ := congrArg Path.mk htext
    refine ⟨[], ?_, ?_⟩
    · rw [hjoin, anchored_empty, List.nil_append, ← anchored_of_unsaid h, ← h]
    · rw [steps, segments_empty]
      rfl
  · have hp := segments_of_slash htext
    have hjoined : (p.join q).segments = (Path.mk a).segments ++ q.segments := by
      rw [hjoin, segments_append_slash]
    by_cases hne : (Path.mk a).segments = [""]
    · -- the path is the top
      rw [hne] at hp hjoined
      obtain ⟨segment, rest, hq⟩ := List.exists_cons_of_ne_nil q.segments_ne_nil
      rw [hq] at hjoined
      refine ⟨[], ?_, ?_⟩
      · rw [anchored_of_top hjoined, anchored_of_top hp, hq, List.nil_append]
      · rw [steps, hp]
        rfl
    · refine ⟨(Path.mk a).anchored.2, ?_, ?_⟩
      · rw [anchored_of_segments hjoined hne, anchored_of_segments hp hne]
      · rw [← steps_eq_anchored, steps, steps, hp, counted_append, counted_empty, List.append_nil]
  · have hne : p.segments ≠ [""] := mt segments_eq_empty_iff.mp htext
    have hjoined : (p.join q).segments = p.segments ++ q.segments := by
      rw [hjoin, segments_append_slash]
    exact ⟨p.anchored.2, anchored_of_segments hjoined hne, p.steps_eq_anchored.symm⟩

/-! ### Components -/

theorem ofSegment?_eq_none_iff : Component.ofSegment? segment = none ↔ isFiller segment = true := by
  rw [Component.ofSegment?]
  split
  · simp_all
  · split <;> simp_all

theorem ofSegment?_of_name (hcounts : isFiller segment = false) (hup : segment ≠ "..") :
    Component.ofSegment? segment = some (.name segment) := by
  rw [Component.ofSegment?, hcounts, if_neg Bool.false_ne_true, if_neg hup]

theorem filterMap_counted (segments : List String) :
    (counted segments).filterMap Component.ofSegment? =
      segments.filterMap Component.ofSegment? := by
  rw [counted, List.filterMap_filter]
  congr 1
  funext segment
  cases hfiller : isFiller segment with
  | false => simp
  | true => simp [ofSegment?_eq_none_iff.mpr hfiller]

theorem components_eq (p : Path) :
    p.components = p.anchored.1.components ++ p.steps.filterMap Component.ofSegment? := by
  rw [components, steps_eq_anchored, filterMap_counted]

theorem length_components (p : Path) :
    p.components.length = p.anchored.1.components.length + p.steps.length := by
  have hsteps : ∀ segment ∈ p.steps, (Component.ofSegment? segment).isSome = true := by
    intro segment hmem
    rw [Option.isSome_iff_ne_none, ne_eq, ofSegment?_eq_none_iff]
    simpa using (List.mem_filter.mp hmem).2
  rw [components_eq, List.length_append, List.length_filterMap_eq_countP,
    List.countP_eq_length.mpr hsteps]

theorem same_iff : p.same q = true ↔ p.components = q.components :=
  beq_iff_eq

theorem components_join (p : Path) (h : q.anchored.1 = .unsaid) :
    (p.join q).components = p.components ++ q.components := by
  obtain ⟨before, hjoin, -⟩ := anchored_join p h
  rw [components_eq, components_eq p, components_eq q, hjoin, h,
    steps_join (isAbsolute_of_unsaid h), List.filterMap_append, ← List.append_assoc]
  rfl

theorem components_of_parent (h : p.parent? = some q) : q.components = p.components.dropLast := by
  have hsteps := steps_of_parent h
  rcases parent?_eq_some h with ⟨hhere, hnil, rfl⟩ | ⟨hne, rfl⟩
  · have hnone : p.steps = [] := by rw [steps_eq_anchored, ← counted_trimEnd, hnil, counted_nil]
    rw [components_eq p, hnone, hhere, components_eq, anchored_empty, steps, segments_empty]
    rfl
  · obtain ⟨before, last, hlast⟩ := (List.eq_nil_or_concat _).resolve_left hne
    have hcounts : isFiller last = false := getLast?_trimEnd (by rw [hlast]; simp)
    have hp : p.steps = counted before ++ [last] := by
      rw [steps_eq_anchored, ← counted_trimEnd, hlast, List.concat_eq_append, counted_append,
        counted_cons hcounts, counted_nil]
    obtain ⟨c, hc⟩ : ∃ c, Component.ofSegment? last = some c := by
      rw [← Option.ne_none_iff_exists', ne_eq, ofSegment?_eq_none_iff, hcounts]
      exact Bool.false_ne_true
    rw [components_eq, anchor_ofSegments (prefix_trimmed _), hsteps, components_eq p, hp,
      List.dropLast_concat, List.filterMap_append, List.filterMap_cons_some hc, List.filterMap_nil,
      ← List.append_assoc, List.dropLast_concat]

/-! ### Taking off a base -/

theorem dropNames_zero (segments : List String) : dropNames 0 segments = segments := by
  rw [dropNames]

theorem trimStart_dropNames (before after : List String) :
    trimStart (dropNames (counted before).length (before ++ after)) = trimStart after := by
  induction before with
  | nil => rw [counted_nil, List.length_nil, dropNames_zero, List.nil_append]
  | cons segment before ih =>
    cases hfiller : isFiller segment with
    | false =>
      rw [counted_cons hfiller, List.length_cons, List.cons_append, dropNames, hfiller,
        if_neg Bool.false_ne_true]
      exact ih
    | true =>
      rw [counted_cons_of_filler hfiller, List.cons_append]
      cases hlength : (counted before).length with
      | zero =>
        rw [hlength, dropNames_zero] at ih
        rw [dropNames_zero, trimStart, List.dropWhile_cons_of_pos hfiller]
        exact ih
      | succ n =>
        rw [hlength] at ih
        rw [dropNames, if_pos hfiller]
        exact ih

theorem eq_empty_of_components (h : p.components = []) : p = ⟨""⟩ := by
  have hlength := p.length_components
  rw [h, List.length_nil, eq_comm, Nat.add_eq_zero_iff, List.length_eq_zero_iff,
    List.length_eq_zero_iff] at hlength
  obtain ⟨hanchor, hsteps⟩ := hlength
  -- without a step each segment is filler, and filler at the front would be the anchor
  obtain ⟨first, rest, hp⟩ := List.exists_cons_of_ne_nil p.segments_ne_nil
  have hfirst : isFiller first = true := by
    cases hcounts : isFiller first with
    | true => rfl
    | false =>
      rw [steps, hp, counted_cons hcounts] at hsteps
      exact absurd hsteps (List.cons_ne_nil _ _)
  rw [isFiller, Bool.or_eq_true, beq_iff_eq, beq_iff_eq] at hfirst
  rcases hfirst with rfl | rfl
  · cases rest with
    | nil => exact congrArg Path.mk (segments_eq_empty_iff.mp hp)
    | cons second rest =>
      rw [anchored_of_top hp] at hanchor
      exact absurd hanchor (List.cons_ne_nil _ _)
  · rw [anchored_of_here hp] at hanchor
    exact absurd hanchor (List.cons_ne_nil _ _)

/-- A path that begins and ends in a segment that counts is what is left when the base that it was
joined to is taken off. -/
theorem stripBase?_join (p : Path) (h : q.anchored.1 = .unsaid)
    (hstart : trimStart q.segments = q.segments) (hend : trimEnd q.segments = q.segments) :
    stripBase? p (p.join q) = some q := by
  obtain ⟨before, hjoin, hcounted⟩ := anchored_join p h
  have hq : ofSegments .unsaid q.segments = q := by
    rw [← h, ← anchored_of_unsaid h, ofSegments_anchored]
  rw [stripBase?, if_pos (by rw [components_join p h]; simp)]
  cases hlength : p.components.length with
  | zero =>
    obtain rfl := eq_empty_of_components (List.eq_nil_of_length_eq_zero hlength)
    show some (ofSegments _ _) = some q
    rw [empty_join, h, anchored_of_unsaid h, hend, hq]
  | succ n =>
    have hnamed : n + 1 - (p.join q).anchored.1.components.length = (counted before).length := by
      rw [← hlength, length_components, hjoin, hcounted, Nat.add_sub_cancel_left]
    simp only [hnamed]
    rw [hjoin, trimStart_dropNames, hstart, hend, hq]

end Stencil.Path
