import Mathlib.Data.List.Induction
import Stencil.Proofs.Store.Change

/-! Where a path leads when no step of it goes up: to the place that its steps spell out, whatever
the store holds. What is made on the way to that place lies on the way to it. -/

namespace Stencil.Store

variable {s t : Store} {here l k : Location}

/-- The place that a path names when none of its steps goes up. -/
def placeOf (s : Store) (p : Path) : Location :=
  s.start p ++ p.steps

theorem placeOf_congr (h : t.current = s.current) (p : Path) : t.placeOf p = s.placeOf p := by
  rw [placeOf, placeOf, start_congr h]

theorem placeOf_parent {p q : Path} (h : p.parent? = some q) :
    s.placeOf q = s.start p ++ p.steps.dropLast := by
  rw [placeOf, start, start, Path.isAbsolute_of_parent h, Path.steps_of_parent h]

theorem placeOf_parent_above {p q : Path} (h : p.parent? = some q) :
    s.placeOf q <+: s.placeOf p := by
  rw [placeOf_parent h, placeOf, List.prefix_append_right_inj]
  exact List.dropLast_prefix _

theorem ne_placeOf_of_parent {p q : Path} (h : p.parent? = some q) (hway : k <+: s.placeOf q)
    (hnone : s.get? k = none) : k ≠ s.placeOf p := by
  rintro rfl
  rw [placeOf_parent h, placeOf, List.prefix_append_right_inj] at hway
  have hlength := hway.length_le
  rw [List.length_dropLast] at hlength
  -- the way ends before the place of the path, unless that is where the path starts
  have hnil : p.steps = [] := List.eq_nil_iff_length_eq_zero.mpr (by omega)
  rw [placeOf, hnil, List.append_nil, get?_start] at hnone
  contradiction

theorem walk_end {segments : List String} (hup : ".." ∉ Path.counted segments)
    (h : s.walk here segments = .ok l) : l = here ++ Path.counted segments := by
  induction segments generalizing here with
  | nil => simpa using (Except.ok.inj h).symm
  | cons segment rest ih =>
    rw [walk_cons] at h
    split at h
    · contradiction
    · contradiction
    · by_cases hfiller : Path.isFiller segment = true
      · rw [if_pos hfiller] at h
        rw [Path.counted_cons_of_filler hfiller] at hup ⊢
        exact ih hup h
      · rw [if_neg hfiller] at h
        rw [Path.counted_cons (by simpa using hfiller)] at hup ⊢
        split_ifs at h with hgoes hlong
        · exact absurd hgoes.symm (List.ne_of_not_mem_cons hup)
        · rw [ih (List.not_mem_of_not_mem_cons hup) h, List.append_assoc, List.singleton_append]

theorem locate_eq_placeOf {p : Path} (hup : ".." ∉ p.steps) (h : s.locate p = .ok l) :
    l = s.placeOf p := by
  rw [locate] at h
  split at h
  · contradiction
  · exact walk_end hup h

theorem get?_makeAlong_off_way {made : Bool} {segments : List String}
    (hup : ".." ∉ Path.counted segments)
    (hoff : ¬ k <+: here ++ Path.counted segments) :
    (s.makeAlong here made segments).1.get? k = s.get? k := by
  induction segments generalizing s here made with
  | nil => rfl
  | cons segment rest ih =>
    rw [makeAlong_cons]
    by_cases hfiller : Path.isFiller segment = true
    · rw [if_pos hfiller]
      rw [Path.counted_cons_of_filler hfiller] at hup hoff
      exact ih hup hoff
    · rw [if_neg hfiller]
      rw [Path.counted_cons (by simpa using hfiller)] at hup hoff
      have hrest := List.not_mem_of_not_mem_cons hup
      rw [← List.singleton_append, ← List.append_assoc] at hoff
      split_ifs with hgoes hlong
      · exact absurd hgoes.symm (List.ne_of_not_mem_cons hup)
      · rfl
      · split
        · exact ih hrest hoff
        · rfl
        · rw [ih hrest hoff]
          by_cases hput : s.Placeable (here ++ [segment])
          · have hk : here ++ [segment] ≠ k := fun e => hoff (e ▸ List.prefix_append _ _)
            rw [get?_put hput, if_neg hk]
          · rw [put_of_not_placeable hput]

theorem get?_makeWay_off_way {p : Path} (hup : ".." ∉ p.steps)
    (hoff : ¬ k <+: s.placeOf p) : (s.makeWay p).1.get? k = s.get? k := by
  rw [makeWay]
  split
  · rfl
  · exact get?_makeAlong_off_way hup hoff

theorem get?_above {e : Entry} (h : s.get? l = some e) (hbelow : k <+: l) (hne : k ≠ l) :
    s.get? k = some .directory := by
  obtain ⟨rest, rfl⟩ := hbelow
  induction rest using List.reverseRecOn generalizing e with
  | nil => simp at hne
  | append_singleton front last ih =>
    have hparent := s.get?_dropLast (l := k ++ (front ++ [last])) (by simp) (by simp [h])
    rw [← List.append_assoc, List.dropLast_concat] at hparent
    by_cases hfront : k = k ++ front
    · rw [hfront]
      exact hparent
    · exact ih hparent hfront

/-- A walk that led to an entry of old leads to it in the store of old. -/
theorem GrowsTo.walk_back (hgrow : s.GrowsTo t) {segments : List String}
    (hup : ".." ∉ Path.counted segments) (h : t.walk here segments = .ok l)
    (hl : (s.get? l).isSome) : s.walk here segments = .ok l := by
  have hend := walk_end hup h
  induction segments generalizing here with
  | nil => exact h
  | cons segment rest ih =>
    rw [walk_cons] at h ⊢
    -- every location on the way is above an entry of old, so no kind has changed there
    have hhere : s.kind? here = t.kind? here := by
      obtain ⟨e, he⟩ := Option.isSome_iff_exists.mp hl
      have hsome : ∃ kind, s.kind? here = some kind := by
        by_cases heq : here = l
        · exact ⟨e.kind, by rw [kind?, heq, he]; rfl⟩
        · refine ⟨.directory, kind?_eq_directory_iff.mpr (get?_above he ?_ heq)⟩
          exact hend ▸ List.prefix_append _ _
      obtain ⟨kind, hkind⟩ := hsome
      rw [hkind, hgrow.kind hkind]
    rw [hhere]
    split at h
    · contradiction
    · contradiction
    · by_cases hfiller : Path.isFiller segment = true
      · rw [if_pos hfiller] at h ⊢
        rw [Path.counted_cons_of_filler hfiller] at hup hend
        exact ih hup h hend
      · rw [if_neg hfiller] at h ⊢
        rw [Path.counted_cons (by simpa using hfiller)] at hup hend
        split_ifs at h ⊢ with hgoes hlong
        · exact absurd hgoes.symm (List.ne_of_not_mem_cons hup)
        · refine ih (List.not_mem_of_not_mem_cons hup) h ?_
          rw [hend, List.append_assoc, List.singleton_append]

theorem GrowsTo.locate_back (hgrow : s.GrowsTo t) {p : Path} (hup : ".." ∉ p.steps)
    (h : t.locate p = .ok l) (hl : (s.get? l).isSome) : s.locate p = .ok l := by
  rw [Store.locate, hgrow.refusal?, hgrow.start] at h
  rw [Store.locate]
  split at h
  · contradiction
  · exact hgrow.walk_back hup h hl

end Stencil.Store
