import Stencil.Path

/-! The steps of a path: its segments without those that lead nowhere. Joining paths appends steps,
and the parent of a path has all of them but the last. -/

namespace Stencil

namespace Text

theorem fields_eq_splitOn (sep : Char) (cs : List Char) : fields sep cs = cs.splitOn sep := by
  induction cs with
  | nil => rfl
  | cons c cs ih =>
    rw [fields, List.splitOn_cons_eq_if_modifyHead, ih]
    by_cases h : c = sep
    · simp [h]
    · have hne := List.splitOn_ne_nil sep cs
      cases hf : cs.splitOn sep with
      | nil => exact absurd hf hne
      | cons f fs => simp [h]

theorem not_mem_of_mem_fields {sep : Char} {cs f : List Char} (h : f ∈ fields sep cs) :
    sep ∉ f := by
  induction cs generalizing f with
  | nil => simp_all [fields]
  | cons c cs ih =>
    rw [fields] at h
    split at h
    · rcases List.mem_cons.mp h with rfl | h
      · simp
      · exact ih h
    · rename_i hc
      split at h
      · rw [List.mem_singleton.mp h]
        simp [Ne.symm hc]
      · rename_i f' fs hf
        rcases List.mem_cons.mp h with rfl | h
        · have hf' := ih (hf ▸ List.mem_cons_self)
          simp [Ne.symm hc, hf']
        · exact ih (hf ▸ List.mem_cons_of_mem _ h)

end Text

namespace Path

/-- The segments that lead somewhere. -/
def counted (segments : List String) : List String :=
  segments.filter (!isFiller ·)

theorem counted_cons_of_filler {segment : String} (h : isFiller segment = true)
    (rest : List String) : counted (segment :: rest) = counted rest :=
  List.filter_cons_of_neg (by simp [h])

theorem counted_cons {segment : String} (h : isFiller segment = false) (rest : List String) :
    counted (segment :: rest) = segment :: counted rest :=
  List.filter_cons_of_pos (by simp [h])

theorem counted_append (as bs : List String) : counted (as ++ bs) = counted as ++ counted bs :=
  List.filter_append ..

@[simp]
theorem counted_nil : counted [] = [] := rfl

@[simp]
theorem counted_empty : counted [""] = [] := rfl

def steps (p : Path) : List String :=
  counted p.segments

/-! ### Segments and the texts that they make up -/

theorem segments_ne_nil (p : Path) : p.segments ≠ [] := by
  simp [segments, Text.fields_ne_nil]

theorem not_slash_of_mem_segments {p : Path} {segment : String} (h : segment ∈ p.segments) :
    '/' ∉ segment.toList := by
  obtain ⟨f, hf, rfl⟩ := List.mem_map.mp h
  rw [String.toList_ofList]
  exact Text.not_mem_of_mem_fields hf

theorem segments_intercalate {segments : List String} (hne : segments ≠ [])
    (h : ∀ segment ∈ segments, '/' ∉ segment.toList) :
    (Path.mk ("/".intercalate segments)).segments = segments := by
  have hlists : ∀ cs ∈ segments.map String.toList, '/' ∉ cs := by
    intro cs hcs
    obtain ⟨segment, hmem, rfl⟩ := List.mem_map.mp hcs
    exact h segment hmem
  have htext : ("/".intercalate segments).toList =
      ['/'].intercalate (segments.map String.toList) := String.toList_intercalate
  rw [Path.segments, Text.fields_eq_splitOn, htext,
    List.splitOn_intercalate '/' hlists (by simpa using hne)]
  simp [Function.comp_def]

theorem segments_of_not_slash {name : String} (h : '/' ∉ name.toList) :
    (Path.mk name).segments = [name] := by
  have hname := segments_intercalate (List.cons_ne_nil name [])
    fun segment hmem => List.mem_singleton.mp hmem ▸ h
  rwa [String.intercalate_singleton] at hname

theorem text_eq (p : Path) : p.text = "/".intercalate p.segments := by
  apply String.toList_injective
  rw [String.toList_intercalate, segments, List.map_map, Function.comp_def]
  simp only [String.toList_ofList, List.map_id']
  exact (Text.intercalate_fields '/' p.text.toList).symm

theorem segments_append_slash (a b : String) :
    (Path.mk (a ++ "/" ++ b)).segments = (Path.mk a).segments ++ (Path.mk b).segments := by
  have htext : (a ++ "/" ++ b).toList = a.toList ++ '/' :: b.toList := by
    simp [String.toList_append]
  simp only [segments, Text.fields_eq_splitOn, htext, List.splitOn_append_cons_self,
    List.map_append]

theorem segments_empty : (Path.mk "").segments = [""] := by
  simp [segments, Text.fields]

theorem segments_eq_empty_iff {p : Path} : p.segments = [""] ↔ p.text = "" := by
  constructor
  · intro h
    rw [text_eq, h, String.intercalate_singleton]
  · intro h
    rw [show p = ⟨""⟩ from congrArg Path.mk h, segments_empty]

theorem segments_of_slash {p : Path} {a : String} (h : p.text = a ++ "/") :
    p.segments = (Path.mk a).segments ++ [""] := by
  have hslash := segments_append_slash a ""
  rwa [String.append_empty, ← h, segments_empty] at hslash

theorem isAbsolute_iff {p : Path} :
    p.isAbsolute = true ↔ ∃ segment rest, p.segments = "" :: segment :: rest := by
  unfold isAbsolute segments
  cases p.text.toList with
  | nil => simp [Text.fields]
  | cons c cs =>
    have hne := Text.fields_ne_nil '/' cs
    rw [Text.fields]
    by_cases hc : c = '/'
    · cases hf : Text.fields '/' cs with
      | nil => exact absurd hf hne
      | cons f fs => simp [hc]
    · cases hf : Text.fields '/' cs with
      | nil => exact absurd hf hne
      | cons f fs => simp [hc, String.ofList_eq_empty_iff]

/-! ### Joined paths -/

theorem join_of_isAbsolute {p q : Path} (h : q.isAbsolute = true) : p.join q = q := by
  rw [join, if_pos h]

theorem join_cases (p : Path) {q : Path} (h : q.isAbsolute = false) :
    (p.text = "" ∧ p.join q = q) ∨
      (∃ a, p.text = a ++ "/" ∧ p.join q = ⟨a ++ "/" ++ q.text⟩) ∨
      (p.text ≠ "" ∧ p.join q = ⟨p.text ++ "/" ++ q.text⟩) := by
  rw [join, if_neg (by simp [h])]
  split
  · rename_i hlast
    have htext : p.text = "" := by simpa using hlast
    exact .inl ⟨htext, by rw [htext, String.empty_append]⟩
  · rename_i hlast
    obtain ⟨cs, hcs⟩ := List.getLast?_eq_some_iff.mp hlast
    have htext : p.text = String.ofList cs ++ "/" := by
      apply String.toList_injective
      simp [hcs, String.toList_append]
    exact .inr (.inl ⟨String.ofList cs, htext, by rw [htext]⟩)
  · rename_i c hlast
    refine .inr (.inr ⟨?_, rfl⟩)
    intro htext
    simp [htext] at hlast

theorem steps_join {p q : Path} (h : q.isAbsolute = false) :
    (p.join q).steps = p.steps ++ q.steps := by
  rcases join_cases p h with ⟨htext, hjoin⟩ | ⟨a, htext, hjoin⟩ | ⟨-, hjoin⟩
  · rw [hjoin, steps, steps, segments_eq_empty_iff.mpr htext, counted_empty, List.nil_append]
  · rw [hjoin, steps, segments_append_slash, counted_append, steps, segments_of_slash htext,
      counted_append, counted_empty, List.append_nil, steps]
  · rw [hjoin, steps, segments_append_slash, counted_append, steps, steps]

theorem isAbsolute_join {p q : Path} (h : q.isAbsolute = false) :
    (p.join q).isAbsolute = p.isAbsolute := by
  rcases join_cases p h with ⟨htext, hjoin⟩ | ⟨a, htext, hjoin⟩ | ⟨htext, hjoin⟩
  · rw [hjoin, h, isAbsolute, htext]
    rfl
  · rw [hjoin, isAbsolute, isAbsolute, htext]
    cases ha : a.toList <;> simp [String.toList_append, ha]
  · rw [hjoin, isAbsolute, isAbsolute]
    cases ha : p.text.toList with
    | nil => exact absurd (String.toList_eq_nil_iff.mp ha) htext
    | cons c cs => simp [String.toList_append, ha]

theorem mem_steps_join {p q : Path} {step : String} (h : step ∈ (p.join q).steps) :
    step ∈ p.steps ∨ step ∈ q.steps := by
  cases hq : q.isAbsolute with
  | true =>
    rw [join_of_isAbsolute hq] at h
    exact .inr h
  | false =>
    rw [steps_join hq] at h
    exact List.mem_append.mp h

/-! ### The parent of a path -/

theorem counted_dropWhile {p : String → Bool}
    (h : ∀ segment, p segment = true → isFiller segment = true) (segments : List String) :
    counted (segments.dropWhile p) = counted segments := by
  induction segments with
  | nil => rfl
  | cons segment rest ih =>
    rw [List.dropWhile_cons]
    split
    · rename_i hdropped
      rw [counted_cons_of_filler (h segment hdropped)]
      exact ih
    · rfl

theorem counted_reverse (segments : List String) :
    counted segments.reverse = (counted segments).reverse :=
  List.filter_reverse

theorem counted_trimEnd (segments : List String) :
    counted (trimEnd segments) = counted segments := by
  rw [trimEnd, trimStart, counted_reverse, counted_dropWhile (fun _ => id), counted_reverse,
    List.reverse_reverse]

theorem prefix_trimEnd (segments : List String) : trimEnd segments <+: segments := by
  have h := (List.dropWhile_suffix isFiller (l := segments.reverse)).reverse
  rwa [List.reverse_reverse] at h

theorem getLast?_trimEnd {segments : List String} {segment : String}
    (h : (trimEnd segments).getLast? = some segment) : isFiller segment = false := by
  rw [trimEnd, List.getLast?_reverse, trimStart] at h
  have hhead := List.head?_dropWhile_not isFiller segments.reverse
  rw [h] at hhead
  simpa using hhead

theorem steps_eq_anchored (p : Path) : p.steps = counted p.anchored.2 := by
  rw [steps, anchored]
  split
  · rename_i segment rest h
    rw [h, counted_cons_of_filler (by decide)]
  · rename_i rest h
    rw [h, counted_cons_of_filler (by decide)]
  · rfl

theorem anchored_suffix (p : Path) : p.anchored.2 <:+ p.segments := by
  rw [anchored]
  split
  · rename_i segment rest h
    exact h ▸ List.suffix_cons "" (segment :: rest)
  · rename_i rest h
    exact h ▸ List.suffix_cons "." rest
  · exact List.suffix_refl _

theorem anchored_eq_top_iff {p : Path} : p.anchored.1 = .top ↔ p.isAbsolute = true := by
  rw [isAbsolute_iff, anchored]
  split
  · rename_i segment rest h
    simp [h]
  · rename_i h
    simp [h]
  · rename_i h _
    simp only [reduceCtorEq, false_iff, not_exists]
    exact h

theorem anchored_of_unsaid {p : Path} (h : p.anchored.1 = .unsaid) : p.anchored.2 = p.segments := by
  rw [anchored] at h ⊢
  split at h
  · contradiction
  · contradiction
  · rfl

/-- A path that goes on from another begins as that other does. -/
theorem anchored_of_segments {p q : Path} {more : List String}
    (h : q.segments = p.segments ++ more) (hne : p.segments ≠ [""]) :
    q.anchored = (p.anchored.1, p.anchored.2 ++ more) := by
  rw [anchored, anchored, h]
  rcases hp : p.segments with _ | ⟨first, _ | ⟨second, rest⟩⟩
  · exact absurd hp p.segments_ne_nil
  · rw [hp] at hne
    have hfirst : first ≠ "" := fun heq => hne (by rw [heq])
    by_cases hdot : first = "."
    · simp [hdot]
    · simp [hfirst, hdot]
  · by_cases hfirst : first = ""
    · simp [hfirst]
    · by_cases hdot : first = "."
      · simp [hdot]
      · simp [hfirst, hdot]

theorem anchored_empty : (Path.mk "").anchored = (.unsaid, [""]) := by
  rw [anchored, segments_empty]
  rfl

theorem anchored_of_top {p : Path} {segment : String} {rest : List String}
    (h : p.segments = "" :: segment :: rest) : p.anchored = (.top, segment :: rest) := by
  simp [anchored, h]

theorem anchored_of_here {p : Path} {rest : List String} (h : p.segments = "." :: rest) :
    p.anchored = (.here, rest) := by
  simp [anchored, h]

theorem segments_intercalate_or (segments : List String)
    (h : ∀ segment ∈ segments, '/' ∉ segment.toList) :
    (Path.mk ("/".intercalate segments)).segments = if segments = [] then [""] else segments := by
  split
  · rename_i hnil
    rw [hnil, String.intercalate_nil, segments_empty]
  · rename_i hne
    exact segments_intercalate hne h

theorem segments_ofSegments (anchor : Anchor) {segments : List String}
    (h : ∀ segment ∈ segments, '/' ∉ segment.toList) :
    (ofSegments anchor segments).segments =
      match anchor with
      | .top => "" :: if segments = [] then [""] else segments
      | .here => "." :: segments
      | .unsaid => if segments = [] then [""] else segments := by
  cases anchor with
  | top =>
    have htext : ofSegments .top segments = ⟨"" ++ "/" ++ "/".intercalate segments⟩ := by
      simp [ofSegments]
    rw [htext, segments_append_slash, segments_empty, segments_intercalate_or segments h]
    rfl
  | here =>
    refine segments_intercalate (List.cons_ne_nil _ _) fun segment hmem => ?_
    rcases List.mem_cons.mp hmem with rfl | hmem
    · decide
    · exact h segment hmem
  | unsaid => exact segments_intercalate_or segments h

theorem steps_ofSegments (anchor : Anchor) {segments : List String}
    (h : ∀ segment ∈ segments, '/' ∉ segment.toList) :
    (ofSegments anchor segments).steps = counted segments := by
  have hinner : counted (if segments = [] then [""] else segments) = counted segments := by
    split
    · rename_i hnil
      rw [hnil]
      rfl
    · rfl
  rw [steps, segments_ofSegments anchor h]
  cases anchor with
  | top => rw [counted_cons_of_filler (by decide), hinner]
  | here => rw [counted_cons_of_filler (by decide)]
  | unsaid => exact hinner

/-- The parent of a path is empty, or it is what remains when the last step is left out. -/
theorem parent?_eq_some {p q : Path} (h : p.parent? = some q) :
    (p.anchored.1 = .here ∧ trimEnd p.anchored.2 = [] ∧ q = ⟨""⟩) ∨
      (trimEnd p.anchored.2 ≠ [] ∧
        q = ofSegments p.anchored.1 (trimEnd (trimEnd p.anchored.2).dropLast)) := by
  rw [parent?] at h
  cases hsegments : trimEnd p.anchored.2 with
  | nil =>
    rw [hsegments] at h
    cases hanchor : p.anchored.1 <;> rw [hanchor] at h
    · contradiction
    · exact .inl ⟨rfl, rfl, (Option.some.inj h).symm⟩
    · contradiction
  | cons segment rest =>
    rw [hsegments] at h
    refine .inr ⟨List.cons_ne_nil _ _, ?_⟩
    cases hanchor : p.anchored.1 <;> rw [hanchor] at h <;> exact (Option.some.inj h).symm

theorem prefix_trimmed (segments : List String) :
    trimEnd (trimEnd segments).dropLast <+: segments :=
  (prefix_trimEnd _).trans ((List.dropLast_prefix _).trans (prefix_trimEnd _))

theorem not_slash_of_mem_trimmed {p : Path} {segment : String}
    (h : segment ∈ trimEnd (trimEnd p.anchored.2).dropLast) : '/' ∉ segment.toList :=
  not_slash_of_mem_segments (p.anchored_suffix.mem ((prefix_trimmed _).mem h))

theorem steps_of_parent {p q : Path} (h : p.parent? = some q) : q.steps = p.steps.dropLast := by
  have hsteps : p.steps = counted (trimEnd p.anchored.2) := by
    rw [counted_trimEnd, steps_eq_anchored]
  rcases parent?_eq_some h with ⟨-, hnil, rfl⟩ | ⟨hne, rfl⟩
  · rw [hsteps, hnil, steps, segments_empty]
    rfl
  · rw [steps_ofSegments _ fun _ hmem => not_slash_of_mem_trimmed hmem, counted_trimEnd, hsteps]
    -- the last segment counts, so leaving it out leaves out one step
    obtain ⟨front, last, hlast⟩ := (List.eq_nil_or_concat _).resolve_left hne
    have hcounts : isFiller last = false := getLast?_trimEnd (by rw [hlast]; simp)
    rw [hlast, List.concat_eq_append, List.dropLast_concat, counted_append, counted_cons hcounts]
    exact List.dropLast_concat.symm

theorem steps_of_no_parent {p : Path} (h : p.parent? = none) : p.steps = [] := by
  rw [parent?] at h
  rw [steps_eq_anchored, ← counted_trimEnd]
  cases hsegments : trimEnd p.anchored.2 with
  | nil => rfl
  | cons segment rest =>
    rw [hsegments] at h
    cases hanchor : p.anchored.1 <;> rw [hanchor] at h <;> contradiction

/-- Leaving out segments at the end leaves the front of a path as it is. -/
theorem anchor_ofSegments {p : Path} {front : List String} (h : front <+: p.anchored.2) :
    (ofSegments p.anchored.1 front).anchored.1 = p.anchored.1 := by
  have hslash : ∀ segment ∈ front, '/' ∉ segment.toList := fun segment hmem =>
    not_slash_of_mem_segments (p.anchored_suffix.mem (h.mem hmem))
  have hsegments := segments_ofSegments p.anchored.1 hslash
  cases hanchor : p.anchored.1 with
  | top =>
    rw [hanchor] at hsegments
    cases front with
    | nil => rw [anchored_of_top hsegments]
    | cons segment rest => rw [anchored_of_top hsegments]
  | here =>
    rw [hanchor] at hsegments
    rw [anchored_of_here hsegments]
  | unsaid =>
    rw [hanchor] at hsegments
    by_cases hnil : front = []
    · rw [hnil]
      exact congrArg Prod.fst anchored_empty
    · by_cases hempty : front = [""]
      · rw [hempty]
        exact congrArg Prod.fst anchored_empty
      · -- the whole path begins as what is left of it does
        have hfront : (ofSegments .unsaid front).segments = front := hsegments.trans (if_neg hnil)
        obtain ⟨more, hmore⟩ := h
        rw [anchored_of_unsaid hanchor, ← hfront] at hmore
        have hwhole := anchored_of_segments hmore.symm (by rwa [hfront])
        exact (congrArg Prod.fst hwhole).symm.trans hanchor

theorem isAbsolute_of_parent {p q : Path} (h : p.parent? = some q) :
    q.isAbsolute = p.isAbsolute := by
  rw [Bool.eq_iff_iff, ← anchored_eq_top_iff, ← anchored_eq_top_iff]
  rcases parent?_eq_some h with ⟨hanchor, -, rfl⟩ | ⟨-, rfl⟩
  · simp [hanchor, anchored_empty]
  · rw [anchor_ofSegments (prefix_trimmed _)]

/-- A parent other than the empty path, the top and `.` ends in a step. -/
theorem segments_of_parent {p q : Path} (h : p.parent? = some q) :
    q.segments = [""] ∨ q.segments = ["", ""] ∨ q.segments = ["."] ∨
      ∃ front last, q.segments = front ++ [last] ∧ isFiller last = false := by
  rcases parent?_eq_some h with ⟨-, -, rfl⟩ | ⟨-, rfl⟩
  · exact .inl segments_empty
  · rw [segments_ofSegments _ fun _ hmem => not_slash_of_mem_trimmed hmem]
    rcases List.eq_nil_or_concat (trimEnd (trimEnd p.anchored.2).dropLast) with
      hnil | ⟨front, last, hlast⟩
    · rw [hnil]
      cases p.anchored.1 <;> simp
    · have hcounts : isFiller last = false := getLast?_trimEnd (by rw [hlast]; simp)
      rw [hlast]
      refine .inr (.inr (.inr ?_))
      cases p.anchored.1 with
      | top => exact ⟨"" :: front, last, by simp, hcounts⟩
      | here => exact ⟨"." :: front, last, by simp, hcounts⟩
      | unsaid => exact ⟨front, last, by simp, hcounts⟩

end Path

end Stencil
