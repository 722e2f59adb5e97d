import Stencil.Proofs.Store.Place
import Stencil.Plan

/-! Where a layout puts things. Under a layout whose parts lead down only, the source and the test
stub of a target lead down too, and they never share a place: whatever their directories are, the
names of the two files differ. -/

namespace Stencil

namespace Text

theorem fields_append_of_not_mem {sep : Char} {before cs f : List Char} {fs : List (List Char)}
    (h : sep ∉ before) (hcs : fields sep cs = f :: fs) :
    fields sep (before ++ cs) = (before ++ f) :: fs := by
  induction before with
  | nil => exact hcs
  | cons c before ih =>
    obtain ⟨hc, hbefore⟩ : sep ≠ c ∧ sep ∉ before := by simpa using h
    rw [List.cons_append, fields, if_neg (Ne.symm hc), ih hbefore]
    rfl

end Text

namespace Path

theorem segments_append {a b head : String} {tail : List String} (ha : '/' ∉ a.toList)
    (hb : (Path.mk b).segments = head :: tail) :
    (Path.mk (a ++ b)).segments = (a ++ head) :: tail := by
  obtain ⟨f, fs, hfields, rfl, rfl⟩ := List.map_eq_cons_iff.mp hb
  rw [segments, String.toList_append, Text.fields_append_of_not_mem ha hfields, List.map_cons,
    String.ofList_append, String.ofList_toList]

end Path

theorem Store.placeOf_join {p q : Path} (h : q.isAbsolute = false) (s : Store) :
    s.placeOf (p.join q) = s.placeOf p ++ q.steps := by
  rw [placeOf, placeOf, start, start, Path.isAbsolute_join h, Path.steps_join h, List.append_assoc]

/-! ### The names of the files -/

/-- What the name of a file begins with: the target, or the target and the suffix of test stubs. -/
def IsStem (stem : String) : Prop :=
  stem ≠ "" ∧ stem.toList.all isSnakeChar = true

theorem isStem_of_isTarget {target : String} (h : isTarget target = true) : IsStem target := by
  rw [isTarget, Bool.and_eq_true] at h
  refine ⟨?_, h.1⟩
  rintro rfl
  exact absurd h.2 (by decide)

theorem isStem_append {stem : String} (h : IsStem stem) (layout : Layout) :
    IsStem (stem ++ layout.testSuffix) := by
  refine ⟨fun hempty => h.1 ?_, ?_⟩
  · simp [String.append_eq_empty_iff] at hempty
    exact hempty.1
  · rw [String.toList_append, List.all_append, h.2, Layout.testSuffix]
    decide

namespace IsStem

variable {stem ext head : String} {tail : List String}

theorem first (h : IsStem stem) (after : String) :
    ∃ c cs, (stem ++ after).toList = c :: cs ∧ isSnakeChar c = true := by
  obtain ⟨c, cs, hstem⟩ := List.exists_cons_of_ne_nil (mt String.toList_eq_nil_iff.mp h.1)
  refine ⟨c, cs ++ after.toList, by rw [String.toList_append, hstem, List.cons_append], ?_⟩
  exact List.all_eq_true.mp h.2 c (hstem ▸ List.mem_cons_self)

theorem append_ne (h : IsStem stem) (after : String) {name : String}
    (hname : name.toList.head?.any isSnakeChar = false) : stem ++ after ≠ name := by
  obtain ⟨c, cs, hlist, hc⟩ := h.first after
  rintro rfl
  rw [hlist] at hname
  exact absurd hc (by simpa using hname)

theorem not_slash (h : IsStem stem) : '/' ∉ (stem ++ ".").toList := by
  rw [String.toList_append, List.mem_append]
  refine not_or.mpr ⟨fun hmem => ?_, by decide⟩
  exact absurd (List.all_eq_true.mp h.2 '/' hmem) (by decide)

theorem isAbsolute (h : IsStem stem) (ext : String) :
    (Path.mk (stem ++ "." ++ ext)).isAbsolute = false := by
  obtain ⟨c, cs, hlist, hc⟩ := h.first ("." ++ ext)
  have hslash : c ≠ '/' := by
    rintro rfl
    exact absurd hc (by decide)
  rw [Path.isAbsolute, String.append_assoc, hlist]
  simp [hslash]

theorem counts (h : IsStem stem) (head : String) : Path.isFiller (stem ++ "." ++ head) = false := by
  rw [Path.isFiller, String.append_assoc]
  have hempty : stem ++ ("." ++ head) ≠ "" := h.append_ne _ (by decide)
  have hdot : stem ++ ("." ++ head) ≠ "." := h.append_ne _ (by decide)
  simp [hempty, hdot]

theorem steps (h : IsStem stem) (hext : (Path.mk ext).segments = head :: tail) :
    (Path.mk (stem ++ "." ++ ext)).steps = (stem ++ "." ++ head) :: Path.counted tail := by
  rw [Path.steps, Path.segments_append h.not_slash hext, Path.counted_cons (h.counts head)]

theorem not_up (h : IsStem stem) (hext : ".." ∉ (Path.mk ext).steps) :
    ".." ∉ (Path.mk (stem ++ "." ++ ext)).steps := by
  obtain ⟨head, tail, hsegments⟩ := List.exists_cons_of_ne_nil (Path.mk ext).segments_ne_nil
  rw [h.steps hsegments, List.mem_cons]
  rintro (hfirst | hmem)
  · rw [String.append_assoc] at hfirst
    exact h.append_ne _ (by decide) hfirst.symm
  · rw [Path.steps, hsegments, ← List.singleton_append, Path.counted_append] at hext
    exact hext (List.mem_append_right _ hmem)

end IsStem

/-! ### The paths of a layout -/

namespace Layout

/-- None of the parts of the layout goes up. -/
def Descends (layout : Layout) : Prop :=
  ∀ part ∈ [layout.root, layout.sourceDir, layout.testRoot, layout.testDir, ⟨layout.extension⟩],
    ".." ∉ part.steps

variable {layout : Layout} {target : String}

theorem descends_under {root : Path} (h : ".." ∉ root.steps) : (under root).Descends := by
  have hparts : ∀ part ∈ [Path.mk "app/mutations", ⟨"spec"⟩, ⟨"spec/mutations"⟩, ⟨"rs"⟩],
      ".." ∉ part.steps := by decide
  exact List.forall_mem_cons.mpr ⟨h, hparts⟩

theorem Descends.not_up_join {dir : Path} (h : layout.Descends)
    (hdir : dir ∈ [layout.sourceDir, layout.testRoot, layout.testDir, ⟨layout.extension⟩]) :
    ".." ∉ (layout.root.join dir).steps := by
  intro hmem
  rcases Path.mem_steps_join hmem with hroot | hin
  · exact h layout.root List.mem_cons_self hroot
  · exact h dir (List.mem_cons_of_mem _ hdir) hin

theorem Descends.not_up_sourcePath (h : layout.Descends) (ht : isTarget target = true) :
    ".." ∉ (layout.sourcePath target).steps := by
  intro hmem
  rcases Path.mem_steps_join hmem with hdir | hname
  · exact h.not_up_join (by simp) hdir
  · exact (isStem_of_isTarget ht).not_up (h _ (by simp)) hname

theorem Descends.not_up_testPath (h : layout.Descends) (ht : isTarget target = true) :
    ".." ∉ (layout.testPath target).steps := by
  intro hmem
  rcases Path.mem_steps_join hmem with hdir | hname
  · exact h.not_up_join (by simp) hdir
  · exact (isStem_append (isStem_of_isTarget ht) layout).not_up (h _ (by simp)) hname

/-- Files of different stems never share a place, whichever directories they are in. -/
theorem placeOf_ne_of_stem {stem other : String} (h : IsStem stem) (h' : IsStem other)
    (hne : stem.length ≠ other.length) (s : Store) (dir dir' : Path) (ext : String) :
    s.placeOf (dir.join ⟨stem ++ "." ++ ext⟩) ≠ s.placeOf (dir'.join ⟨other ++ "." ++ ext⟩) := by
  obtain ⟨head, tail, hext⟩ := List.exists_cons_of_ne_nil (Path.mk ext).segments_ne_nil
  rw [Store.placeOf_join (h.isAbsolute ext), Store.placeOf_join (h'.isAbsolute ext),
    h.steps hext, h'.steps hext]
  intro heq
  have hnames := (List.cons.inj (List.append_inj' heq (by simp)).2).1
  have hlength := congrArg String.length hnames
  simp only [String.length_append] at hlength
  omega

theorem placeOf_sourcePath_ne (layout : Layout) (ht : isTarget target = true) (s : Store) :
    s.placeOf (layout.sourcePath target) ≠ s.placeOf (layout.testPath target) := by
  have hstem := isStem_of_isTarget ht
  refine placeOf_ne_of_stem hstem (isStem_append hstem layout) ?_ s _ _ layout.extension
  rw [String.length_append, testSuffix]
  have hsuffix : "_spec".length = 5 := by decide
  omega

/-! ### The usual directories -/

theorem placeOf_under (root dir : Path) {stem : String} (hdir : dir.isAbsolute = false)
    (h : IsStem stem) (s : Store) :
    s.placeOf ((root.join dir).join ⟨stem ++ "." ++ "rs"⟩) =
      s.placeOf root ++ (dir.steps ++ [stem ++ "." ++ "rs"]) := by
  have hext : (Path.mk "rs").segments = ["rs"] := by decide
  have hname : (Path.mk (stem ++ "." ++ "rs")).steps = [stem ++ "." ++ "rs"] := h.steps hext
  rw [Store.placeOf_join (h.isAbsolute "rs"), Store.placeOf_join hdir, hname, List.append_assoc]

theorem placeOf_sourcePath_under (root : Path) (s : Store) (ht : isTarget target = true) :
    s.placeOf ((under root).sourcePath target) =
      s.placeOf root ++ ["app", "mutations", target ++ "." ++ "rs"] :=
  placeOf_under root ⟨"app/mutations"⟩ (by decide) (isStem_of_isTarget ht) s

theorem placeOf_testPath_under (root : Path) (s : Store) (ht : isTarget target = true) :
    s.placeOf ((under root).testPath target) =
      s.placeOf root ++ ["spec", "mutations", target ++ "_spec" ++ "." ++ "rs"] :=
  placeOf_under root ⟨"spec/mutations"⟩ (by decide)
    (isStem_append (isStem_of_isTarget ht) (under root)) s

theorem placeOf_testRoot_under (root : Path) (s : Store) :
    s.placeOf (root.join (under root).testRoot) = s.placeOf root ++ ["spec"] := by
  have hspec : (Path.mk "spec").isAbsolute = false := by decide
  exact Store.placeOf_join hspec s

end Layout

end Stencil
