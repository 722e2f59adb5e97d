import Stencil.Proofs.Execution.Install

/-! The installing of files one after the other. How far a run comes, and which directories it makes
on its way, depends on the paths of the files and on the kinds of what is there; and a second run
over the same paths comes exactly as far as the first and changes no kind. -/

namespace Stencil.PlannedFile

variable {f : PlannedFile} {fs gs : List PlannedFile} {s t : Store}

/-- How many files are installed before the first refusal. -/
def progress : List PlannedFile → Store → Nat
  | [], _ => 0
  | f :: rest, s =>
    if (f.install s).result.isOk then progress rest (f.install s).store + 1 else 0

/-! ### One step of a run -/

theorem progress_cons_of_isOk (h : (f.install s).result.isOk = true) :
    progress (f :: fs) s = progress fs (f.install s).store + 1 := by
  rw [progress, if_pos h]

theorem progress_cons_of_not_isOk (h : (f.install s).result.isOk = false) :
    progress (f :: fs) s = 0 := by
  rw [progress, h, if_neg Bool.false_ne_true]

theorem installAll_cons_of_isOk (h : (f.install s).result.isOk = true) :
    (installAll (f :: fs) s).store = (installAll fs (f.install s).store).store ∧
      (installAll (f :: fs) s).result.isOk = (installAll fs (f.install s).store).result.isOk := by
  obtain ⟨entry, hentry⟩ := exists_of_isOk h
  rw [installAll, Outcome.andThen_of_ok hentry]
  refine ⟨rfl, ?_⟩
  show (Except.map _ (installAll fs (f.install s).store).result).isOk = _
  cases (installAll fs (f.install s).store).result <;> rfl

theorem installAll_cons_of_not_isOk (h : (f.install s).result.isOk = false) :
    (installAll (f :: fs) s).store = (f.install s).store ∧
      (installAll (f :: fs) s).result.isOk = false := by
  obtain ⟨e, he⟩ := exists_of_not_isOk h
  rw [installAll, Outcome.andThen_of_error he]
  exact ⟨rfl, rfl⟩

theorem isOk_of_installAll_cons (h : (installAll (f :: fs) s).result.isOk = true) :
    (f.install s).result.isOk = true ∧
      (installAll fs (f.install s).store).result.isOk = true := by
  cases hf : (f.install s).result.isOk with
  | false =>
    rw [(installAll_cons_of_not_isOk hf).2] at h
    contradiction
  | true => exact ⟨rfl, (installAll_cons_of_isOk hf).2 ▸ h⟩

theorem isOk_installAll_iff :
    (installAll fs s).result.isOk = true ↔ progress fs s = fs.length := by
  induction fs generalizing s with
  | nil => exact ⟨fun _ => rfl, fun _ => rfl⟩
  | cons f rest ih =>
    cases hf : (f.install s).result.isOk with
    | false => simp [(installAll_cons_of_not_isOk hf).2, progress_cons_of_not_isOk hf]
    | true => simp [(installAll_cons_of_isOk hf).2, progress_cons_of_isOk hf, ih]

/-! ### Whole runs -/

theorem growsTo_installAll (fs : List PlannedFile) (s : Store) :
    s.GrowsTo (installAll fs s).store := by
  induction fs generalizing s with
  | nil => exact .refl s
  | cons f rest ih =>
    have hstep := growsTo_install f s
    cases hf : (f.install s).result.isOk with
    | false =>
      rw [(installAll_cons_of_not_isOk hf).1]
      exact hstep
    | true =>
      rw [(installAll_cons_of_isOk hf).1]
      exact hstep.trans (ih _)

/-- Runs over the same paths in stores of the same kinds come equally far and make the same. -/
theorem installAll_alike (h : s.Alike t) (hpaths : fs.map path = gs.map path) :
    (installAll fs s).store.Alike (installAll gs t).store ∧ progress fs s = progress gs t := by
  induction fs generalizing gs s t with
  | nil =>
    obtain rfl : gs = [] := by simpa using hpaths.symm
    exact ⟨h, rfl⟩
  | cons f rest ih =>
    cases gs with
    | nil => simp at hpaths
    | cons g gs =>
      simp only [List.map_cons, List.cons.injEq] at hpaths
      obtain ⟨hpath, hrest⟩ := hpaths
      -- the first step decides alike in both, and leaves stores of the same kinds again
      obtain ⟨hstore, hok⟩ := install_alike h hpath
      cases hf : (f.install s).result.isOk with
      | false =>
        have hg : (g.install t).result.isOk = false := hok ▸ hf
        rw [(installAll_cons_of_not_isOk hf).1, (installAll_cons_of_not_isOk hg).1,
          progress_cons_of_not_isOk hf, progress_cons_of_not_isOk hg]
        exact ⟨hstore, rfl⟩
      | true =>
        have hg : (g.install t).result.isOk = true := hok ▸ hf
        obtain ⟨hstores, hprogress⟩ := ih hstore hrest
        rw [(installAll_cons_of_isOk hf).1, (installAll_cons_of_isOk hg).1,
          progress_cons_of_isOk hf, progress_cons_of_isOk hg, hprogress]
        exact ⟨hstores, rfl⟩

theorem installAll_again (s : Store) (hpaths : fs.map path = gs.map path) :
    (installAll fs s).store.Alike (installAll gs (installAll fs s).store).store ∧
      progress gs (installAll fs s).store = progress fs s := by
  induction fs generalizing gs s with
  | nil =>
    obtain rfl : gs = [] := by simpa using hpaths.symm
    exact ⟨.refl s, rfl⟩
  | cons f rest ih =>
    cases gs with
    | nil => simp at hpaths
    | cons g gs =>
      simp only [List.map_cons, List.cons.injEq] at hpaths
      obtain ⟨hpath, hrest⟩ := hpaths
      cases hf : (f.install s).result.isOk with
      | false =>
        obtain ⟨hfails, hsame⟩ := install_again_of_not_isOk hf hpath
        rw [(installAll_cons_of_not_isOk hf).1, (installAll_cons_of_not_isOk hfails).1, hsame,
          progress_cons_of_not_isOk hf, progress_cons_of_not_isOk hfails]
        exact ⟨.refl _, rfl⟩
      | true =>
        -- the step is taken in the store that the whole first run has left
        rw [(installAll_cons_of_isOk hf).1, progress_cons_of_isOk hf]
        obtain ⟨hok, halike⟩ := install_again hf (growsTo_installAll rest _) hpath
        obtain ⟨hrun, hprogress⟩ := ih (f.install s).store hrest
        obtain ⟨hstores, hsame⟩ := installAll_alike halike (Eq.refl (gs.map path))
        rw [(installAll_cons_of_isOk hok).1, progress_cons_of_isOk hok, ← hsame, hprogress]
        exact ⟨hrun.trans hstores, rfl⟩

theorem installAll_eq_error {e : Failure} (h : (installAll fs s).result = .error e) :
    ∃ operation path fault, e = .refused operation path fault := by
  induction fs generalizing s with
  | nil => contradiction
  | cons f rest ih =>
    rcases Outcome.andThen_eq_error h with ⟨hf, -⟩ | ⟨_, _, hrest, -⟩
    · rcases (install_eq_error hf).2 with ⟨q, fault, -, rfl⟩ | ⟨fault, rfl⟩ | ⟨fault, rfl⟩
      · exact ⟨_, _, _, rfl⟩
      · exact ⟨_, _, _, rfl⟩
      · exact ⟨_, _, _, rfl⟩
    · exact ih (Outcome.map_eq_error.mp hrest)

end Stencil.PlannedFile
