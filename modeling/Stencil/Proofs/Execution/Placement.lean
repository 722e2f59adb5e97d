import Stencil.Proofs.Execution.Again

/-! What a plan that is carried out makes of a store. Its files are where their paths lead, each with
the contents last written there; nothing else is written and nothing is taken away; and carrying it
out once more changes nothing. -/

namespace Stencil

namespace PlannedFile

variable {fs : List PlannedFile} {s : Store}

/-- What a store `t` owes to files placed in `s`, and what it keeps of `s`. -/
structure Placed (fs : List PlannedFile) (s t : Store) : Prop where
  located : ∀ f ∈ fs, t.locate f.path = .ok (s.placeOf f.path)
  written : ∀ before f after, fs = before ++ f :: after →
    (∀ g ∈ after, s.placeOf g.path ≠ s.placeOf f.path) →
    t.get? (s.placeOf f.path) = some (.file f.contents)
  kept : ∀ k kind, s.kind? k = some kind → t.kind? k = some kind
  unwritten : ∀ k c, (∀ f ∈ fs, s.placeOf f.path ≠ k) →
    (t.get? k = some (.file c) ↔ s.get? k = some (.file c))
  opened : ∀ k, s.get? k = none → t.get? k = some .directory →
    ∃ f ∈ fs, k <+: s.placeOf f.path ∧ k ≠ s.placeOf f.path

theorem locate_installAll (hup : ∀ f ∈ fs, ".." ∉ f.path.steps)
    (hok : (installAll fs s).result.isOk = true) :
    ∀ f ∈ fs, (installAll fs s).store.locate f.path = .ok (s.placeOf f.path) := by
  induction fs generalizing s with
  | nil => exact fun f hf => absurd hf List.not_mem_nil
  | cons f rest ih =>
    obtain ⟨entries, hentries⟩ := exists_of_isOk hok
    obtain ⟨entry, others, -, hentry, hothers, hstore⟩ := installAll_cons_eq_ok hentries
    rw [List.forall_mem_cons] at hup ⊢
    rw [hstore]
    refine ⟨(growsTo_installAll rest _).locate (install_placed hup.1 hentry).1, fun g hg => ?_⟩
    rw [ih hup.2 (by rw [hothers]; rfl) g hg, Store.placeOf_congr (growsTo_install f s).current]

theorem kind?_installAll (hup : ∀ g ∈ fs, ".." ∉ g.path.steps)
    (hok : (installAll fs s).result.isOk = true) {f : PlannedFile} (hf : f ∈ fs) :
    (installAll fs s).store.kind? (s.placeOf f.path) = some .file := by
  rw [Store.kind?_eq_file_iff]
  obtain ⟨c, hc, -⟩ :=
    (settles_installAll_of_isOk hup hok (s.placeOf f.path)).of_place ⟨f, hf, rfl⟩
  exact ⟨c, hc⟩

theorem placed_installAll (hup : ∀ f ∈ fs, ".." ∉ f.path.steps)
    (hok : (installAll fs s).result.isOk = true) : Placed fs s (installAll fs s).store where
  located := locate_installAll hup hok
  written _ _ _ hfs hlast := get?_installAll_of_last hfs hup hok hlast
  kept _ _ hkind := (growsTo_installAll fs s).kind hkind
  unwritten k _ hoff := (settles_installAll_of_isOk hup hok k).file_iff hoff
  opened k hnone hdir := by
    have h := settles_installAll_of_isOk hup hok k
    rw [hdir] at h
    exact h.directory.resolve_left (by simp [hnone])

end PlannedFile

namespace Plan

variable {p : Plan} {s : Store} {r : Report}

theorem store_execute (p : Plan) (s : Store) :
    (p.execute s).store = (PlannedFile.installAll p.files s).store := rfl

theorem execute_eq_ok (h : (p.execute s).result = .ok r) :
    ∃ entries, (PlannedFile.installAll p.files s).result = .ok entries ∧
      r = ⟨entries ++ p.skippedEntry⟩ := by
  obtain ⟨entries, hentries, hr⟩ := Outcome.map_eq_ok h
  exact ⟨entries, hentries, hr.symm⟩

theorem result_execute {entries : List (Path × Status)}
    (h : (PlannedFile.installAll p.files s).result = .ok entries) :
    (p.execute s).result = .ok ⟨entries ++ p.skippedEntry⟩ := by
  show Except.map _ (PlannedFile.installAll p.files s).result = _
  rw [h]
  rfl

/-- A plan that is carried out puts its files in their places and touches nothing else, and to carry
it out again changes nothing. -/
theorem execute_places_files (hup : ∀ f ∈ p.files, ".." ∉ f.path.steps)
    (h : (p.execute s).result = .ok r) :
    PlannedFile.Placed p.files s (p.execute s).store ∧
      (p.execute (p.execute s).store).store = (p.execute s).store ∧
      ∃ again, (p.execute (p.execute s).store).result = .ok again ∧
        (s.Apart (p.files.map (·.path)) →
          again.files = p.files.map (fun f => (f.path, .identical)) ++ p.skippedEntry) := by
  obtain ⟨entries, hentries, -⟩ := execute_eq_ok h
  have hok : (PlannedFile.installAll p.files s).result.isOk = true := by rw [hentries]; rfl
  refine ⟨PlannedFile.placed_installAll hup hok, PlannedFile.store_installAll_again hup rfl s, ?_⟩
  obtain ⟨others, hothers⟩ := exists_of_isOk (PlannedFile.isOk_installAll_again rfl hok)
  refine ⟨_, result_execute hothers, fun hapart => ?_⟩
  rw [PlannedFile.installAll_again_entries hup rfl hapart hok, Except.ok.injEq] at hothers
  rw [← hothers, List.zipWith_self]
  simp [PlannedFile.renewed]

theorem execute_places_two_files :
    let p : Plan :=
      ⟨"Pay", [], [], [⟨.mutation, ⟨"app/pay.rs"⟩, "a"⟩, ⟨.spec, ⟨"app/spec/pay.rs"⟩, "b"⟩], none⟩
    let t := (p.execute (Store.empty none)).store
    PlannedFile.Placed p.files (Store.empty none) t ∧ ∃ again, (p.execute t).result = .ok again ∧
      again.files = [(⟨"app/pay.rs"⟩, .identical), (⟨"app/spec/pay.rs"⟩, .identical)] := by
  intro p t
  have hup : ∀ f ∈ p.files, ".." ∉ f.path.steps := by decide
  have hrun : (p.execute (Store.empty none)).result =
      .ok ⟨[(⟨"app/pay.rs"⟩, .created), (⟨"app/spec/pay.rs"⟩, .created)]⟩ := by rfl
  have hapart : (Store.empty none).Apart (p.files.map (·.path)) := by
    unfold Store.Apart
    decide
  obtain ⟨hplaced, -, again, hagain, hfiles⟩ := execute_places_files hup hrun
  exact ⟨hplaced, again, hagain, hfiles hapart⟩

end Plan

end Stencil
