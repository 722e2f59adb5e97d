import Stencil.Proofs.Execution.Run

/-! What a run leaves, location by location. At a location where files are placed it is the last one
that decides. Elsewhere all stays as it was, except that directories appear where there was nothing,
each on the way to some file. -/

namespace Stencil.PlannedFile

variable {f : PlannedFile} {fs gs : List PlannedFile} {s t : Store} {k : Location}

/-- What is at a location once files have been placed where `e` was. -/
def leftAt (s : Store) (k : Location) (fs : List PlannedFile) (e : Option Entry) : Option Entry :=
  fs.foldl (fun e f => if s.placeOf f.path = k then some (.file f.contents) else e) e

theorem leftAt_cons (e : Option Entry) :
    leftAt s k (f :: fs) e = leftAt s k fs (leftAt s k [f] e) := rfl

theorem leftAt_append (e : Option Entry) :
    leftAt s k (fs ++ gs) e = leftAt s k gs (leftAt s k fs e) :=
  List.foldl_append

theorem leftAt_singleton (e : Option Entry) :
    leftAt s k [f] e = if s.placeOf f.path = k then some (.file f.contents) else e := rfl

theorem leftAt_congr (h : t.current = s.current) (fs : List PlannedFile) :
    leftAt t k fs = leftAt s k fs := by
  funext e
  unfold leftAt
  simp only [Store.placeOf_congr h]

theorem leftAt_of_no_place (h : ∀ f ∈ fs, s.placeOf f.path ≠ k) (e : Option Entry) :
    leftAt s k fs e = e := by
  induction fs generalizing e with
  | nil => rfl
  | cons f rest ih =>
    rw [List.forall_mem_cons] at h
    rw [leftAt_cons, ih h.2, leftAt_singleton, if_neg h.1]

theorem leftAt_of_last (h : ∀ g ∈ gs, s.placeOf g.path ≠ s.placeOf f.path) (e : Option Entry) :
    leftAt s (s.placeOf f.path) (fs ++ f :: gs) e = some (.file f.contents) := by
  rw [leftAt_append, leftAt_cons, leftAt_of_no_place h, leftAt_singleton, if_pos rfl]

/-- Either no file is placed at the location, or what was there before does not matter. -/
theorem leftAt_cases (s : Store) (k : Location) (fs : List PlannedFile) :
    (∀ f ∈ fs, s.placeOf f.path ≠ k) ∨
      (∃ f ∈ fs, s.placeOf f.path = k) ∧ ∃ c, ∀ e, leftAt s k fs e = some (.file c) := by
  induction fs with
  | nil => exact .inl fun f hf => absurd hf List.not_mem_nil
  | cons f rest ih =>
    rcases ih with hnone | ⟨⟨g, hg, hplace⟩, c, hc⟩
    · by_cases hf : s.placeOf f.path = k
      · refine .inr ⟨⟨f, List.mem_cons_self, hf⟩, f.contents, fun e => ?_⟩
        rw [leftAt_cons, leftAt_of_no_place hnone, leftAt_singleton, if_pos hf]
      · exact .inl (List.forall_mem_cons.mpr ⟨hf, hnone⟩)
    · exact .inr ⟨⟨g, List.mem_cons_of_mem f hg, hplace⟩, c, fun e => hc _⟩

/-! ### How an entry comes to be another -/

/-- At a location the files placed there decide; or, where that leaves nothing, a directory has
appeared on the way to a file that was tried. -/
def Settles (s : Store) (k : Location) (placed tried : List PlannedFile)
    (e e' : Option Entry) : Prop :=
  e' = leftAt s k placed e ∨
    leftAt s k placed e = none ∧ e' = some .directory ∧
      ∃ f ∈ tried, k <+: s.placeOf f.path ∧ k ≠ s.placeOf f.path

namespace Settles

variable {placed tried : List PlannedFile} {e e' e'' : Option Entry}

theorem congr (hcurrent : t.current = s.current) (h : Settles t k placed tried e e') :
    Settles s k placed tried e e' := by
  unfold Settles at h
  simp only [leftAt_congr hcurrent, Store.placeOf_congr hcurrent] at h
  exact h

theorem trans (h : Settles s k fs gs e e') (h' : Settles s k placed tried e' e'') :
    Settles s k (fs ++ placed) (gs ++ tried) e e'' := by
  unfold Settles
  rw [leftAt_append]
  rcases h with rfl | ⟨hnone, rfl, f, hf, hway⟩
  · rcases h' with hleft | ⟨hnone, hdir, g, hg, hgway⟩
    · exact .inl hleft
    · exact .inr ⟨hnone, hdir, g, List.mem_append_right gs hg, hgway⟩
  · -- a directory made first stays, unless a file is placed in its stead
    rw [hnone]
    unfold Settles at h'
    rcases leftAt_cases s k placed with hoff | ⟨-, c, hc⟩
    · rw [leftAt_of_no_place hoff] at h' ⊢
      rcases h' with hleft | ⟨hleft, -⟩
      · exact .inr ⟨rfl, hleft, f, List.mem_append_left tried hf, hway⟩
      · contradiction
    · rw [hc] at h' ⊢
      rcases h' with hleft | ⟨hleft, -⟩
      · exact .inl hleft
      · contradiction

theorem of_place (h : Settles s k placed tried e e') (hplace : ∃ f ∈ placed, s.placeOf f.path = k) :
    ∃ c, e' = some (.file c) ∧ ∀ e, leftAt s k placed e = some (.file c) := by
  rcases leftAt_cases s k placed with hoff | ⟨-, c, hc⟩
  · obtain ⟨f, hf, hk⟩ := hplace
    exact absurd hk (hoff f hf)
  · refine ⟨c, ?_, hc⟩
    rcases h with hleft | ⟨hnone, -⟩
    · rw [hleft, hc]
    · rw [hc] at hnone
      contradiction

theorem file_iff (h : Settles s k placed tried e e') (hoff : ∀ f ∈ placed, s.placeOf f.path ≠ k)
    {c : String} : e' = some (.file c) ↔ e = some (.file c) := by
  unfold Settles at h
  rw [leftAt_of_no_place hoff] at h
  rcases h with rfl | ⟨rfl, rfl, -⟩
  · exact Iff.rfl
  · simp

theorem directory (h : Settles s k placed tried e (some .directory)) :
    e = some .directory ∨ ∃ f ∈ tried, k <+: s.placeOf f.path ∧ k ≠ s.placeOf f.path := by
  rcases h with hleft | ⟨-, -, hway⟩
  · rcases leftAt_cases s k placed with hoff | ⟨-, c, hc⟩
    · rw [leftAt_of_no_place hoff] at hleft
      exact .inl hleft.symm
    · rw [hc] at hleft
      exact absurd hleft (by simp)
  · exact .inr hway

end Settles

/-! ### A single file -/

theorem get?_ensureParent_off_way (hup : ".." ∉ f.path.steps) {q : Path}
    (hhome : f.path.home? = some q) (hoff : ¬ k <+: s.placeOf q) :
    (f.ensureParent s).store.get? k = s.get? k := by
  rw [(ensureParent_of_home hhome s).1,
    Store.get?_makeWay_off_way (Path.not_up_of_home? hhome hup) hoff]

theorem settles_ensureParent (hup : ".." ∉ f.path.steps) (k : Location) :
    Settles s k [] [f] (s.get? k) ((f.ensureParent s).store.get? k) := by
  rcases (widensTo_ensureParent f s).entry k with hsame | ⟨hnone, hdir⟩
  · exact .inl hsame
  · refine .inr ⟨hnone, hdir, f, List.mem_singleton_self f, ?_⟩
    cases hhome : f.path.home? with
    | none =>
      rw [ensureParent_of_homeless hhome] at hdir
      exact absurd (hnone.symm.trans hdir) (by simp)
    | some q =>
      have hparent := (Path.parent?_of_home? hhome).1
      have hway : k <+: s.placeOf q := by
        by_contra hoff
        rw [get?_ensureParent_off_way hup hhome hoff, hnone] at hdir
        contradiction
      exact ⟨hway.trans (Store.placeOf_parent_above hparent),
        Store.ne_placeOf_of_parent hparent hway hnone⟩

theorem install_placed {entry : Path × Status} (hup : ".." ∉ f.path.steps)
    (h : (f.install s).result = .ok entry) :
    (f.install s).store.locate f.path = .ok (s.placeOf f.path) ∧
      (f.ensureParent s).store.Placeable (s.placeOf f.path) ∧
      (f.install s).store =
        (f.ensureParent s).store.put (s.placeOf f.path) (.file f.contents) ∧
      entry = (f.path, .over (s.get? (s.placeOf f.path)) f.contents) := by
  obtain ⟨-, hwrite, hstore⟩ := install_eq_ok h
  obtain ⟨l, hl, hplace, hput, hentry⟩ := write_eq_ok hwrite
  have hwide := widensTo_ensureParent f s
  obtain rfl : l = s.placeOf f.path :=
    (Store.locate_eq_placeOf hup hl).trans (Store.placeOf_congr hwide.current f.path)
  have hold : (f.ensureParent s).store.get? (s.placeOf f.path) = s.get? (s.placeOf f.path) := by
    rcases hwide.entry (s.placeOf f.path) with hsame | ⟨-, hdir⟩
    · exact hsame
    · exact absurd hdir hplace.2.2
  rw [hold] at hentry
  rw [hstore, hput]
  exact ⟨(Store.growsTo_put_file ..).locate hl, hplace, rfl, hentry⟩

theorem settles_install (hup : ".." ∉ f.path.steps) (hok : (f.install s).result.isOk = true)
    (k : Location) : Settles s k [f] [f] (s.get? k) ((f.install s).store.get? k) := by
  obtain ⟨entry, hentry⟩ := exists_of_isOk hok
  obtain ⟨-, hplace, hstore, -⟩ := install_placed hup hentry
  have hput : Settles s k [f] [] ((f.ensureParent s).store.get? k)
      ((f.install s).store.get? k) := by
    refine .inl ?_
    rw [hstore, Store.get?_put hplace, leftAt_singleton]
  exact (settles_ensureParent hup k).trans hput

/-! ### Whole runs -/

theorem settles_installAll (hup : ∀ f ∈ fs, ".." ∉ f.path.steps) (k : Location) :
    Settles s k (fs.take (progress fs s)) fs (s.get? k) ((installAll fs s).store.get? k) := by
  induction fs generalizing s with
  | nil => exact .inl rfl
  | cons f rest ih =>
    rw [List.forall_mem_cons] at hup
    cases hf : (f.install s).result.isOk with
    | false =>
      -- the refused file is tried but not placed, and of the rest nothing is done
      have hnothing : Settles s k [] rest ((f.ensureParent s).store.get? k)
          ((f.ensureParent s).store.get? k) := .inl rfl
      rw [progress_cons_of_not_isOk hf, (installAll_cons_of_not_isOk hf).1,
        store_install_of_not_isOk hf]
      exact (settles_ensureParent hup.1 k).trans hnothing
    | true =>
      have hrest := (ih hup.2).congr (growsTo_install f s).current
      rw [progress_cons_of_isOk hf, (installAll_cons_of_isOk hf).1, List.take_succ_cons]
      exact (settles_install hup.1 hf k).trans hrest

theorem settles_installAll_of_isOk (hup : ∀ f ∈ fs, ".." ∉ f.path.steps)
    (hok : (installAll fs s).result.isOk = true) (k : Location) :
    Settles s k fs fs (s.get? k) ((installAll fs s).store.get? k) := by
  have h := settles_installAll (s := s) hup k
  rwa [isOk_installAll_iff.mp hok, List.take_length] at h

theorem isDirectory_installAll (hup : ∀ f ∈ fs, ".." ∉ f.path.steps) {p : Path}
    (hp : ".." ∉ p.steps) (h : (installAll fs s).store.isDirectory p = true) :
    s.isDirectory p = true ∨
      ∃ f ∈ fs, s.placeOf p <+: s.placeOf f.path ∧ s.placeOf p ≠ s.placeOf f.path := by
  have hgrow := growsTo_installAll fs s
  obtain ⟨l, hl, hdir⟩ := Store.isDirectory_iff.mp h
  obtain rfl := (Store.locate_eq_placeOf hp hl).trans (Store.placeOf_congr hgrow.current p)
  have hsettles := settles_installAll (s := s) hup (s.placeOf p)
  rw [hdir] at hsettles
  rcases hsettles.directory with hold | hway
  · have hback := hgrow.locate_back hp hl (by simp [hold])
    exact .inl (Store.isDirectory_iff.mpr ⟨_, hback, hold⟩)
  · exact .inr hway

theorem get?_installAll_of_last {before after : List PlannedFile}
    (hfs : fs = before ++ f :: after) (hup : ∀ g ∈ fs, ".." ∉ g.path.steps)
    (hok : (installAll fs s).result.isOk = true)
    (hlast : ∀ g ∈ after, s.placeOf g.path ≠ s.placeOf f.path) :
    (installAll fs s).store.get? (s.placeOf f.path) = some (.file f.contents) := by
  have hmem : f ∈ fs := by rw [hfs]; simp
  obtain ⟨c, hc, hleft⟩ :=
    (settles_installAll_of_isOk hup hok (s.placeOf f.path)).of_place ⟨f, hmem, rfl⟩
  rw [hc, ← hleft none, hfs, leftAt_of_last hlast]

/-! ### What a run says of its files -/

theorem installAll_cons_eq_ok {entries : List (Path × Status)}
    (h : (installAll (f :: fs) s).result = .ok entries) :
    ∃ entry rest, entries = entry :: rest ∧ (f.install s).result = .ok entry ∧
      (installAll fs (f.install s).store).result = .ok rest ∧
      (installAll (f :: fs) s).store = (installAll fs (f.install s).store).store := by
  obtain ⟨entry, hentry, hmap, hstore⟩ := Outcome.andThen_eq_ok h
  obtain ⟨rest, hrest, rfl⟩ := Outcome.map_eq_ok hmap
  exact ⟨entry, rest, rfl, hentry, hrest, hstore⟩

theorem installAll_paths {entries : List (Path × Status)}
    (h : (installAll fs s).result = .ok entries) : entries.map Prod.fst = fs.map path := by
  induction fs generalizing s entries with
  | nil =>
    obtain rfl : [] = entries := Except.ok.inj h
    rfl
  | cons f rest ih =>
    obtain ⟨entry, others, rfl, hentry, hothers, -⟩ := installAll_cons_eq_ok h
    obtain ⟨-, hwrite, -⟩ := install_eq_ok hentry
    obtain ⟨_, -, -, -, rfl⟩ := write_eq_ok hwrite
    rw [List.map_cons, List.map_cons, ih hothers]

theorem over_leftAt_directory (contents : String) :
    Status.over (leftAt s k fs (some .directory)) contents =
      .over (leftAt s k fs none) contents := by
  rcases leftAt_cases s k fs with hoff | ⟨-, c, hc⟩
  · rw [leftAt_of_no_place hoff, leftAt_of_no_place hoff]
    rfl
  · rw [hc, hc]

/-- A file says what the files before it have left at its place. -/
theorem installAll_entry {before after : List PlannedFile} {entries : List (Path × Status)}
    (hfs : fs = before ++ f :: after) (hup : ∀ g ∈ fs, ".." ∉ g.path.steps)
    (h : (installAll fs s).result = .ok entries) :
    entries[before.length]? =
      some (f.path, .over (leftAt s (s.placeOf f.path) before (s.get? (s.placeOf f.path)))
        f.contents) := by
  subst hfs
  induction before generalizing s entries with
  | nil =>
    obtain ⟨entry, others, rfl, hentry, -, -⟩ := installAll_cons_eq_ok h
    obtain ⟨-, -, -, rfl⟩ := install_placed (hup f List.mem_cons_self) hentry
    rfl
  | cons b before ih =>
    rw [List.cons_append, List.forall_mem_cons] at hup
    rw [List.cons_append] at h
    obtain ⟨entry, others, rfl, hentry, hothers, -⟩ := installAll_cons_eq_ok h
    have hcurrent := (growsTo_install b s).current
    have hok : (b.install s).result.isOk = true := by rw [hentry]; rfl
    rw [List.length_cons, List.getElem?_cons_succ, ih hup.2 hothers, leftAt_congr hcurrent,
      Store.placeOf_congr hcurrent, leftAt_cons]
    rcases settles_install hup.1 hok (s.placeOf f.path) with hstep | ⟨hnone, hdir, -⟩
    · rw [hstep]
    · -- a file over a directory just made counts as created, as it would without the directory
      rw [hnone, hdir, over_leftAt_directory]

end Stencil.PlannedFile
