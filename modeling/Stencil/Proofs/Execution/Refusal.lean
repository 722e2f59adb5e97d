import Stencil.Proofs.Execution.Placement

/-! Where a run stops that is refused. It has then done what the run of the files before would have
done, and beyond that made directories at most; the failure names the step that was refused and the
path that it was refused for. No path is asked to lead down only: where a file went is told by where
its path leads afterwards. -/

namespace Stencil

namespace PlannedFile

variable {f : PlannedFile} {fs : List PlannedFile} {s t : Store} {e : Failure}

/-! ### What stays written -/

theorem install_located (hok : (f.install s).result.isOk = true) :
    ∃ l, (f.install s).store.locate f.path = .ok l ∧
      (f.install s).store.get? l = some (.file f.contents) ∧
      ∀ k, k ≠ l → (f.ensureParent s).store.get? k = (f.install s).store.get? k := by
  obtain ⟨-, -, l, hl, hplace, hstore⟩ := install_of_isOk hok
  rw [hstore]
  refine ⟨l, (Store.growsTo_put_file ..).locate hl, ?_, fun k hk => ?_⟩
  · rw [Store.get?_put hplace, if_pos rfl]
  · rw [Store.get?_put hplace, if_neg hk.symm]

theorem get?_installAll_of_off {l : Location} {c : String}
    (hok : (installAll fs s).result.isOk = true) (hgrow : (installAll fs s).store.GrowsTo t)
    (hl : s.get? l = some (.file c)) (hoff : ∀ g ∈ fs, t.locate g.path ≠ .ok l) :
    (installAll fs s).store.get? l = some (.file c) := by
  induction fs generalizing s with
  | nil => exact hl
  | cons f rest ih =>
    obtain ⟨hf, hrest⟩ := isOk_of_installAll_cons hok
    rw [(installAll_cons_of_isOk hf).1] at hgrow ⊢
    rw [List.forall_mem_cons] at hoff
    obtain ⟨k, hk, -, hframe⟩ := install_located hf
    -- where the path of this file leads now it still leads at the end, so it is not here
    have hne : l ≠ k := by
      rintro rfl
      exact hoff.1 (((growsTo_installAll rest _).trans hgrow).locate hk)
    have hkept : (f.install s).store.get? l = some (.file c) := by
      rw [← hframe l hne]
      exact (widensTo_ensureParent f s).get? hl
    exact ih hrest hgrow hkept hoff.2

/-- The last file of a run to go where it goes is there in the end. -/
theorem installAll_located {before after : List PlannedFile} (hfs : fs = before ++ f :: after)
    (hok : (installAll fs s).result.isOk = true) (hgrow : (installAll fs s).store.GrowsTo t)
    (hlast : ∀ g ∈ after, t.locate g.path ≠ t.locate f.path) :
    ∃ l, t.locate f.path = .ok l ∧ (installAll fs s).store.get? l = some (.file f.contents) := by
  subst hfs
  induction before generalizing s with
  | nil =>
    obtain ⟨hf, hafter⟩ := isOk_of_installAll_cons hok
    rw [List.nil_append, (installAll_cons_of_isOk hf).1] at hgrow ⊢
    obtain ⟨l, hl, hwritten, -⟩ := install_located hf
    have hlocate := ((growsTo_installAll after _).trans hgrow).locate hl
    rw [hlocate] at hlast
    exact ⟨l, hlocate, get?_installAll_of_off hafter hgrow hwritten hlast⟩
  | cons b before ih =>
    obtain ⟨hb, hrest⟩ := isOk_of_installAll_cons hok
    rw [List.cons_append, (installAll_cons_of_isOk hb).1] at hgrow ⊢
    exact ih hrest hgrow

/-! ### The refused file -/

/-- The directory that a file needs and that is not there. -/
def missing? (f : PlannedFile) (s : Store) : Option Path :=
  f.path.home?.filter (!s.isDirectory ·)

theorem events_ensureParent (f : PlannedFile) (s : Store) :
    (f.ensureParent s).events = (f.missing? s).toList.map .creatingDirectory := by
  unfold ensureParent missing? Path.home?
  cases f.path.parent? with
  | none => rfl
  | some q =>
    unfold Store.ensureDirectory
    by_cases htext : q.text = ""
    · simp [htext, Option.filter, Outcome.ok]
    · cases hdir : s.isDirectory q <;> simp [htext, hdir, Option.filter, Outcome.ok]

theorem events_write_of_error (h : (f.write s).result = .error e) : (f.write s).events = [] := by
  rw [write] at h ⊢
  split at h
  · rfl
  · split at h
    · rfl
    · contradiction

theorem events_install_refused (h : (f.install s).result = .error e) :
    (f.install s).events = (f.missing? s).toList.map .creatingDirectory := by
  rw [← events_ensureParent]
  rw [install] at h ⊢
  cases hparent : (f.ensureParent s).result with
  | error _ => rw [Outcome.andThen_of_error hparent]
  | ok _ =>
    rw [Outcome.andThen_of_ok hparent] at h ⊢
    exact (congrArg _ (events_write_of_error h)).trans (List.append_nil _)

/-- Of a file that is not installed nothing is recorded but that a directory was to be made. -/
theorem events_install_of_error (h : (f.install s).result = .error e) :
    ∃ made : List Path, (f.install s).events = made.map .creatingDirectory :=
  ⟨_, events_install_refused h⟩

/-- A run that is refused has installed the files before one, and was refused at that one. -/
theorem installAll_stops (h : (installAll fs s).result = .error e) :
    ∃ before f after, fs = before ++ f :: after ∧
      (installAll before s).result.isOk = true ∧
      (f.install (installAll before s).store).result = .error e ∧
      (installAll fs s).store = (f.install (installAll before s).store).store ∧
      (installAll fs s).events =
        (installAll before s).events ++ (f.install (installAll before s).store).events := by
  induction fs generalizing s with
  | nil => contradiction
  | cons f rest ih =>
    rw [installAll] at h ⊢
    cases hf : (f.install s).result with
    | error g =>
      rw [Outcome.andThen_of_error hf] at h ⊢
      obtain rfl : g = e := Except.error.inj h
      exact ⟨[], f, rest, rfl, rfl, hf, rfl, rfl⟩
    | ok entry =>
      rw [Outcome.andThen_of_ok hf] at h ⊢
      obtain ⟨before, g, after, rfl, hok, hrefused, hstore, hevents⟩ :=
        ih (Outcome.map_eq_error.mp h)
      have hisOk : (f.install s).result.isOk = true := by rw [hf]; rfl
      have hrun := (installAll_cons_of_isOk hisOk : (installAll (f :: before) s).store = _ ∧ _).1
      have hlog : (installAll (f :: before) s).events =
          (f.install s).events ++ (installAll before (f.install s).store).events := by
        rw [installAll, Outcome.andThen_of_ok hf]
        rfl
      refine ⟨f :: before, g, after, rfl, (installAll_cons_of_isOk hisOk).2.trans hok, ?_, ?_, ?_⟩
      · rw [hrun]
        exact hrefused
      · rw [hrun]
        exact hstore
      · rw [hrun, hlog, List.append_assoc]
        exact congrArg ((f.install s).events ++ ·) hevents

end PlannedFile

namespace Plan

variable {p : Plan} {s : Store} {e : Failure}

theorem isOk_execute (p : Plan) (s : Store) :
    (p.execute s).result.isOk = (PlannedFile.installAll p.files s).result.isOk := by
  show (Except.map _ (PlannedFile.installAll p.files s).result).isOk = _
  cases (PlannedFile.installAll p.files s).result <;> rfl

theorem read_of_execute {before after : List PlannedFile} {f : PlannedFile} {t : Store}
    (hfiles : p.files = before ++ f :: after) (hok : (p.execute s).result.isOk = true)
    (hwide : (p.execute s).store.WidensTo t)
    (hlast : ∀ g ∈ after, t.locate g.path ≠ t.locate f.path) :
    t.read f.path = .ok f.contents := by
  rw [isOk_execute] at hok
  obtain ⟨l, hl, hwritten⟩ := PlannedFile.installAll_located hfiles hok hwide.growsTo hlast
  rw [Store.read, hl]
  simp only [hwide.get? hwritten]

/-- The plan without the files from the one at `k` on. -/
def cut (p : Plan) (k : Nat) : Plan :=
  { p with files := p.files.take k }

/-- A run of `p` from `s` ends with the failure `e` at the file `f`, which is the one at `k`. -/
structure StopsAt (p : Plan) (s : Store) (k : Nat) (f : PlannedFile) (e : Failure) : Prop where
  file : p.files[k]? = some f
  cut_succeeds : ∃ r, ((p.cut k).execute s).result = .ok r
  only_directories : ((p.cut k).execute s).store.WidensTo (p.execute s).store
  same_files : ∀ l c, (p.execute s).store.get? l = some (.file c) ↔
    ((p.cut k).execute s).store.get? l = some (.file c)
  written : ∀ before g after, (p.cut k).files = before ++ g :: after →
    (∀ g' ∈ after, (p.execute s).store.locate g'.path ≠ (p.execute s).store.locate g.path) →
    (p.execute s).store.read g.path = .ok g.contents
  nothing_more_written : ∃ made : List Path,
    (p.execute s).events = ((p.cut k).execute s).events ++ made.map .creatingDirectory
  step :
    (∃ q fault, f.path.parent? = some q ∧ e = .refused .createDirectory q fault) ∨
      (∃ fault, e = .refused .read f.path fault) ∨ ∃ fault, e = .refused .write f.path fault

/-- A refused run stops at one file: what comes before it is done in full, of the rest no file is
touched, and the failure tells which step it was. -/
theorem execute_stops_at_refused_file (h : (p.execute s).result = .error e) :
    ∃ k f, p.StopsAt s k f e := by
  obtain ⟨before, f, after, hfiles, hok, hrefused, hstore, hevents⟩ :=
    PlannedFile.installAll_stops (Outcome.map_eq_error.mp h)
  have hcut : (p.cut before.length).files = before := by
    rw [cut, hfiles]
    exact List.take_left
  have hcutStore : ((p.cut before.length).execute s).store =
      (PlannedFile.installAll before s).store := by
    rw [store_execute, hcut]
  have hcutOk : ((p.cut before.length).execute s).result.isOk = true := by
    rw [isOk_execute, hcut]
    exact hok
  obtain ⟨hleft, hstep⟩ := PlannedFile.install_eq_error hrefused
  have hwide : ((p.cut before.length).execute s).store.WidensTo (p.execute s).store := by
    rw [hcutStore, store_execute, hstore, hleft]
    exact PlannedFile.widensTo_ensureParent f _
  refine ⟨before.length, f, ?_, exists_of_isOk hcutOk, hwide, fun l c => hwide.file_iff,
    fun _ _ _ hsplit hlast => read_of_execute hsplit hcutOk hwide hlast, ?_, hstep⟩
  · simp [hfiles]
  · obtain ⟨made, hmade⟩ := PlannedFile.events_install_of_error hrefused
    refine ⟨made, ?_⟩
    show (PlannedFile.installAll p.files s).events =
      (PlannedFile.installAll (p.cut before.length).files s).events ++ _
    rw [hcut, hevents, hmade]

theorem execute_stops_at_stub :
    let p : Plan := ⟨"Pay", [], [], [⟨.mutation, ⟨"app/pay.rs"⟩, "a"⟩,
      ⟨.spec, ⟨"lib/../app/pay.rs/pay_spec.rs"⟩, "b"⟩], none⟩
    let e := Failure.refused .createDirectory ⟨"lib/../app/pay.rs"⟩ .alreadyExists
    (p.execute (.empty none)).result = .error e ∧ ∃ k f, p.StopsAt (.empty none) k f e := by
  intro p e
  have hrun : (p.execute (.empty none)).result = .error e := by rfl
  exact ⟨hrun, execute_stops_at_refused_file hrun⟩

end Plan

end Stencil
