import Stencil.Proofs.Execution.Refusal

/-! What is recorded of files that are installed one after the other. Of each the directory that it
lacks is recorded before it is made, and the file itself after it has been written; so the record
tells of the files that are there and of no others, also when a run is refused half-way. -/

namespace Stencil

/-- The file that an event tells of as written. -/
def Event.written? : Event → Option (Template × Path × Status)
  | wroteFile template path status => some (template, path, status)
  | _ => none

theorem Event.filterMap_written?_made (made : List Path) :
    (made.map creatingDirectory).filterMap written? = [] := by
  rw [List.filterMap_map, List.filterMap_eq_nil_iff]
  exact fun _ _ => rfl

theorem Status.over_ne_skipped (existing : Option Entry) (contents : String) :
    Status.over existing contents ≠ .skipped := by
  unfold Status.over
  split
  · split <;> nofun
  · nofun

namespace PlannedFile

variable {f : PlannedFile} {fs : List PlannedFile} {s : Store} {e : Failure}
  {entry : Path × Status} {entries : List (Path × Status)} {log : List Event}

/-- What is recorded of files, from the store on that the first of them is met in. -/
inductive Chronicle : Store → List PlannedFile → List Event → Prop where
  | finished {s : Store} : Chronicle s [] []
  | written {s : Store} {f : PlannedFile} {rest : List PlannedFile} {status : Status}
      {log : List Event} (hok : (f.install s).result = .ok (f.path, status))
      (hread : (f.install s).store.read f.path = .ok f.contents)
      (hrest : Chronicle (f.install s).store rest log) :
      Chronicle s (f :: rest)
        ((f.missing? s).toList.map .creatingDirectory ++ .wroteFile f.template f.path status :: log)
  | refused {s : Store} {f : PlannedFile} {rest : List PlannedFile} {e : Failure}
      (hrefused : (f.install s).result = .error e)
      (hsame : ∀ l c, (f.install s).store.get? l = some (.file c) ↔ s.get? l = some (.file c)) :
      Chronicle s (f :: rest) ((f.missing? s).toList.map .creatingDirectory)

/-- The record tells of these files as written, with these entries of a report, and of no others. -/
structure Tells (log : List Event) (fs : List PlannedFile) (entries : List (Path × Status)) :
    Prop where
  templates : (log.filterMap Event.written?).map Prod.fst = fs.map template
  entries : (log.filterMap Event.written?).map Prod.snd = entries

/-! ### One file -/

theorem events_write_of_ok (h : (f.write s).result = .ok entry) :
    (f.write s).events = [.wroteFile f.template f.path entry.2] := by
  rw [write] at h ⊢
  split at h
  · contradiction
  · split at h
    · contradiction
    · obtain rfl := Except.ok.inj h
      rfl

theorem events_install_of_ok (h : (f.install s).result = .ok entry) :
    (f.install s).events = (f.missing? s).toList.map .creatingDirectory ++
      [.wroteFile f.template f.path entry.2] := by
  obtain ⟨hparent, hwrite, -⟩ := install_eq_ok h
  obtain ⟨_, hmade⟩ := exists_of_isOk hparent
  rw [install, Outcome.andThen_of_ok hmade, ← events_ensureParent, ← events_write_of_ok hwrite]

theorem path_of_install (h : (f.install s).result = .ok entry) :
    entry.1 = f.path ∧ entry.2 ≠ .skipped := by
  obtain ⟨-, hwrite, -⟩ := install_eq_ok h
  obtain ⟨_, -, -, -, rfl⟩ := write_eq_ok hwrite
  exact ⟨rfl, Status.over_ne_skipped _ _⟩

theorem read_of_install (h : (f.install s).result = .ok entry) :
    (f.install s).store.read f.path = .ok f.contents := by
  obtain ⟨l, hl, hwritten, -⟩ := install_located (f := f) (s := s) (by rw [h]; rfl)
  rw [Store.read, hl]
  simp only [hwritten]

theorem same_files_of_refused (h : (f.install s).result = .error e) (l : Location) (c : String) :
    (f.install s).store.get? l = some (.file c) ↔ s.get? l = some (.file c) := by
  rw [(install_eq_error h).1]
  exact (widensTo_ensureParent f s).file_iff

/-! ### Runs -/

theorem events_installAll_cons_of_ok (h : (f.install s).result = .ok entry) :
    (installAll (f :: fs) s).events =
      (f.missing? s).toList.map .creatingDirectory ++
        .wroteFile f.template f.path entry.2 :: (installAll fs (f.install s).store).events := by
  have hrest : (installAll (f :: fs) s).events =
      (f.install s).events ++ (installAll fs (f.install s).store).events := by
    rw [installAll, Outcome.andThen_of_ok h]
    rfl
  rw [hrest, events_install_of_ok h, List.append_assoc, List.singleton_append]

theorem events_installAll_cons_of_error (h : (f.install s).result = .error e) :
    (installAll (f :: fs) s).events = (f.missing? s).toList.map .creatingDirectory := by
  rw [installAll, Outcome.andThen_of_error h, ← events_install_refused h]

theorem chronicle_installAll (fs : List PlannedFile) (s : Store) :
    Chronicle s fs (installAll fs s).events := by
  -- Each file is met in the store that the files before it have left, so the store is general.
  induction fs generalizing s with
  | nil => exact .finished
  | cons f rest ih =>
    cases hf : (f.install s).result with
    | error e =>
      rw [events_installAll_cons_of_error hf]
      exact .refused hf (same_files_of_refused hf)
    | ok entry =>
      rw [events_installAll_cons_of_ok hf]
      have hpath : (entry.1, entry.2) = (f.path, entry.2) := by rw [(path_of_install hf).1]
      exact .written (hf.trans (congrArg _ hpath)) (read_of_install hf) (ih _)

/-- Files in a store have one record. -/
theorem Chronicle.eq_events (h : Chronicle s fs log) : log = (installAll fs s).events := by
  induction h with
  | finished => rfl
  | written hok _ _ ih => rw [events_installAll_cons_of_ok hok, ← ih]
  | refused hrefused => exact (events_installAll_cons_of_error hrefused).symm

theorem Tells.after {front : List Event} (hfront : front.filterMap Event.written? = [])
    (h : Tells log fs entries) : Tells (front ++ log) fs entries := by
  have hfiles : (front ++ log).filterMap Event.written? = log.filterMap Event.written? := by
    rw [List.filterMap_append, hfront, List.nil_append]
  exact ⟨hfiles ▸ h.templates, hfiles ▸ h.entries⟩

theorem Tells.before {back : List Event} (hback : back.filterMap Event.written? = [])
    (h : Tells log fs entries) : Tells (log ++ back) fs entries := by
  have hfiles : (log ++ back).filterMap Event.written? = log.filterMap Event.written? := by
    rw [List.filterMap_append, hback, List.append_nil]
  exact ⟨hfiles ▸ h.templates, hfiles ▸ h.entries⟩

theorem Tells.cons {made : List Path} (hpath : entry.1 = f.path) (h : Tells log fs entries) :
    Tells (made.map .creatingDirectory ++ .wroteFile f.template f.path entry.2 :: log) (f :: fs)
      (entry :: entries) := by
  have hfile : (Event.wroteFile f.template f.path entry.2 :: log).filterMap Event.written? =
      (f.template, f.path, entry.2) :: log.filterMap Event.written? := rfl
  refine Tells.after (Event.filterMap_written?_made made) ⟨?_, ?_⟩
  · rw [hfile, List.map_cons, List.map_cons, h.templates]
  · rw [hfile, List.map_cons, h.entries, ← hpath]

/-- Of a run that succeeds the record tells what the report does. -/
theorem tells_installAll (h : (installAll fs s).result = .ok entries) :
    Tells (installAll fs s).events fs entries ∧ ∀ entry ∈ entries, entry.2 ≠ .skipped := by
  induction fs generalizing s entries with
  | nil =>
    obtain rfl : [] = entries := Except.ok.inj h
    exact ⟨⟨rfl, rfl⟩, nofun⟩
  | cons f rest ih =>
    obtain ⟨entry, others, rfl, hentry, hothers, -⟩ := installAll_cons_eq_ok h
    obtain ⟨hpath, hskipped⟩ := path_of_install hentry
    obtain ⟨htells, hrest⟩ := ih hothers
    rw [events_installAll_cons_of_ok hentry]
    exact ⟨htells.cons hpath, List.forall_mem_cons.mpr ⟨hskipped, hrest⟩⟩

/-- Of a run that is refused the record tells of the files before the refused one. -/
theorem tells_of_refused (h : (installAll fs s).result = .error e) :
    ∃ before f after entries, fs = before ++ f :: after ∧
      (installAll before s).result = .ok entries ∧
      (f.install (installAll before s).store).result = .error e ∧
      Tells (installAll fs s).events before entries := by
  obtain ⟨before, f, after, hfs, hok, hrefused, -, hevents⟩ := installAll_stops h
  obtain ⟨entries, hentries⟩ := exists_of_isOk hok
  refine ⟨before, f, after, entries, hfs, hentries, hrefused, ?_⟩
  rw [hevents, events_install_refused hrefused]
  exact (tells_installAll hentries).1.before (Event.filterMap_written?_made _)

end PlannedFile

end Stencil
