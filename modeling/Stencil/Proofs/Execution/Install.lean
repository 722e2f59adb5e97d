import Stencil.Execution
import Stencil.Proofs.Outcome
import Stencil.Proofs.Store.Place

/-! The installing of a single file: its directory is made, the file that may be there is read, and
the contents are written. Whether it succeeds and which directories it makes does not depend on the
contents, neither those that are there nor those that are to be, and a second attempt at the same
path makes no directory that the first has not made. -/

namespace Stencil

/-- The status of a file written over what was there. -/
def Status.over (existing : Option Entry) (contents : String) : Status :=
  match existing with
  | some (.file old) => if old = contents then .identical else .overwritten
  | _ => .created

/-- The directory that a file needs, if its path tells of one. -/
def Path.home? (p : Path) : Option Path :=
  p.parent?.filter (·.text != "")

theorem Path.parent?_of_home? {p q : Path} (h : p.home? = some q) :
    p.parent? = some q ∧ q.text ≠ "" := by
  simpa [home?, Option.filter_eq_some_iff] using h

theorem Path.not_up_of_home? {p q : Path} (h : p.home? = some q) (hup : ".." ∉ p.steps) :
    ".." ∉ q.steps := by
  rw [steps_of_parent (parent?_of_home? h).1]
  exact fun hmem => hup (List.dropLast_subset p.steps hmem)

theorem Path.dropLast_steps_of_homeless {p : Path} (h : p.home? = none) :
    p.steps.dropLast = [] := by
  cases hparent : p.parent? with
  | none => rw [steps_of_no_parent hparent, List.dropLast_nil]
  | some q =>
    have htext : q.text = "" := by simpa [home?, hparent] using h
    rw [← steps_of_parent hparent, steps, show q = ⟨""⟩ from congrArg Path.mk htext, segments_empty,
      counted_empty]

theorem Store.statusOf_of_locate {s : Store} {p : Path} {l : Location} (contents : String)
    (h : s.locate p = .ok l) (hl : s.get? l ≠ some .directory) :
    s.statusOf p contents = .ok (.over (s.get? l) contents) := by
  rw [statusOf, read, h]
  simp only
  rcases hentry : s.get? l with _ | _ | c
  · rfl
  · contradiction
  · rfl

namespace PlannedFile

variable {f g : PlannedFile} {s t : Store}

/-! ### The directory -/

theorem ensureParent_of_homeless (h : f.path.home? = none) (s : Store) :
    f.ensureParent s = .ok s () := by
  rw [ensureParent]
  rw [Path.home?] at h
  cases hparent : f.path.parent? with
  | none => rfl
  | some q =>
    have htext : q.text = "" := by simpa [hparent] using h
    simp [Store.ensureDirectory, htext]

theorem ensureParent_of_home {q : Path} (h : f.path.home? = some q) (s : Store) :
    (f.ensureParent s).store = (s.makeWay q).1 ∧
      (f.ensureParent s).result = (s.makeWay q).2.mapError (.refused .createDirectory q) := by
  obtain ⟨hparent, htext⟩ := Path.parent?_of_home? h
  have hensure : f.ensureParent s = s.ensureDirectory q := by
    rw [ensureParent, hparent]
  rw [hensure, Store.ensureDirectory]
  cases hdir : s.isDirectory q with
  | true =>
    rw [Store.makeWay_of_isDirectory hdir, if_pos (by simp)]
    exact ⟨rfl, rfl⟩
  | false =>
    rw [if_neg (by simp [htext]), Store.makeDirectories_of_parent hparent htext hdir]
    exact ⟨rfl, rfl⟩

theorem isOk_ensureParent {q : Path} (h : f.path.home? = some q) (s : Store) :
    (f.ensureParent s).result.isOk = (s.makeWay q).2.isOk := by
  rw [(ensureParent_of_home h s).2]
  cases (s.makeWay q).2 <;> rfl

theorem widensTo_ensureParent (f : PlannedFile) (s : Store) :
    s.WidensTo (f.ensureParent s).store := by
  cases h : f.path.home? with
  | none =>
    rw [ensureParent_of_homeless h]
    exact .refl s
  | some q =>
    rw [(ensureParent_of_home h s).1]
    exact s.widensTo_makeWay q

theorem ensureParent_congr (h : f.path = g.path) (s : Store) :
    f.ensureParent s = g.ensureParent s := by
  rw [ensureParent, ensureParent, h]

theorem ensureParent_alike (h : s.Alike t) (f : PlannedFile) :
    (f.ensureParent s).store.Alike (f.ensureParent t).store ∧
      (f.ensureParent s).result.isOk = (f.ensureParent t).result.isOk := by
  cases hhome : f.path.home? with
  | none =>
    rw [ensureParent_of_homeless hhome, ensureParent_of_homeless hhome]
    exact ⟨h, rfl⟩
  | some q =>
    rw [(ensureParent_of_home hhome s).1, (ensureParent_of_home hhome t).1,
      isOk_ensureParent hhome, isOk_ensureParent hhome, (h.makeWay q).2]
    exact ⟨(h.makeWay q).1, rfl⟩

theorem ensureParent_again (f : PlannedFile) (s : Store) :
    (f.ensureParent (f.ensureParent s).store).store = (f.ensureParent s).store ∧
      (f.ensureParent (f.ensureParent s).store).result.isOk = (f.ensureParent s).result.isOk := by
  cases h : f.path.home? with
  | none =>
    rw [ensureParent_of_homeless h s, ensureParent_of_homeless h]
    exact ⟨rfl, rfl⟩
  | some q =>
    rw [(ensureParent_of_home h _).1, isOk_ensureParent h, isOk_ensureParent h,
      (ensureParent_of_home h s).1]
    exact s.makeWay_again q

theorem ensureParent_of_growsTo (hok : (f.ensureParent s).result.isOk = true)
    (hgrow : (f.ensureParent s).store.GrowsTo t) :
    (f.ensureParent t).store = t ∧ (f.ensureParent t).result.isOk = true := by
  cases h : f.path.home? with
  | none =>
    rw [ensureParent_of_homeless h]
    exact ⟨rfl, rfl⟩
  | some q =>
    rw [isOk_ensureParent h] at hok
    rw [(ensureParent_of_home h s).1] at hgrow
    have hway : (s.makeWay q).2 = .ok () := by
      cases hresult : (s.makeWay q).2 with
      | ok => rfl
      | error fault =>
        rw [hresult] at hok
        contradiction
    have hdir := hgrow.isDirectory (Store.isDirectory_of_makeWay hway)
    rw [(ensureParent_of_home h t).1, isOk_ensureParent h, Store.makeWay_of_isDirectory hdir]
    exact ⟨rfl, rfl⟩

/-! ### The file -/

theorem write_eq_error {e : Failure} (h : (f.write s).result = .error e) :
    (f.write s).store = s ∧
      ((∃ fault, e = .refused .read f.path fault) ∨ ∃ fault, e = .refused .write f.path fault) := by
  rw [write] at h ⊢
  split at h
  · rename_i fault _
    exact ⟨rfl, .inl ⟨fault, (Except.error.inj h).symm⟩⟩
  · split at h
    · rename_i fault _
      exact ⟨rfl, .inr ⟨fault, (Except.error.inj h).symm⟩⟩
    · contradiction

theorem write_eq_ok {entry : Path × Status} (h : (f.write s).result = .ok entry) :
    ∃ l, s.locate f.path = .ok l ∧ s.Placeable l ∧
      (f.write s).store = s.put l (.file f.contents) ∧
      entry = (f.path, .over (s.get? l) f.contents) := by
  rw [write] at h ⊢
  split at h
  · contradiction
  · rename_i status hstatus
    split at h
    · contradiction
    · rename_i t hwrite
      obtain ⟨-, l, hl, hplace, rfl⟩ := Store.write_eq_ok_iff.mp hwrite
      rw [Store.statusOf_of_locate _ hl hplace.2.2] at hstatus
      obtain rfl := Except.ok.inj hstatus
      exact ⟨l, hl, hplace, rfl, (Except.ok.inj h).symm⟩

theorem isOk_write_iff (f : PlannedFile) (s : Store) :
    (f.write s).result.isOk = true ↔
      f.path.segments.getLast? ≠ some "" ∧ ∃ l, s.locate f.path = .ok l ∧ s.Placeable l := by
  rw [write]
  constructor
  · intro h
    split at h
    · contradiction
    · split at h
      · contradiction
      · rename_i hwrite
        obtain ⟨hslash, l, hl, hplace, -⟩ := Store.write_eq_ok_iff.mp hwrite
        exact ⟨hslash, l, hl, hplace⟩
  · rintro ⟨hslash, l, hl, hplace⟩
    rw [Store.statusOf_of_locate _ hl hplace.2.2,
      Store.write_eq_ok_iff.mpr ⟨hslash, l, hl, hplace, rfl⟩]
    rfl

theorem isOk_write_congr (h : s.Alike t) (hpath : f.path = g.path) :
    (f.write s).result.isOk = (g.write t).result.isOk := by
  rw [Bool.eq_iff_iff, isOk_write_iff, isOk_write_iff, hpath]
  simp only [h.locate, h.placeable_iff]

theorem store_write_of_not_isOk (h : (f.write s).result.isOk = false) : (f.write s).store = s := by
  cases hresult : (f.write s).result with
  | error e => exact (write_eq_error hresult).1
  | ok entry =>
    rw [hresult] at h
    contradiction

theorem write_alike (h : s.Alike t) (hpath : f.path = g.path) :
    (f.write s).store.Alike (g.write t).store := by
  have hcongr := isOk_write_congr h hpath
  cases hf : (f.write s).result with
  | error e =>
    rw [hf] at hcongr
    rw [(write_eq_error hf).1, store_write_of_not_isOk hcongr.symm]
    exact h
  | ok a =>
    cases hg : (g.write t).result with
    | error e =>
      rw [hf, hg] at hcongr
      contradiction
    | ok b =>
      obtain ⟨l, hl, -, hstore, -⟩ := write_eq_ok hf
      obtain ⟨k, hk, -, hstore', -⟩ := write_eq_ok hg
      rw [h.locate, hpath, hk] at hl
      rw [hstore, hstore', Except.ok.inj hl]
      exact h.put rfl

/-! ### Both together -/

theorem install_eq_ok {entry : Path × Status} (h : (f.install s).result = .ok entry) :
    (f.ensureParent s).result.isOk = true ∧
      (f.write (f.ensureParent s).store).result = .ok entry ∧
      (f.install s).store = (f.write (f.ensureParent s).store).store := by
  obtain ⟨_, hparent, hwrite, hstore⟩ := Outcome.andThen_eq_ok h
  exact ⟨by rw [hparent]; rfl, hwrite, hstore⟩

/-- A file that is not installed leaves nothing but directories, and the failure names the step. -/
theorem install_eq_error {e : Failure} (h : (f.install s).result = .error e) :
    (f.install s).store = (f.ensureParent s).store ∧
      ((∃ q fault, f.path.parent? = some q ∧ e = .refused .createDirectory q fault) ∨
        (∃ fault, e = .refused .read f.path fault) ∨ ∃ fault, e = .refused .write f.path fault) := by
  rcases Outcome.andThen_eq_error h with ⟨hparent, hstore⟩ | ⟨_, _, hwrite, hstore⟩
  · refine ⟨hstore, .inl ?_⟩
    cases hhome : f.path.home? with
    | none =>
      rw [ensureParent_of_homeless hhome] at hparent
      contradiction
    | some q =>
      rw [(ensureParent_of_home hhome s).2] at hparent
      cases hway : (s.makeWay q).2 with
      | ok =>
        rw [hway] at hparent
        contradiction
      | error fault =>
        rw [hway] at hparent
        exact ⟨q, fault, (Path.parent?_of_home? hhome).1, (Except.error.inj hparent).symm⟩
  · obtain ⟨hsame, hcause⟩ := write_eq_error hwrite
    exact ⟨hstore.trans hsame, .inr hcause⟩

theorem isOk_install (f : PlannedFile) (s : Store) :
    (f.install s).result.isOk =
      ((f.ensureParent s).result.isOk && (f.write (f.ensureParent s).store).result.isOk) := by
  rw [install, Outcome.result_andThen]
  cases (f.ensureParent s).result <;> rfl

theorem install_of_isOk (h : (f.install s).result.isOk = true) :
    (f.ensureParent s).result.isOk = true ∧ f.path.segments.getLast? ≠ some "" ∧
      ∃ l, (f.ensureParent s).store.locate f.path = .ok l ∧
        (f.ensureParent s).store.Placeable l ∧
        (f.install s).store = (f.ensureParent s).store.put l (.file f.contents) := by
  obtain ⟨entry, hentry⟩ := exists_of_isOk h
  obtain ⟨hparent, hwrite, hstore⟩ := install_eq_ok hentry
  obtain ⟨l, hl, hplace, hput, -⟩ := write_eq_ok hwrite
  have hok : (f.write (f.ensureParent s).store).result.isOk = true := by rw [hwrite]; rfl
  exact ⟨hparent, ((isOk_write_iff ..).mp hok).1, l, hl, hplace, hstore.trans hput⟩

theorem store_install_of_not_isOk (h : (f.install s).result.isOk = false) :
    (f.install s).store = (f.ensureParent s).store := by
  obtain ⟨e, he⟩ := exists_of_not_isOk h
  exact (install_eq_error he).1

theorem growsTo_install (f : PlannedFile) (s : Store) : s.GrowsTo (f.install s).store := by
  have hwide := (widensTo_ensureParent f s).growsTo
  cases h : (f.install s).result.isOk with
  | false =>
    rw [store_install_of_not_isOk h]
    exact hwide
  | true =>
    obtain ⟨-, -, l, -, -, hstore⟩ := install_of_isOk h
    rw [hstore]
    exact hwide.trans (Store.growsTo_put_file _ l _)

theorem install_alike (h : s.Alike t) (hpath : f.path = g.path) :
    (f.install s).store.Alike (g.install t).store ∧
      (f.install s).result.isOk = (g.install t).result.isOk := by
  obtain ⟨hstore, hok⟩ := ensureParent_alike h f
  rw [ensureParent_congr hpath t] at hstore hok
  have hisOk : (f.install s).result.isOk = (g.install t).result.isOk := by
    rw [isOk_install, isOk_install, hok, isOk_write_congr hstore hpath]
  refine ⟨?_, hisOk⟩
  cases hf : (f.install s).result.isOk with
  | false =>
    rw [store_install_of_not_isOk hf, store_install_of_not_isOk (hisOk ▸ hf)]
    exact hstore
  | true =>
    obtain ⟨a, ha⟩ := exists_of_isOk hf
    obtain ⟨b, hb⟩ := exists_of_isOk (hisOk ▸ hf)
    rw [(install_eq_ok ha).2.2, (install_eq_ok hb).2.2]
    exact write_alike hstore hpath

theorem install_again (hok : (f.install s).result.isOk = true)
    (hgrow : (f.install s).store.GrowsTo t) (hpath : f.path = g.path) :
    (g.install t).result.isOk = true ∧ t.Alike (g.install t).store := by
  obtain ⟨hparent, hslash, l, hl, hplace, hstore⟩ := install_of_isOk hok
  rw [hstore] at hgrow
  have hgrows := (Store.growsTo_put_file _ l _).trans hgrow
  obtain ⟨hsame, hfound⟩ := ensureParent_of_growsTo hparent hgrows
  rw [ensureParent_congr hpath] at hsame hfound
  -- where the file was put there is a file still, in a directory, so it can be written over
  have hfile : t.kind? l = some .file := by
    apply hgrow.kind
    rw [Store.kind?_put hplace, if_pos rfl]
    rfl
  have hfree : t.Placeable l :=
    Store.placeable_iff.mpr ⟨hplace.1,
      hgrows.kind (Store.kind?_eq_directory_iff.mpr hplace.2.1), by simp [hfile]⟩
  have hlocate := hgrows.locate hl
  rw [hpath] at hlocate hslash
  have hisOk : (g.install t).result.isOk = true := by
    rw [isOk_install, hfound, hsame, Bool.true_and, isOk_write_iff]
    exact ⟨hslash, l, hlocate, hfree⟩
  refine ⟨hisOk, ?_⟩
  obtain ⟨-, -, k, hk, -, hput⟩ := install_of_isOk hisOk
  rw [hsame, hlocate] at hk
  rw [hput, hsame, ← Except.ok.inj hk]
  exact Store.alike_put_file hfile hfree

theorem install_again_of_not_isOk (h : (f.install s).result.isOk = false)
    (hpath : f.path = g.path) :
    (g.install (f.install s).store).result.isOk = false ∧
      (g.install (f.install s).store).store = (f.install s).store := by
  obtain ⟨hsame, hagain⟩ := ensureParent_again f s
  rw [store_install_of_not_isOk h]
  have hfails : (g.install (f.ensureParent s).store).result.isOk = false := by
    rw [isOk_install, ← ensureParent_congr hpath, hsame, hagain,
      ← isOk_write_congr (.refl _) hpath, ← isOk_install]
    exact h
  exact ⟨hfails, by rw [store_install_of_not_isOk hfails, ← ensureParent_congr hpath, hsame]⟩

end PlannedFile

end Stencil
