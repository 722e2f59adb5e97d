import Stencil.Proofs.Execution.Effect
import Stencil.Proofs.Store.Way

/-! Files whose places do not lie on the way to one another. What becomes of one is decided by what
stands on the way to its place, and the other changes nothing there that counts; so they may be
installed in either order. The same holds of whole runs. -/

namespace Stencil

theorem Store.statusOf_congr {s t : Store} {p : Path} (contents : String)
    (hlocate : s.locate p = t.locate p)
    (hentry : ∀ l, s.locate p = .ok l → s.get? l = t.get? l) :
    s.statusOf p contents = t.statusOf p contents := by
  rw [statusOf, statusOf, read, read, ← hlocate]
  cases hl : s.locate p with
  | error fault => rfl
  | ok l => simp only [hentry l hl]

/-- Of two steps taken one after the other each ends as it would alone, and whichever is taken
first, they leave the same. -/
structure Commutes {α β : Type} (a : Store → Outcome α) (b : Store → Outcome β) (s : Store) :
    Prop where
  first : (a (b s).store).result = (a s).result
  second : (b (a s).store).result = (b s).result
  stores : (a (b s).store).store = (b (a s).store).store

theorem Commutes.symm {α β : Type} {a : Store → Outcome α} {b : Store → Outcome β} {s : Store}
    (h : Commutes a b s) : Commutes b a s :=
  ⟨h.second, h.first, h.stores.symm⟩

namespace PlannedFile

variable {f g : PlannedFile} {fs gs : List PlannedFile} {s t : Store} {k : Location}

/-! ### What decides about a file -/

theorem result_ensureParent_congr (hup : ".." ∉ f.path.steps) (hcurrent : t.current = s.current)
    (hlimit : t.pathLimit = s.pathLimit) (hfiles : s.SameFilesTo t (s.placeOf f.path)) :
    (f.ensureParent t).result = (f.ensureParent s).result := by
  cases hhome : f.path.home? with
  | none => rw [ensureParent_of_homeless hhome, ensureParent_of_homeless hhome]; rfl
  | some q =>
    have hqup := Path.not_up_of_home? hhome hup
    have habove := Store.placeOf_parent_above (s := s) (Path.parent?_of_home? hhome).1
    rw [(ensureParent_of_home hhome t).2, (ensureParent_of_home hhome s).2,
      Store.result_makeWay hqup, Store.result_makeWay hqup, Store.refusal?_congr hlimit,
      Store.obstacle?_steps_congr hcurrent (hfiles.mono habove)]

theorem get?_around_of_ensureParent (hup : ".." ∉ f.path.steps)
    (hok : (f.ensureParent s).result.isOk = true)
    (hk : k <+: s.start f.path ++ f.path.steps.dropLast) :
    (f.ensureParent s).store.get? k = some .directory := by
  have haround : (f.ensureParent s).store.get? (s.start f.path ++ f.path.steps.dropLast) =
      some .directory := by
    cases hhome : f.path.home? with
    | none =>
      rw [ensureParent_of_homeless hhome, Path.dropLast_steps_of_homeless hhome, List.append_nil]
      exact s.get?_start f.path
    | some q =>
      rw [isOk_ensureParent hhome] at hok
      obtain ⟨_, hway⟩ := exists_of_isOk hok
      obtain ⟨l, hl, hdir⟩ := Store.isDirectory_iff.mp (Store.isDirectory_of_makeWay hway)
      have hplace := Store.locate_eq_placeOf (Path.not_up_of_home? hhome hup) hl
      rw [Store.placeOf_congr (s.widensTo_makeWay q).current,
        Store.placeOf_parent (Path.parent?_of_home? hhome).1] at hplace
      rw [(ensureParent_of_home hhome s).1, ← hplace]
      exact hdir
  by_cases heq : k = s.start f.path ++ f.path.steps.dropLast
  · rw [heq, haround]
  · exact Store.get?_above haround hk heq

theorem prefix_around_of_prefix (hk : k <+: s.placeOf f.path) (hne : k ≠ s.placeOf f.path) :
    k <+: s.start f.path ++ f.path.steps.dropLast := by
  rw [Store.placeOf] at hk hne
  rcases List.eq_nil_or_concat f.path.steps with hnil | ⟨front, last, hlast⟩
  · rw [hnil] at hk ⊢
    exact hk
  · rw [hlast, List.concat_eq_append, ← List.append_assoc] at hk hne
    rw [hlast, List.concat_eq_append, List.dropLast_concat]
    exact (List.prefix_concat_iff.mp hk).resolve_left hne

theorem get?_place_ensureParent (hup : ".." ∉ f.path.steps) :
    (f.ensureParent s).store.get? (s.placeOf f.path) = s.get? (s.placeOf f.path) := by
  rcases settles_ensureParent hup (s.placeOf f.path) with hsame | ⟨-, -, g, hg, -, hne⟩
  · exact hsame
  · rw [List.mem_singleton.mp hg] at hne
    exact absurd rfl hne

theorem result_write_congr (hup : ".." ∉ f.path.steps) (hcurrent : t.current = s.current)
    (hlimit : t.pathLimit = s.pathLimit) (hkinds : s.AlikeTo t (s.placeOf f.path))
    (hentry : s.get? (s.placeOf f.path) = t.get? (s.placeOf f.path)) :
    (f.write t).result = (f.write s).result := by
  have hlocate := Store.locate_congr_of_way hup hcurrent hlimit hkinds
  have hstatus : s.statusOf f.path f.contents = t.statusOf f.path f.contents := by
    refine Store.statusOf_congr f.contents hlocate fun l hl => ?_
    rw [Store.locate_eq_placeOf hup hl, hentry]
  have hwrite : ∀ fault, s.write f.path f.contents = .error fault ↔
      t.write f.path f.contents = .error fault :=
    fun fault => Store.write_error_iff_of_way hup hcurrent hlimit hkinds
  rw [write, write, ← hstatus]
  cases s.statusOf f.path f.contents with
  | error fault => rfl
  | ok status =>
    cases hs : s.write f.path f.contents with
    | error fault =>
      rw [(hwrite fault).mp hs]
      rfl
    | ok u =>
      cases ht : t.write f.path f.contents with
      | error fault =>
        rw [(hwrite fault).mpr ht] at hs
        contradiction
      | ok v => rfl

theorem result_install (f : PlannedFile) (s : Store) :
    (f.install s).result =
      (f.ensureParent s).result.bind fun _ => (f.write (f.ensureParent s).store).result :=
  Outcome.result_andThen ..

/-- A file is installed alike where the same files are on the way to its place and the same entry is
at it. -/
theorem result_install_congr (hup : ".." ∉ f.path.steps) (hcurrent : t.current = s.current)
    (hlimit : t.pathLimit = s.pathLimit) (hfiles : s.SameFilesTo t (s.placeOf f.path))
    (hentry : s.get? (s.placeOf f.path) = t.get? (s.placeOf f.path)) :
    (f.install t).result = (f.install s).result := by
  have hparent := result_ensureParent_congr hup hcurrent hlimit hfiles
  rw [result_install, result_install, hparent]
  cases hresult : (f.ensureParent s).result with
  | error e => rfl
  | ok a =>
    have hs : (f.ensureParent s).result.isOk = true := by rw [hresult]; rfl
    have ht : (f.ensureParent t).result.isOk = true := by rw [hparent, hs]
    have hwide := widensTo_ensureParent f s
    have hwide' := widensTo_ensureParent f t
    have hstart : t.start f.path = s.start f.path := Store.start_congr hcurrent f.path
    have hplace : t.placeOf f.path = s.placeOf f.path := Store.placeOf_congr hcurrent f.path
    have hat : (f.ensureParent s).store.get? (s.placeOf f.path) =
        (f.ensureParent t).store.get? (s.placeOf f.path) := by
      rw [get?_place_ensureParent hup, hentry, ← hplace, get?_place_ensureParent hup]
    have hplace' : (f.ensureParent s).store.placeOf f.path = s.placeOf f.path :=
      Store.placeOf_congr hwide.current f.path
    refine result_write_congr hup ?_ ?_ ?_ ?_
    · rw [hwide'.current, hcurrent, hwide.current]
    · rw [hwide'.pathLimit, hlimit, hwide.pathLimit]
    · rw [hplace']
      intro k hk
      by_cases heq : k = s.placeOf f.path
      · rw [heq, Store.kind?, Store.kind?, hat]
      · -- short of its place the way to the file is made of directories by now
        have hway := prefix_around_of_prefix hk heq
        rw [Store.kind?, Store.kind?, get?_around_of_ensureParent hup hs hway,
          get?_around_of_ensureParent hup ht (hstart ▸ hway)]
    · rw [hplace']
      exact hat

/-! ### What a file changes -/

/-- The locations at which there is a directory once the directory of a file has been made. -/
def Makes (f : PlannedFile) (s : Store) (k : Location) : Prop :=
  ∃ q, f.path.home? = some q ∧ s.Makes q k

theorem Makes.on_way (h : f.Makes s k) : k <+: s.placeOf f.path := by
  obtain ⟨q, hhome, hmakes⟩ := h
  exact hmakes.on_way.trans (Store.placeOf_parent_above (Path.parent?_of_home? hhome).1)

theorem Makes.congr (hcurrent : t.current = s.current) (hlimit : t.pathLimit = s.pathLimit)
    (hfiles : s.SameFilesTo t (s.placeOf f.path)) (h : f.Makes s k) : f.Makes t k := by
  obtain ⟨q, hhome, hmakes⟩ := h
  have habove := Store.placeOf_parent_above (s := s) (Path.parent?_of_home? hhome).1
  exact ⟨q, hhome, hmakes.congr hcurrent hlimit (hfiles.mono habove)⟩

theorem directory_ensureParent_iff (hup : ".." ∉ f.path.steps) :
    (f.ensureParent s).store.get? k = some .directory ↔
      s.get? k = some .directory ∨ f.Makes s k := by
  cases hhome : f.path.home? with
  | none =>
    rw [ensureParent_of_homeless hhome]
    refine ⟨.inl, ?_⟩
    rintro (hold | ⟨q, hq, -⟩)
    · exact hold
    · rw [hhome] at hq
      contradiction
  | some q =>
    rw [(ensureParent_of_home hhome s).1,
      Store.directory_makeWay_iff (Path.not_up_of_home? hhome hup)]
    simp only [Makes, hhome, Option.some.injEq, exists_eq_left']

theorem directory_install_iff (hup : ".." ∉ f.path.steps) :
    (f.install s).store.get? k = some .directory ↔ s.get? k = some .directory ∨ f.Makes s k := by
  rw [← directory_ensureParent_iff hup]
  cases hok : (f.install s).result.isOk with
  | false => rw [store_install_of_not_isOk hok]
  | true =>
    obtain ⟨-, -, l, -, hplace, hstore⟩ := install_of_isOk hok
    rw [hstore, Store.get?_put hplace]
    split_ifs with heq
    · rw [← heq]
      simp [hplace.2.2]
    · rfl

theorem file_install_iff (hup : ".." ∉ f.path.steps) {c : String} :
    (f.install s).store.get? k = some (.file c) ↔
      if (f.install s).result.isOk = true ∧ s.placeOf f.path = k then f.contents = c
      else s.get? k = some (.file c) := by
  have hkept : (f.ensureParent s).store.get? k = some (.file c) ↔ s.get? k = some (.file c) :=
    (widensTo_ensureParent f s).file_iff
  cases hok : (f.install s).result.isOk with
  | false =>
    simp only [store_install_of_not_isOk hok, hkept, Bool.false_eq_true, false_and, if_false]
  | true =>
    obtain ⟨entry, hentry⟩ := exists_of_isOk hok
    obtain ⟨-, hplace, hstore, -⟩ := install_placed hup hentry
    rw [hstore, Store.get?_put hplace]
    simp only [true_and]
    split_ifs
    · simp
    · exact hkept

/-- The places of the paths do not lie on the way to one another. -/
def Unrelated (s : Store) (f g : PlannedFile) : Prop :=
  ¬ s.placeOf f.path <+: s.placeOf g.path ∧ ¬ s.placeOf g.path <+: s.placeOf f.path

theorem Unrelated.symm (h : Unrelated s f g) : Unrelated s g f :=
  And.symm h

theorem Unrelated.congr (hcurrent : t.current = s.current) (h : Unrelated s f g) :
    Unrelated t f g := by
  rw [Unrelated, Store.placeOf_congr hcurrent, Store.placeOf_congr hcurrent]
  exact h

theorem install_off_way (hup : ".." ∉ f.path.steps) (hoff : ¬ k <+: s.placeOf f.path) :
    (f.install s).store.get? k = s.get? k := by
  refine Store.get?_eq_of_entries ?_ fun c => ?_
  · rw [directory_install_iff hup]
    exact ⟨fun h => h.resolve_right fun hmakes => hoff hmakes.on_way, .inl⟩
  · have hne : s.placeOf f.path ≠ k := fun heq => hoff (heq ▸ List.prefix_refl _)
    rw [file_install_iff hup, if_neg fun h => hne h.2]

theorem sameFilesTo_install {l : Location} (hup : ".." ∉ f.path.steps)
    (hoff : ¬ s.placeOf f.path <+: l) : s.SameFilesTo (f.install s).store l := by
  intro k hk
  have hne : s.placeOf f.path ≠ k := fun heq => hoff (heq ▸ hk)
  rw [Store.kind?_eq_file_iff, Store.kind?_eq_file_iff]
  simp only [file_install_iff hup, if_neg fun h : _ ∧ _ => hne h.2]

theorem Makes.install_iff (hg : ".." ∉ g.path.steps) (h : ¬ s.placeOf g.path <+: s.placeOf f.path) :
    f.Makes (g.install s).store k ↔ f.Makes s k := by
  have hgrow := growsTo_install g s
  have hfiles := sameFilesTo_install hg h
  have hplace : (g.install s).store.placeOf f.path = s.placeOf f.path :=
    Store.placeOf_congr hgrow.current f.path
  constructor
  · exact congr hgrow.current.symm hgrow.pathLimit.symm (hplace ▸ hfiles.symm)
  · exact congr hgrow.current hgrow.pathLimit hfiles

theorem result_install_after (hf : ".." ∉ f.path.steps) (hg : ".." ∉ g.path.steps)
    (h : Unrelated s f g) : (f.install (g.install s).store).result = (f.install s).result := by
  have hgrow := growsTo_install g s
  have hfiles := sameFilesTo_install hg h.2
  have hentry := install_off_way hg h.1
  exact result_install_congr hf hgrow.current hgrow.pathLimit hfiles hentry.symm

/-- Two files may be installed in either order. -/
theorem store_install_comm (hf : ".." ∉ f.path.steps) (hg : ".." ∉ g.path.steps)
    (h : Unrelated s f g) :
    (f.install (g.install s).store).store = (g.install (f.install s).store).store := by
  have hgrow := growsTo_install g s
  have hgrow' := growsTo_install f s
  have hfirst := result_install_after hf hg h
  have hsecond := result_install_after hg hf h.symm
  have hplace : (g.install s).store.placeOf f.path = s.placeOf f.path :=
    Store.placeOf_congr hgrow.current f.path
  have hplace' : (f.install s).store.placeOf g.path = s.placeOf g.path :=
    Store.placeOf_congr hgrow'.current g.path
  refine Store.ext (fun k => ?_) ?_ ?_
  · refine Store.get?_eq_of_entries ?_ fun c => ?_
    · rw [directory_install_iff hf, directory_install_iff hg, directory_install_iff hg,
        directory_install_iff hf, Makes.install_iff hg h.2, Makes.install_iff hf h.1]
      tauto
    · have hne : s.placeOf f.path ≠ s.placeOf g.path := fun heq => h.1 (heq ▸ List.prefix_refl _)
      rw [file_install_iff hf, file_install_iff hg, file_install_iff hg, file_install_iff hf,
        hfirst, hsecond, hplace, hplace']
      -- no location is the place of both
      by_cases hk : s.placeOf f.path = k
      · have hother : s.placeOf g.path ≠ k := fun heq => hne (hk.trans heq.symm)
        simp only [hother, and_false, if_false]
      · simp only [hk, and_false, if_false]
  · rw [(growsTo_install f _).current, hgrow.current, (growsTo_install g _).current, hgrow'.current]
  · rw [(growsTo_install f _).pathLimit, hgrow.pathLimit, (growsTo_install g _).pathLimit,
      hgrow'.pathLimit]

/-! ### Whole runs -/

theorem commutes_install (hf : ".." ∉ f.path.steps) (hg : ".." ∉ g.path.steps)
    (h : Unrelated s f g) : Commutes f.install g.install s where
  first := result_install_after hf hg h
  second := result_install_after hg hf h.symm
  stores := store_install_comm hf hg h

theorem result_installAll_cons (f : PlannedFile) (fs : List PlannedFile) (s : Store) :
    (installAll (f :: fs) s).result = (f.install s).result.bind fun entry =>
      (installAll fs (f.install s).store).result.map (entry :: ·) := by
  rw [installAll, Outcome.result_andThen]
  rfl

/-- What commutes with every file commutes with all of them, also when a file is refused. -/
theorem commutes_installAll {β : Type} {b : Store → Outcome β}
    (h : ∀ f ∈ fs, ∀ t : Store, t.current = s.current → Commutes f.install b t) :
    Commutes (installAll fs) b s := by
  induction fs generalizing s with
  | nil => exact ⟨rfl, rfl, rfl⟩
  | cons f rest ih =>
    rw [List.forall_mem_cons] at h
    have hfile := h.1 s rfl
    cases hok : (f.install s).result.isOk with
    | false =>
      have hok' : (f.install (b s).store).result.isOk = false := by rw [hfile.first, hok]
      obtain ⟨e, he⟩ := exists_of_not_isOk hok
      constructor
      · rw [result_installAll_cons, result_installAll_cons, hfile.first, he]
        rfl
      · rw [(installAll_cons_of_not_isOk hok).1, hfile.second]
      · rw [(installAll_cons_of_not_isOk hok).1, (installAll_cons_of_not_isOk hok').1, hfile.stores]
    | true =>
      have hok' : (f.install (b s).store).result.isOk = true := by rw [hfile.first, hok]
      have hrest : Commutes (installAll rest) b (f.install s).store :=
        ih fun f' hf' t ht => h.2 f' hf' t (ht.trans (growsTo_install f s).current)
      constructor
      · rw [result_installAll_cons, result_installAll_cons, hfile.first, hfile.stores, hrest.first]
      · rw [(installAll_cons_of_isOk hok).1, hrest.second, hfile.second]
      · rw [(installAll_cons_of_isOk hok).1, (installAll_cons_of_isOk hok').1, hfile.stores,
          hrest.stores]

theorem installAll_comm (hfs : ∀ f ∈ fs, ".." ∉ f.path.steps) (hgs : ∀ g ∈ gs, ".." ∉ g.path.steps)
    (h : ∀ f ∈ fs, ∀ g ∈ gs, Unrelated s f g) : Commutes (installAll fs) (installAll gs) s := by
  refine commutes_installAll fun f hf t ht => Commutes.symm ?_
  refine commutes_installAll fun g hg u hu => Commutes.symm ?_
  exact commutes_install (hfs f hf) (hgs g hg) ((h f hf g hg).congr (hu.trans ht))

end PlannedFile

end Stencil
