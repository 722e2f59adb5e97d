import Stencil.Proofs.Execution.Effect

/-! Runs one after the other. A run over the paths of an earlier one leaves no trace of the earlier
one, neither where both came to their end nor where both were refused, and what it says of its files
is how the two differ in their contents. -/

namespace Stencil

/-- Each path names a place of its own. -/
def Store.Apart (s : Store) (ps : List Path) : Prop :=
  ps.Pairwise fun p q => s.placeOf p ≠ s.placeOf q

namespace PlannedFile

variable {f g : PlannedFile} {fs gs before after : List PlannedFile} {s t : Store}
  {k : Location}

theorem not_place_of_apart (hfs : fs = before ++ f :: after) (h : s.Apart (fs.map path)) :
    (∀ g ∈ before, s.placeOf g.path ≠ s.placeOf f.path) ∧
      ∀ g ∈ after, s.placeOf g.path ≠ s.placeOf f.path := by
  rw [hfs, Store.Apart, List.pairwise_map, List.pairwise_append, List.pairwise_cons] at h
  obtain ⟨-, ⟨hafter, -⟩, hbefore⟩ := h
  exact ⟨fun g hg => hbefore g hg f List.mem_cons_self, fun g hg => (hafter g hg).symm⟩

theorem exists_place_congr (hpaths : fs.map path = gs.map path) :
    (∃ f ∈ fs, s.placeOf f.path = k) ↔ ∃ g ∈ gs, s.placeOf g.path = k := by
  have hmem : ∀ hs : List PlannedFile,
      (∃ f ∈ hs, s.placeOf f.path = k) ↔ ∃ p ∈ hs.map path, s.placeOf p = k := by
    intro hs
    simp
  rw [hmem fs, hmem gs, hpaths]

theorem forall_up_congr (hpaths : fs.map path = gs.map path)
    (h : ∀ f ∈ fs, ".." ∉ f.path.steps) : ∀ g ∈ gs, ".." ∉ g.path.steps := by
  rw [← List.forall_mem_map (f := path) (P := fun p => ".." ∉ p.steps)] at h ⊢
  rwa [← hpaths]

/-- Runs over the same files that come equally far leave the same contents. -/
theorem file_installAll_congr (hup : ∀ f ∈ fs, ".." ∉ f.path.steps)
    (hcurrent : t.current = s.current) (hprogress : progress fs t = progress fs s) {c : String}
    (hold : (∀ f ∈ fs.take (progress fs s), s.placeOf f.path ≠ k) →
      (t.get? k = some (.file c) ↔ s.get? k = some (.file c))) :
    (installAll fs t).store.get? k = some (.file c) ↔
      (installAll fs s).store.get? k = some (.file c) := by
  have hs := settles_installAll (s := s) hup k
  have ht := (settles_installAll (s := t) hup k).congr hcurrent
  rw [hprogress] at ht
  by_cases hplace : ∃ f ∈ fs.take (progress fs s), s.placeOf f.path = k
  · -- the last file placed there decides in both runs
    obtain ⟨a, ha, hleft⟩ := hs.of_place hplace
    obtain ⟨b, hb, hleft'⟩ := ht.of_place hplace
    rw [ha, hb, ← hleft none, ← hleft' none]
  · have hoff : ∀ f ∈ fs.take (progress fs s), s.placeOf f.path ≠ k :=
      fun f hf hk => hplace ⟨f, hf, hk⟩
    rw [hs.file_iff hoff, ht.file_iff hoff, hold hoff]

/-- The second run leaves what it would have left without the first. -/
theorem store_installAll_again (hup : ∀ f ∈ fs, ".." ∉ f.path.steps)
    (hpaths : fs.map path = gs.map path) (s : Store) :
    (installAll gs (installAll fs s).store).store = (installAll gs s).store := by
  obtain ⟨hagain, hsecond⟩ := installAll_again s hpaths
  obtain ⟨hfirst, hprogress⟩ := installAll_alike (Store.Alike.refl s) hpaths
  have halike := hagain.symm.trans hfirst
  refine Store.ext (fun k => ?_) halike.current halike.pathLimit
  refine Store.get?_eq_of_kind (halike.kind k) fun c => ?_
  refine file_installAll_congr (forall_up_congr hpaths hup) (growsTo_installAll fs s).current
    (hsecond.trans hprogress) fun hoff => ?_
  -- where the second run places nothing, the first has placed nothing either
  refine (settles_installAll hup k).file_iff fun f hf hk => ?_
  have htaken : (fs.take (progress fs s)).map path = (gs.take (progress gs s)).map path := by
    rw [List.map_take, List.map_take, hpaths, hprogress]
  obtain ⟨g, hg, hgk⟩ := (exists_place_congr htaken).mp ⟨f, hf, hk⟩
  exact hoff g hg hgk

/-! ### What the second run says -/

/-- What is said of a file written where another one was. -/
def renewed (f g : PlannedFile) : Path × Status :=
  (g.path, if f.contents = g.contents then .identical else .overwritten)

theorem isOk_installAll_again (hpaths : fs.map path = gs.map path)
    (hok : (installAll fs s).result.isOk = true) :
    (installAll gs (installAll fs s).store).result.isOk = true := by
  have hlength : fs.length = gs.length := by simpa using congrArg List.length hpaths
  rw [isOk_installAll_iff, (installAll_again s hpaths).2, isOk_installAll_iff.mp hok, hlength]

theorem installAll_again_entry {before' after' : List PlannedFile}
    {entries : List (Path × Status)} (hup : ∀ f ∈ fs, ".." ∉ f.path.steps)
    (hpaths : fs.map path = gs.map path) (hapart : s.Apart (fs.map path))
    (hok : (installAll fs s).result.isOk = true)
    (h : (installAll gs (installAll fs s).store).result = .ok entries)
    (hfs : fs = before ++ f :: after) (hgs : gs = before' ++ g :: after')
    (hpath : f.path = g.path) : entries[before'.length]? = some (renewed f g) := by
  have hcurrent := (growsTo_installAll fs s).current
  -- the first run has left its own file there, and the second has not come there before
  have hleft := get?_installAll_of_last hfs hup hok (not_place_of_apart hfs hapart).2
  have hbefore := (not_place_of_apart hgs (hpaths ▸ hapart)).1
  rw [installAll_entry hgs (forall_up_congr hpaths hup) h, Store.placeOf_congr hcurrent,
    leftAt_congr hcurrent, leftAt_of_no_place hbefore, ← hpath, hleft, renewed, hpath]
  rfl

/-- Lists as long as a third are equal if they agree wherever the third is parted. -/
theorem eq_of_parted {α β : Type} {as : List α} {xs ys : List β} (hxs : xs.length = as.length)
    (hys : ys.length = as.length)
    (h : ∀ before a after, as = before ++ a :: after → xs[before.length]? = ys[before.length]?) :
    xs = ys := by
  refine List.ext_getElem? fun i => ?_
  by_cases hi : i < as.length
  · have hparted := h (as.take i) as[i] (as.drop (i + 1)) (by simp)
    rwa [List.length_take, Nat.min_eq_left (Nat.le_of_lt hi)] at hparted
  · rw [List.getElem?_eq_none (by omega), List.getElem?_eq_none (by omega)]

theorem installAll_again_entries (hup : ∀ f ∈ fs, ".." ∉ f.path.steps)
    (hpaths : fs.map path = gs.map path) (hapart : s.Apart (fs.map path))
    (hok : (installAll fs s).result.isOk = true) :
    (installAll gs (installAll fs s).store).result = .ok (List.zipWith renewed fs gs) := by
  have hlength : fs.length = gs.length := by simpa using congrArg List.length hpaths
  obtain ⟨entries, hentries⟩ := exists_of_isOk (isOk_installAll_again hpaths hok)
  have hcount : entries.length = gs.length := by
    simpa using congrArg List.length (installAll_paths hentries)
  rw [hentries, Except.ok.injEq]
  refine eq_of_parted hcount (by simp [hlength]) fun before' g after' hgs => ?_
  have hparted : fs.map path = before'.map path ++ g.path :: after'.map path := by
    rw [hpaths, hgs, List.map_append, List.map_cons]
  obtain ⟨before, others, hfs, hbefore, hothers⟩ := List.map_eq_append_iff.mp hparted
  obtain ⟨f, after, rfl, hpath, -⟩ := List.map_eq_cons_iff.mp hothers
  have hcut : before.length = before'.length := by simpa using congrArg List.length hbefore
  rw [installAll_again_entry hup hpaths hapart hok hentries hfs hgs hpath, hfs, hgs,
    List.zipWith_append hcut, List.getElem?_append_right (by simp [hcut])]
  simp [hcut]

end PlannedFile

end Stencil
