import Stencil.Store.Change

/-! Stores seen without the contents of their files. Where a path leads and which changes are
refused hangs on kinds alone, so stores of the same kinds throughout cannot be told apart by either.
A store that has grown keeps every kind, and where a path led before, it leads still. -/

namespace Stencil

/-- An entry without its contents. -/
inductive Kind where
  | directory
  | file
deriving DecidableEq, Repr

def Entry.kind : Entry → Kind
  | .directory => .directory
  | .file _ => .file

namespace Store

variable {s t u : Store} {l here : Location}

def kind? (s : Store) (l : Location) : Option Kind :=
  (s.get? l).map Entry.kind

theorem kind?_eq_none_iff : s.kind? l = none ↔ s.get? l = none := by
  simp [kind?]

theorem kind?_eq_directory_iff :
    s.kind? l = some .directory ↔ s.get? l = some .directory := by
  unfold kind?
  rcases s.get? l with _ | _ | c <;> simp [Entry.kind]

theorem kind?_eq_file_iff : s.kind? l = some .file ↔ ∃ c, s.get? l = some (.file c) := by
  unfold kind?
  rcases s.get? l with _ | _ | c <;> simp [Entry.kind]

theorem get?_eq_of_kind (hkind : s.kind? l = t.kind? l)
    (hfile : ∀ c, s.get? l = some (.file c) ↔ t.get? l = some (.file c)) :
    s.get? l = t.get? l := by
  rcases hs : s.get? l with _ | _ | c
  · rw [kind?_eq_none_iff.mpr hs] at hkind
    exact (kind?_eq_none_iff.mp hkind.symm).symm
  · rw [kind?_eq_directory_iff.mpr hs] at hkind
    exact (kind?_eq_directory_iff.mp hkind.symm).symm
  · exact ((hfile c).mp hs).symm

theorem get?_eq_of_entries (hdir : s.get? k = some .directory ↔ t.get? k = some .directory)
    (hfile : ∀ c, s.get? k = some (.file c) ↔ t.get? k = some (.file c)) :
    s.get? k = t.get? k := by
  cases hs : s.get? k with
  | none =>
    cases ht : t.get? k with
    | none => rfl
    | some e =>
      cases e with
      | directory => rw [← hdir, hs] at ht; contradiction
      | file c => rw [← hfile, hs] at ht; contradiction
  | some e =>
    cases e with
    | directory => exact (hdir.mp hs).symm
    | file c => exact ((hfile c).mp hs).symm

theorem kind?_put (h : s.Placeable l) (e : Entry) (k : Location) :
    (s.put l e).kind? k = if l = k then some e.kind else s.kind? k := by
  rw [kind?, get?_put h]
  split <;> rfl

theorem placeable_iff : s.Placeable l ↔
    l ≠ [] ∧ s.kind? l.dropLast = some .directory ∧ s.kind? l ≠ some .directory := by
  simp only [Placeable, ne_eq, kind?_eq_directory_iff]

theorem put_of_not_placeable (h : ¬ s.Placeable l) (e : Entry) : s.put l e = s := by
  rw [put, dif_neg h]

/-! ### Stores of the same kinds -/

/-- The stores differ in what their files contain, at most. -/
structure Alike (s t : Store) : Prop where
  current : s.current = t.current
  pathLimit : s.pathLimit = t.pathLimit
  kind : ∀ l, s.kind? l = t.kind? l

theorem Alike.refl (s : Store) : s.Alike s :=
  ⟨rfl, rfl, fun _ => rfl⟩

theorem Alike.symm (h : s.Alike t) : t.Alike s :=
  ⟨h.current.symm, h.pathLimit.symm, fun l => (h.kind l).symm⟩

theorem Alike.trans (h : s.Alike t) (h' : t.Alike u) : s.Alike u :=
  ⟨h.current.trans h'.current, h.pathLimit.trans h'.pathLimit,
    fun l => (h.kind l).trans (h'.kind l)⟩

theorem Alike.placeable_iff (h : s.Alike t) : s.Placeable l ↔ t.Placeable l := by
  rw [Store.placeable_iff, Store.placeable_iff, h.kind, h.kind]

theorem Alike.put (h : s.Alike t) {e f : Entry} (he : e.kind = f.kind) :
    (s.put l e).Alike (t.put l f) := by
  refine ⟨by simp [h.current], by simp [h.pathLimit], fun k => ?_⟩
  by_cases hs : s.Placeable l
  · rw [kind?_put hs, kind?_put (h.placeable_iff.mp hs), h.kind, he]
  · rw [put_of_not_placeable hs, put_of_not_placeable (mt h.placeable_iff.mpr hs), h.kind]

/-! ### Stores that have grown -/

/-- All that `s` holds is in `t` too, as an entry of the same kind. -/
structure GrowsTo (s t : Store) : Prop where
  current : t.current = s.current
  pathLimit : t.pathLimit = s.pathLimit
  kind : ∀ {l k}, s.kind? l = some k → t.kind? l = some k

theorem GrowsTo.refl (s : Store) : s.GrowsTo s :=
  ⟨rfl, rfl, id⟩

theorem GrowsTo.trans (h : s.GrowsTo t) (h' : t.GrowsTo u) : s.GrowsTo u :=
  ⟨h'.current.trans h.current, h'.pathLimit.trans h.pathLimit, fun hk => h'.kind (h.kind hk)⟩

theorem GrowsTo.directory (h : s.GrowsTo t) (hl : s.get? l = some .directory) :
    t.get? l = some .directory :=
  kind?_eq_directory_iff.mp (h.kind (kind?_eq_directory_iff.mpr hl))

theorem Alike.growsTo (h : s.Alike t) : s.GrowsTo t :=
  ⟨h.current.symm, h.pathLimit.symm, fun hk => h.kind _ ▸ hk⟩

theorem growsTo_put_file (s : Store) (l : Location) (c : String) :
    s.GrowsTo (s.put l (.file c)) := by
  refine ⟨by simp, by simp, fun {k kind} hk => ?_⟩
  by_cases hl : s.Placeable l
  · rw [kind?_put hl]
    split
    · rename_i heq
      subst heq
      cases kind with
      | directory => exact absurd hk (Store.placeable_iff.mp hl).2.2
      | file => rfl
    · exact hk
  · rwa [put_of_not_placeable hl]

theorem alike_put_file {c : String} (hl : s.kind? l = some .file) (hne : s.Placeable l) :
    s.Alike (s.put l (.file c)) := by
  refine ⟨by simp, by simp, fun k => ?_⟩
  rw [kind?_put hne]
  split
  · rename_i heq
    rw [← heq, hl]
    rfl
  · rfl

/-- `t` is `s` with directories added. -/
structure WidensTo (s t : Store) : Prop where
  current : t.current = s.current
  pathLimit : t.pathLimit = s.pathLimit
  entry : ∀ l, t.get? l = s.get? l ∨ s.get? l = none ∧ t.get? l = some .directory

theorem WidensTo.refl (s : Store) : s.WidensTo s :=
  ⟨rfl, rfl, fun _ => .inl rfl⟩

theorem WidensTo.trans (h : s.WidensTo t) (h' : t.WidensTo u) : s.WidensTo u := by
  refine ⟨h'.current.trans h.current, h'.pathLimit.trans h.pathLimit, fun l => ?_⟩
  rcases h'.entry l with hu | ⟨ht, hu⟩
  · rw [hu]
    exact h.entry l
  · rcases h.entry l with hs | ⟨_, hdir⟩
    · exact .inr ⟨hs ▸ ht, hu⟩
    · rw [ht] at hdir
      contradiction

theorem WidensTo.get? (h : s.WidensTo t) {e : Entry} (hl : s.get? l = some e) :
    t.get? l = some e := by
  rcases h.entry l with heq | ⟨hnone, _⟩
  · rw [heq, hl]
  · rw [hl] at hnone
    contradiction

theorem WidensTo.file_iff (h : s.WidensTo t) {c : String} :
    t.get? l = some (.file c) ↔ s.get? l = some (.file c) := by
  rcases h.entry l with heq | ⟨hnone, hdir⟩
  · rw [heq]
  · simp [hnone, hdir]

theorem WidensTo.growsTo (h : s.WidensTo t) : s.GrowsTo t := by
  refine ⟨h.current, h.pathLimit, fun {l k} hk => ?_⟩
  obtain ⟨e, he, rfl⟩ := Option.map_eq_some_iff.mp hk
  rw [kind?, h.get? he]
  rfl

theorem widensTo_put_directory (hl : s.get? l = none) : s.WidensTo (s.put l .directory) := by
  by_cases hput : s.Placeable l
  · refine ⟨by simp, by simp, fun k => ?_⟩
    rw [get?_put hput]
    split
    · rename_i heq
      exact .inr ⟨heq ▸ hl, rfl⟩
    · exact .inl rfl
  · rw [put_of_not_placeable hput]
    exact .refl s

end Store

end Stencil
