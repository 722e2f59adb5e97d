import Mathlib.Data.List.Nodup
import Mathlib.Tactic.Tauto
import Stencil.Proofs.Definition.Grammar

/-! Lists of tokens. They are read in their order up to the first fault, and of the attributes that
they define the first counts whose name has come before. -/

namespace Stencil

namespace Attribute

section Tokens

variable {tokens before after : List String} {token : String} {as : List Attribute} {e : Failure}

theorem parseAll_eq_ok_iff : parseAll tokens = .ok as ↔ tokens.map parse = as.map .ok := by
  induction tokens generalizing as with
  | nil => cases as <;> simp [parseAll]
  | cons token rest ih =>
    rw [parseAll, List.map_cons]
    cases hparse : parse token with
    | error f => cases as <;> simp
    | ok a =>
      cases as with
      | nil => cases parseAll rest <;> simp
      | cons b bs =>
        rw [List.map_cons, List.cons.injEq, Except.ok.injEq, ← ih]
        cases parseAll rest <;> simp

/-- The first token that cannot be read decides, whatever comes after it. -/
theorem parseAll_of_first_fault (hbefore : ∀ t ∈ before, ∃ a, parse t = .ok a)
    (htoken : parse token = .error e) : parseAll (before ++ token :: after) = .error e := by
  induction before with
  | nil => rw [List.nil_append, parseAll, htoken]
  | cons t before ih =>
    rw [List.forall_mem_cons] at hbefore
    obtain ⟨⟨a, ha⟩, hrest⟩ := hbefore
    rw [List.cons_append, parseAll, ha]
    simp only [ih hrest]

theorem exists_first_fault (h : parseAll tokens = .error e) :
    ∃ before token after, tokens = before ++ token :: after ∧
      (∀ t ∈ before, ∃ a, parse t = .ok a) ∧ parse token = .error e := by
  induction tokens with
  | nil => contradiction
  | cons token rest ih =>
    rw [parseAll] at h
    split at h
    · rename_i hparse
      obtain rfl := Except.error.inj h
      exact ⟨[], token, rest, rfl, nofun, hparse⟩
    · rename_i a hparse
      split at h
      · rename_i hrest
        obtain rfl := Except.error.inj h
        obtain ⟨before, t, after, rfl, hbefore, ht⟩ := ih hrest
        exact ⟨token :: before, t, after, rfl, List.forall_mem_cons.mpr ⟨⟨a, hparse⟩, hbefore⟩, ht⟩
      · contradiction

end Tokens

/-! ### Names that come twice -/

section Names

variable {seen : List String} {as before after : List Attribute} {a : Attribute} {name : String}

/-- The names of attributes, without the raw mark. -/
def names (as : List Attribute) : List String :=
  as.map (·.name.plain)

theorem names_append (as bs : List Attribute) : names (as ++ bs) = names as ++ names bs :=
  List.map_append

theorem repeatedName?_of_first_repeat (hdistinct : (names before).Nodup)
    (hnew : ∀ b ∈ before, b.name.plain ∉ seen)
    (hrepeated : a.name.plain ∈ seen ∨ a.name.plain ∈ names before) :
    repeatedName? seen (before ++ a :: after) = some a.name.plain := by
  induction before generalizing seen with
  | nil =>
    have hseen : a.name.plain ∈ seen := by simpa [names] using hrepeated
    rw [List.nil_append, repeatedName?, if_pos (by simpa using hseen)]
  | cons b before ih =>
    rw [List.forall_mem_cons] at hnew
    rw [names, List.map_cons, List.nodup_cons] at hdistinct
    rw [List.cons_append, repeatedName?, if_neg (by simpa using hnew.1)]
    refine ih hdistinct.2 (fun c hc => ?_) ?_
    · rw [List.mem_cons, not_or]
      exact ⟨fun h => hdistinct.1 (h ▸ List.mem_map_of_mem hc), hnew.2 c hc⟩
    · rw [names, List.map_cons, List.mem_cons] at hrepeated
      rw [List.mem_cons]
      tauto

theorem exists_first_repeat (h : repeatedName? seen as = some name) :
    ∃ before a after, as = before ++ a :: after ∧ a.name.plain = name ∧
      (names before).Nodup ∧ (∀ b ∈ before, b.name.plain ∉ seen) ∧
      (name ∈ seen ∨ name ∈ names before) := by
  induction as generalizing seen with
  | nil => contradiction
  | cons a as ih =>
    rw [repeatedName?] at h
    split at h
    · rename_i hseen
      obtain rfl := Option.some.inj h
      exact ⟨[], a, as, rfl, rfl, List.nodup_nil, nofun, .inl (by simpa using hseen)⟩
    · rename_i hseen
      obtain ⟨before, c, after, rfl, hname, hdistinct, hnew, hrepeated⟩ := ih h
      refine ⟨a :: before, c, after, rfl, hname, ?_, ?_, ?_⟩
      · refine List.nodup_cons.mpr ⟨fun hmem => ?_, hdistinct⟩
        obtain ⟨b, hb, hsame⟩ := List.mem_map.mp hmem
        exact hnew b hb (hsame ▸ List.mem_cons_self)
      · exact List.forall_mem_cons.mpr ⟨by simpa using hseen,
          fun b hb hmem => hnew b hb (List.mem_cons_of_mem _ hmem)⟩
      · rw [List.mem_cons] at hrepeated
        rw [names, List.map_cons, List.mem_cons]
        change _ ∨ _ ∨ name ∈ names before
        tauto

theorem repeatedName?_eq_none_iff : repeatedName? seen as = none ↔
    (names as).Nodup ∧ ∀ a ∈ as, a.name.plain ∉ seen := by
  induction as generalizing seen with
  | nil => simp [repeatedName?, names]
  | cons a as ih =>
    rw [repeatedName?, List.forall_mem_cons, names, List.map_cons, List.nodup_cons]
    split
    · rename_i hseen
      have hmem : a.name.plain ∈ seen := by simpa using hseen
      exact ⟨nofun, fun h => absurd hmem h.2.1⟩
    · rename_i hseen
      have hmem : a.name.plain ∉ seen := by simpa using hseen
      rw [ih]
      constructor
      · rintro ⟨hdistinct, hnew⟩
        refine ⟨⟨fun h => ?_, hdistinct⟩, hmem, fun b hb h => ?_⟩
        · obtain ⟨b, hb, hsame⟩ := List.mem_map.mp h
          exact hnew b hb (hsame ▸ List.mem_cons_self)
        · exact hnew b hb (List.mem_cons_of_mem _ h)
      · rintro ⟨⟨hfresh, hdistinct⟩, -, hnew⟩
        refine ⟨hdistinct, fun b hb h => ?_⟩
        rcases List.mem_cons.mp h with hsame | hold
        · exact hfresh (hsame ▸ List.mem_map_of_mem hb)
        · exact hnew b hb hold

theorem exists_repeatedName (h : ¬ (names as).Nodup) :
    ∃ name, repeatedName? [] as = some name :=
  Option.ne_none_iff_exists'.mp fun hnone => h (repeatedName?_eq_none_iff.mp hnone).1

theorem exists_repeat_of_not_nodup (h : ¬ (names as).Nodup) :
    ∃ before a after, as = before ++ a :: after ∧ (names before).Nodup ∧
      a.name.plain ∈ names before := by
  obtain ⟨name, hname⟩ := exists_repeatedName h
  obtain ⟨before, a, after, rfl, rfl, hdistinct, -, hrepeated⟩ := exists_first_repeat hname
  exact ⟨before, a, after, rfl, hdistinct, hrepeated.resolve_left List.not_mem_nil⟩

end Names

end Attribute

end Stencil
