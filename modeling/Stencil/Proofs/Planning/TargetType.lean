import Stencil.Proofs.Naming.Letters
import Stencil.Proofs.Planning.Verdict

/-! Types of targets. Of the targets that may be asked for a few name no type; of the others the
type is told letter by letter. -/

namespace Stencil

open TypeCase

variable {name : String}

/-- A name that comes to no type name: there is nothing to it but underscores, or what there is
begins with a digit, or it is `self` with underscores around it. -/
def Typeless (name : List Char) : Prop :=
  name.all (· == '_') = true ∨ (name.find? (· != '_')).any Char.isDigit = true ∨
    core name = ['s', 'e', 'l', 'f']

instance (name : List Char) : Decidable (Typeless name) :=
  inferInstanceAs (Decidable (_ ∨ _ ∨ _))

namespace IsSnakeName

theorem isPlain (h : IsSnakeName name) : ∀ c ∈ name.toList, isPlain c = true := by
  intro c hc
  rw [isPlain_iff, isAlpha_iff]
  rcases h.chars c hc with hlower | hdigit | hline
  · exact .inl (.inr hlower)
  · exact .inr (.inl hdigit)
  · exact .inr (.inr hline)

theorem not_isUpper (h : IsSnakeName name) : ∀ c ∈ name.toList, c.isUpper = false := by
  intro c hc
  rw [Bool.eq_false_iff]
  intro hupper
  rw [isUpper_iff] at hupper
  rcases h.chars c hc with hlower | hdigit | rfl
  · rw [isLower_iff] at hlower
    omega
  · rw [isDigit_iff] at hdigit
    omega
  · exact absurd hupper (by decide)

/-- Of the spellings of `Self` one alone is in snake case. -/
theorem core_mem_selves_iff (h : IsSnakeName name) :
    core name.toList ∈ selves ↔ core name.toList = ['s', 'e', 'l', 'f'] := by
  have hcore : ∀ c ∈ core name.toList, c.isUpper = false := fun c hc =>
    h.not_isUpper c ((List.dropWhile_suffix _).mem ((List.rdropWhile_prefix _ _).mem hc))
  constructor
  · intro hmem
    simp only [selves, List.mem_cons, List.not_mem_nil, or_false] at hmem
    rcases hmem with hself | hself | hself
    · exact hself
    · exact absurd (hcore 'S' (by simp [hself])) (by decide)
    · exact absurd (hcore 'S' (by simp [hself])) (by decide)
  · intro hself
    rw [hself]
    decide

theorem typeless_iff (h : IsSnakeName name) :
    Typeless name.toList ↔ ¬ ∃ i : Identifier, i.text = pascalCase name := by
  rw [exists_identifier_iff h.isPlain, ne_eq, pascalCase_eq_self_iff h.isPlain,
    h.core_mem_selves_iff, not_and_or, not_not, Typeless, ← or_assoc]
  refine or_congr_left ?_
  cases hfind : name.toList.find? (· != '_') with
  | none =>
    have hlines : name.toList.all (· == '_') = true := by simpa using hfind
    exact iff_of_true (.inl hlines) Bool.false_ne_true
  | some c =>
    have hmem := List.mem_of_find?_eq_some hfind
    have hline : c ≠ '_' := by simpa using List.find?_some hfind
    have hlines : ¬ name.toList.all (· == '_') = true := fun hall =>
      hline (by simpa using List.all_eq_true.mp hall c hmem)
    rw [or_iff_right hlines, Option.any_some, Option.any_some]
    rcases isPlain_iff.mp (h.isPlain c hmem) with halpha | hdigit | heq
    · have hdigit : c.isDigit = false := by
        rw [Bool.eq_false_iff]
        exact fun hdigit => by rw [isAlpha_eq_false_of_isDigit hdigit] at halpha; contradiction
      simp [halpha, hdigit]
    · simp [hdigit, isAlpha_eq_false_of_isDigit hdigit]
    · exact absurd heq hline

theorem toList_pascalCase (h : IsSnakeName name) :
    (pascalCase name).toList = lettered (followsBreak name.toList) name.toList := by
  rw [TypeCase.toList_pascalCase h.isPlain, cased_eq_lettered, lettered_of_small h.not_isUpper]

end IsSnakeName

namespace Generator

variable {g : Generator} {r : Request} {as : List Attribute}

/-- Of a request with nothing else wrong the name of the type is at fault if the target is typeless.
Or else it is the target without its underscores, with capital letters at the front and right after
underscores and digits. -/
theorem planned_or_typeless (htarget : isTarget r.target = true)
    (htokens : r.definitions.map Attribute.parse = as.map .ok)
    (hdistinct : (Attribute.names as).Nodup) (hcase : g.typeCase = pascalCase) (s : Store) :
    ((∃ target typeName, (g.plan s r).result = .error (.invalidTypeName target typeName)) ↔
      Typeless r.target.toList) ∧
    (¬ Typeless r.target.toList → ∃ p, (g.plan s r).result = .ok p ∧
      p.typeName.toList = lettered (followsBreak r.target.toList) r.target.toList) := by
  have hsnake := isTarget_iff.mp htarget
  rw [hsnake.typeless_iff, not_not]
  by_cases htype : ∃ i : Identifier, i.text = pascalCase r.target
  · obtain ⟨i, hi⟩ := htype
    have hplan := plan_of_verdict
      (.accepted hsnake htokens hdistinct (hcase ▸ hi) (fulfils_planFor g s r as i))
    refine ⟨iff_of_false ?_ (not_not.mpr ⟨i, hi⟩), fun _ => ⟨_, hplan, ?_⟩⟩
    · rintro ⟨target, typeName, herror⟩
      rw [hplan] at herror
      contradiction
    · rw [← hsnake.toList_pascalCase, ← hi]
      rfl
  · have hnone : ∀ i : Identifier, i.text ≠ g.typeCase r.target := by
      rw [hcase]
      exact not_exists.mp htype
    have hplan := plan_of_verdict (s := s) (.badTypeName hsnake htokens hdistinct hnone)
    exact ⟨iff_of_true ⟨_, _, hplan⟩ htype, fun h => absurd h htype⟩

theorem self_with_underscores_is_typeless_and_http2_is_not :
    (∃ target typeName, (({} : Generator).plan (.empty none) ⟨"_self_", ["sum:integer"]⟩).result =
        .error (.invalidTypeName target typeName)) ∧
      ∃ p, (({} : Generator).plan (.empty none) ⟨"_http2__x1y", ["sum:integer"]⟩).result = .ok p ∧
        p.typeName = "Http2X1Y" := by
  have htokens : ["sum:integer"].map Attribute.parse =
      [⟨⟨"sum", false, by decide⟩, .integer, .required, by decide⟩].map .ok := by rfl
  have hself := planned_or_typeless (g := {}) (r := ⟨"_self_", ["sum:integer"]⟩) (by decide) htokens
    (by decide) rfl (.empty none)
  have hother := planned_or_typeless (g := {}) (r := ⟨"_http2__x1y", ["sum:integer"]⟩) (by decide)
    htokens (by decide) rfl (.empty none)
  obtain ⟨p, hplan, hletters⟩ := hother.2 (by decide)
  exact ⟨hself.1.mpr (by decide), p, hplan, String.toList_injective hletters⟩

end Generator

end Stencil
