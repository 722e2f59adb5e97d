import Stencil.Proofs.Naming.ModelName
import Stencil.Proofs.Planning.Verdict

/-! Types of models. The type name of a target is checked when a request is planned; that of a model
is not, and there are models whose type is no identifier. -/

namespace Stencil

open TypeCase

namespace Generator

variable {g : Generator} {s : Store} {r : Request} {p : Plan} {a : Attribute}

/-- One more attribute is refused for its name only. -/
theorem plan_with_one_more (hp : (g.plan s r).result = .ok p)
    (hnew : a.name.plain ∉ Attribute.names (p.required ++ p.optional)) :
    ∃ q, (g.plan s ⟨r.target, r.definitions ++ [a.display]⟩).result = .ok q ∧
      (q.required ++ q.optional).Perm (p.required ++ p.optional ++ [a]) := by
  obtain _ | _ | _ | _ | ⟨htarget, htokens, hdistinct, htype, hplan⟩ := plan_eq_iff_verdict.mp hp
  rename_i as i
  have hnames : (Attribute.names (p.required ++ p.optional)).Perm (Attribute.names as) :=
    hplan.perm.map _
  have hq := fulfils_planFor g s ⟨r.target, r.definitions ++ [a.display]⟩ (as ++ [a]) i
  refine ⟨_, plan_of_verdict (.accepted htarget ?_ ?_ htype hq), ?_⟩
  · rw [List.map_append, htokens, List.map_append]
    simp [Attribute.parse_display]
  · rw [Attribute.names_append, List.nodup_append]
    refine ⟨hdistinct, List.nodup_singleton _, fun name hname other hother => ?_⟩
    obtain rfl : other = a.name.plain := List.mem_singleton.mp hother
    rintro rfl
    exact hnew (hnames.mem_iff.mpr hname)
  · exact hq.perm.trans (hplan.perm.symm.append_right [a])

/-- The type of a model is an identifier when the name of the model begins with a letter,
underscores aside, and is not one of the spellings of `Self`; or else it is empty, begins with a
digit or is `Self`. No request is refused for it. -/
theorem model_type_is_not_checked (hmodel : a.filter = .model) :
    ((∃ i : Identifier, i.text = a.valueType) ↔
      (a.name.plain.toList.find? (· != '_')).any Char.isAlpha = true ∧
        core a.name.plain.toList ∉ selves) ∧
    ((¬ ∃ i : Identifier, i.text = a.valueType) ↔
      a.valueType = "" ∨ a.valueType.toList.head?.any Char.isDigit = true ∨
        a.valueType = "Self") ∧
    ∀ (g : Generator) s r p, (g.plan s r).result = .ok p →
      a.name.plain ∉ Attribute.names (p.required ++ p.optional) →
      ∃ q, (g.plan s ⟨r.target, r.definitions ++ [a.display]⟩).result = .ok q ∧
        (q.required ++ q.optional).Perm (p.required ++ p.optional ++ [a]) := by
  have hplain := isPlain_of_isAscii a.ascii
  rw [Attribute.valueType_of_model hmodel]
  refine ⟨?_, not_identifier_iff hplain, fun g s r p hp hnew => plan_with_one_more hp hnew⟩
  rw [exists_identifier_iff hplain, ne_eq, pascalCase_eq_self_iff hplain]

theorem self_as_a_model_type_is_not_checked :
    let a : Attribute := ⟨⟨"_self", false, by decide⟩, .model, .optional, by decide⟩
    a.valueType = "Self" ∧ (¬ ∃ i : Identifier, i.text = a.valueType) ∧
      ∃ q, (({} : Generator).plan (.empty none)
        ⟨"pay", ["sum:integer", "_self:model:optional"]⟩).result = .ok q ∧
          a ∈ q.required ++ q.optional := by
  intro a
  have htype : a.valueType = "Self" := by decide
  have hchecked := model_type_is_not_checked (a := a) rfl
  refine ⟨htype, hchecked.2.1.mpr (.inr (.inr htype)), ?_⟩
  let p : Plan := ({} : Generator).planFor false ⟨"pay", ⟨"Pay", false, by decide⟩,
    [⟨⟨"sum", false, by decide⟩, .integer, .required, by decide⟩], []⟩
  have hp : (({} : Generator).plan (.empty none) ⟨"pay", ["sum:integer"]⟩).result = .ok p := by rfl
  obtain ⟨q, hq, hperm⟩ := hchecked.2.2 {} (.empty none) _ p hp (by decide)
  exact ⟨q, hq, hperm.mem_iff.mpr (by simp)⟩

/-- A request is accepted though the type of its only input comes to nothing. -/
theorem nameless_model_type_is_planned :
    ∃ p a, (({} : Generator).plan (.empty none) ⟨"pay", ["__:model"]⟩).result = .ok p ∧
      p.required = [a] ∧ a.filter = .model ∧ a.fieldType = "" ∧
      ¬ ∃ i : Identifier, i.text = a.valueType := by
  let a : Attribute := ⟨⟨"__", false, by decide⟩, .model, .required, by decide⟩
  have htype : a.valueType = "" := by decide
  refine ⟨({} : Generator).planFor false ⟨"pay", ⟨"Pay", false, by decide⟩, [a], []⟩, a, by rfl,
    rfl, rfl, htype, ?_⟩
  rintro ⟨i, hi⟩
  exact i.text_ne_empty (hi.trans htype)

end Generator

end Stencil
