import Stencil.Proofs.Definition.Display
import Stencil.Proofs.Naming.Letters

/-! What a model makes of its name. The type has the letters and digits of the name in their order,
and which letters are capital ones is told by their neighbours in the name; the raw mark is no part
of it. -/

namespace Stencil

open TypeCase

namespace Identifier

variable {i j : Identifier} {word : String}

/-- A word and the same word marked are spellings of one name. -/
theorem plain_of_marked (hi : i.text = Attribute.escaped word)
    (hj : j.text = Attribute.escaped ("r#" ++ word)) : j.plain = i.plain := by
  rw [Attribute.escaped_of_not_mem (raw_not_mem_keywords word), text_eq_raw_iff] at hj
  rw [hj.2]
  by_cases hword : word ∈ keywords
  · rw [Attribute.escaped_of_mem hword, text_eq_raw_iff] at hi
    exact hi.2.symm
  · rw [Attribute.escaped_of_not_mem hword] at hi
    cases hraw : i.raw with
    | false => rw [← hi, text, hraw, if_neg Bool.false_ne_true]
    | true =>
      -- The word would begin with a mark of its own.
      have hmarked : j.plain = "r#" ++ i.plain := by rw [hj.2, ← hi, text, hraw, if_pos rfl]
      have hplain := j.isWord_plain
      simp [hmarked, String.toList_append, not_isWord_raw] at hplain

end Identifier

namespace Attribute

variable {a b : Attribute} {token token' : String}

theorem valueType_of_model (h : a.filter = .model) : a.valueType = pascalCase a.name.plain := by
  rw [valueType, h]

theorem toList_valueType_of_model (h : a.filter = .model) :
    a.valueType.toList = lettered (isCapital a.name.plain.toList) a.name.plain.toList := by
  rw [valueType_of_model h, toList_pascalCase (isPlain_of_isAscii a.ascii),
    cased_eq_lettered_isCapital]

theorem lower_valueType_of_model (h : a.filter = .model) :
    Text.lower a.valueType.toList = Text.lower (a.name.plain.toList.filter (· != '_')) := by
  have hplain := isPlain_of_isAscii a.ascii
  have htype : ∀ c ∈ a.valueType.toList, c.toNat < 128 := by
    rw [valueType_of_model h]
    intro c hc
    exact toNat_lt_of_isPlain (isPlain_iff.mpr ((isAlphanum_pascalCase hplain c hc).imp_right .inl))
  have hname : ∀ c ∈ a.name.plain.toList.filter (· != '_'), c.toNat < 128 := fun c hc =>
    toNat_lt_of_isPlain (hplain c (List.mem_of_mem_filter hc))
  rw [Text.lower_of_ascii htype, Text.lower_of_ascii hname, toList_valueType_of_model h,
    map_toLower_lettered]

theorem plain_of_marked_token (h : parse token = .ok a) (h' : parse token' = .ok b)
    (hmarked : (Segments.ofToken token').name = "r#" ++ (Segments.ofToken token).name) :
    b.name.plain = a.name.plain := by
  have hspell := parse_eq_ok_iff.mp h
  have hspell' := parse_eq_ok_iff.mp h'
  exact Identifier.plain_of_marked hspell.name (hmarked ▸ hspell'.name)

/-- A model is typed by its name without the underscores, with capital letters where the neighbours
in the name call for them. It is the same type with the raw mark and without, and case aside it is
the name. -/
theorem model_is_typed_by_its_letters (h : parse token = .ok a) (hmodel : a.filter = .model) :
    a.valueType.toList = lettered (isCapital a.name.plain.toList) a.name.plain.toList ∧
    Text.lower a.valueType.toList = Text.lower (a.name.plain.toList.filter (· != '_')) ∧
    ∀ token' b, parse token' = .ok b → b.filter = .model →
      (Segments.ofToken token').name = "r#" ++ (Segments.ofToken token).name →
      b.valueType = a.valueType := by
  refine ⟨toList_valueType_of_model hmodel, lower_valueType_of_model hmodel,
    fun token' b h' hmodel' hmarked => ?_⟩
  rw [valueType_of_model hmodel, valueType_of_model hmodel', plain_of_marked_token h h' hmarked]

theorem request_of_mixed_case_is_typed :
    ∃ a b, parse "_XMLHttp_request2B:model" = .ok a ∧
      parse "r#_XMLHttp_request2B:model:optional" = .ok b ∧
      a.valueType.toList =
        lettered (isCapital "_XMLHttp_request2B".toList) "_XMLHttp_request2B".toList ∧
      a.valueType = "XmlHttpRequest2B" ∧ b.valueType = a.valueType := by
  have ht : parse "_XMLHttp_request2B:model" =
      .ok ⟨⟨"_XMLHttp_request2B", false, by decide⟩, .model, .required, by decide⟩ := by rfl
  have hu : parse "r#_XMLHttp_request2B:model:optional" =
      .ok ⟨⟨"_XMLHttp_request2B", true, by decide⟩, .model, .optional, by decide⟩ := by rfl
  obtain ⟨hletters, -, hmarked⟩ := model_is_typed_by_its_letters ht rfl
  exact ⟨_, _, ht, hu, hletters, by decide, hmarked _ _ hu rfl (by decide)⟩

end Attribute

end Stencil
