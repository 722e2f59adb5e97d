import Stencil.Proofs.Mutation.Outline
import Stencil.Proofs.Naming.TypeName

/-! Names, types and lists of parameters, as they are read off a line that they were written in. -/

namespace Stencil

open Text

/-! ### Names and types in a line -/

namespace Identifier

theorem unraw_text (i : Identifier) : Mutation.unraw i.text = i.plain := by
  cases hraw : i.raw with
  | true =>
    have hlist : i.text.toList = 'r' :: '#' :: i.plain.toList := by
      simp [text, hraw, String.toList_append]
    simp [Mutation.unraw, hlist]
  | false =>
    have htext : i.text = i.plain := by rw [text, hraw, if_neg Bool.false_ne_true]
    rw [Mutation.unraw, htext]
    split
    · rename_i rest hlist
      have hword := i.isWord_plain
      rw [hlist, not_isWord_raw] at hword
      contradiction
    · rfl

end Identifier

namespace Attribute

/-- The types of values that are not models. -/
def namedTypes : List String :=
  ["String", "i64", "std::collections::HashMap<String, String>", "Vec<String>", "bool",
   "chrono::NaiveDate", "Box<dyn std::any::Any>", "&\x27static str",
   "chrono::DateTime<chrono::Utc>"]

theorem valueType_cases (a : Attribute) : a.valueType ∈ namedTypes ∨
    ∀ c ∈ a.valueType.toList, c.isAlpha = true ∨ c.isDigit = true := by
  unfold valueType
  cases a.filter
  case model => exact .inr (isAlphanum_pascalCase (isPlain_of_isAscii a.ascii))
  all_goals
    left
    dsimp only
    decide

/-- The characters that shape a line stand in no type. -/
theorem not_mem_valueType (a : Attribute) : ∀ c ∈ ['\n', '(', ')'], c ∉ a.valueType.toList := by
  rcases a.valueType_cases with htype | htype
  · have hnamed : ∀ t ∈ namedTypes, ∀ c ∈ ['\n', '(', ')'], c ∉ t.toList := by
      simp [namedTypes]
    exact hnamed _ htype
  · have hother : ∀ c ∈ ['\n', '(', ')'], ¬ (c.isAlpha = true ∨ c.isDigit = true) := by
      simp
    exact fun c hc hmem => hother c hc (htype c hmem)

end Attribute

namespace Mutation

variable {a : Attribute}

/-! ### Colons and commas -/

theorem dropBlank_of_head? {cs : List Char} (h : cs.head? ≠ some ' ') : dropBlank cs = cs := by
  unfold dropBlank
  split
  · exact absurd rfl h
  · rfl

theorem head?_text_append (i : Identifier) (rest : String) :
    (i.text ++ rest).toList.head? ≠ some ' ' := by
  have hblank : ' ' ∉ i.text.toList := i.not_mem_text (by decide) (by decide)
  have hne : i.text.toList ≠ [] := mt String.toList_eq_nil_iff.mp i.text_ne_empty
  rw [String.toList_append, List.head?_append_of_ne_nil _ hne]
  exact fun hhead => hblank (List.mem_of_head? hhead)

theorem colon_of_dropBlank {cs : List Char} {i : Identifier} {rest : String}
    (h : dropBlank cs = (i.text ++ ": " ++ rest).toList) : colon cs = (i.text, some rest) := by
  have hlist : (i.text ++ ": " ++ rest).toList = i.text.toList ++ ':' :: ' ' :: rest.toList := by
    simp [String.toList_append]
  rw [colon, h, hlist, cut_append i.not_colon_mem_text]
  simp [dropBlank]

theorem colon_append (i : Identifier) (rest : String) :
    colon (i.text ++ ": " ++ rest).toList = (i.text, some rest) := by
  refine colon_of_dropBlank (dropBlank_of_head? ?_)
  rw [String.append_assoc]
  exact head?_text_append i _

theorem colon_text (i : Identifier) : colon i.text.toList = (i.text, none) := by
  have hhead := head?_text_append i ""
  rw [String.append_empty] at hhead
  rw [colon, dropBlank_of_head? hhead, cut_of_not_mem i.not_colon_mem_text]
  simp

theorem typed?_append (i : Identifier) (type : String) :
    typed? (i.text ++ ": " ++ type).toList = some ⟨i.text, type⟩ := by
  rw [typed?, colon_append]

theorem typed?_blank_append (i : Identifier) (type : String) :
    typed? (' ' :: (i.text ++ ": " ++ type).toList) = some ⟨i.text, type⟩ := by
  rw [typed?, colon_of_dropBlank rfl]

/-- The depth in angle brackets after a text, if no comma stands outside of them. -/
def depthThrough? : Nat → List Char → Option Nat
  | depth, [] => some depth
  | depth, c :: cs =>
    if c = ',' ∧ depth = 0 then none else depthThrough? (depthAfter depth c) cs

theorem depthThrough?_append (depth : Nat) (v w : List Char) :
    depthThrough? depth (v ++ w) = (depthThrough? depth v).bind (depthThrough? · w) := by
  induction v generalizing depth with
  | nil => rfl
  | cons c cs ih =>
    rw [List.cons_append, depthThrough?, depthThrough?]
    split
    · rfl
    · exact ih _

theorem depthThrough?_of_not_mem {depth : Nat} {w : List Char}
    (h : ∀ c ∈ w, c ≠ ',' ∧ c ≠ '<' ∧ c ≠ '>') : depthThrough? depth w = some depth := by
  induction w with
  | nil => rfl
  | cons c cs ih =>
    rw [List.forall_mem_cons] at h
    obtain ⟨⟨hcomma, hopen, hclose⟩, hrest⟩ := h
    rw [depthThrough?, if_neg (by simp [hcomma]), depthAfter, if_neg hopen, if_neg hclose]
    exact ih hrest

theorem pieces_append {depth after : Nat} {w : List Char} (h : depthThrough? depth w = some after)
    {rest f : List Char} {fs : List (List Char)} (hrest : pieces after rest = f :: fs) :
    pieces depth (w ++ rest) = (w ++ f) :: fs := by
  induction w generalizing depth with
  | nil =>
    obtain rfl : depth = after := Option.some.inj h
    exact hrest
  | cons c cs ih =>
    rw [depthThrough?] at h
    split at h
    · contradiction
    · rename_i hcomma
      rw [List.cons_append, pieces, if_neg hcomma, ih h]
      rfl

theorem pieces_comma (cs : List Char) : pieces 0 (',' :: cs) = [] :: pieces 0 cs := by
  rw [pieces, if_pos (by decide)]

/-- Pieces that are whole are read off a list of them, the later ones with the blank before them. -/
theorem pieces_intercalate {w : List Char} {ws : List (List Char)}
    (h : ∀ v ∈ w :: ws, depthThrough? 0 v = some 0) :
    pieces 0 (List.intercalate [',', ' '] (w :: ws)) = w :: ws.map (' ' :: ·) := by
  induction ws generalizing w with
  | nil =>
    have hend : pieces 0 [] = [[]] := rfl
    have hw := pieces_append (h w List.mem_cons_self) hend
    simpa using hw
  | cons v rest ih =>
    rw [List.forall_mem_cons] at h
    have hblank : depthThrough? 0 [' '] = some 0 := rfl
    have hrest := pieces_append hblank (ih h.2)
    have hw := pieces_append h.1 (pieces_comma (' ' :: List.intercalate [',', ' '] (v :: rest)))
    rw [List.append_nil] at hw
    rw [List.intercalate_cons_cons, List.append_assoc]
    exact hw.trans (congrArg (w :: ·) hrest)

theorem depthThrough?_valueType (a : Attribute) : depthThrough? 0 a.valueType.toList = some 0 := by
  rcases a.valueType_cases with htype | htype
  · have hnamed : ∀ t ∈ Attribute.namedTypes, depthThrough? 0 t.toList = some 0 := by decide
    exact hnamed _ htype
  · refine depthThrough?_of_not_mem fun c hc => ?_
    have halphanum := htype c hc
    refine ⟨?_, ?_, ?_⟩ <;>
      · rintro rfl
        revert halphanum
        decide

theorem depthThrough?_parameter (a : Attribute) :
    depthThrough? 0 (parameter a).toList = some 0 := by
  have hname : depthThrough? 0 a.name.text.toList = some 0 := by
    refine depthThrough?_of_not_mem fun c hc => ⟨?_, ?_, ?_⟩ <;>
      · rintro rfl
        exact absurd hc (a.name.not_mem_text (by decide) (by decide))
  have hcolon : depthThrough? 0 ": ".toList = some 0 := by decide
  rw [parameter, String.toList_append, String.toList_append, depthThrough?_append,
    depthThrough?_append, hname, Option.bind_some, hcolon]
  exact depthThrough?_valueType a

theorem parametersOf_parameters (as : List Attribute) :
    parametersOf (", ".intercalate (as.map parameter)).toList =
      as.map fun a => ⟨a.name.text, a.valueType⟩ := by
  cases as with
  | nil => rfl
  | cons a rest =>
    have hwhole : ∀ w ∈ (parameter a).toList :: rest.map fun a => (parameter a).toList,
        depthThrough? 0 w = some 0 := by
      rw [List.forall_mem_cons, List.forall_mem_map]
      exact ⟨depthThrough?_parameter a, fun a _ => depthThrough?_parameter a⟩
    have hpieces := pieces_intercalate hwhole
    have hlist : (", ".intercalate ((a :: rest).map parameter)).toList =
        List.intercalate [',', ' ']
          ((parameter a).toList :: rest.map fun a => (parameter a).toList) := by
      rw [String.toList_intercalate, List.map_map]
      rfl
    have hfirst : typed? (parameter a).toList = some ⟨a.name.text, a.valueType⟩ :=
      typed?_append a.name a.valueType
    rw [parametersOf, hlist, hpieces, List.filterMap_cons_some hfirst,
      List.filterMap_map, List.filterMap_map, List.map_cons, ← List.filterMap_eq_map]
    congr 2
    funext a
    exact typed?_blank_append a.name a.valueType

theorem parametersOf_receiver (a : Attribute) :
    parametersOf ("mut self, " ++ parameter a).toList = [⟨a.name.text, a.valueType⟩] := by
  have hwhole : ∀ w ∈ "mut self".toList :: [(parameter a).toList], depthThrough? 0 w = some 0 := by
    rw [List.forall_mem_cons, List.forall_mem_singleton]
    exact ⟨by decide, depthThrough?_parameter a⟩
  have hlist : ("mut self, " ++ parameter a).toList =
      List.intercalate [',', ' '] ("mut self".toList :: [(parameter a).toList]) := by
    simp [String.toList_append, List.intercalate_cons_cons]
  have hreceiver : typed? "mut self".toList = none := by decide
  have htyped : typed? (' ' :: (parameter a).toList) = some ⟨a.name.text, a.valueType⟩ :=
    typed?_blank_append a.name a.valueType
  rw [parametersOf, hlist, pieces_intercalate hwhole, List.filterMap_cons_none hreceiver,
    List.map_singleton, List.filterMap_cons_some htyped]
  rfl

end Mutation

end Stencil
