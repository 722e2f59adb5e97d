import Stencil.Proofs.Definition.Display
import Stencil.Proofs.Execution.Repetition
import Stencil.Proofs.Planning.Verdict

/-! How a request may be written otherwise. Planning sees the attributes and not the tokens that
define them, and it sees them parted into the required and the optional ones; how the two were
interleaved decides at most which of several repeated names is blamed. -/

namespace Stencil

/-! ### Lists with the same parts -/

namespace Attribute

variable {as bs before between after : List Attribute} {a : Attribute} {tokens : List String}

/-- The same required attributes in the same order, and the same optional ones. -/
structure SameParts (as bs : List Attribute) : Prop where
  required : as.filter (!·.isOptional) = bs.filter (!·.isOptional)
  optional : as.filter (·.isOptional) = bs.filter (·.isOptional)

theorem SameParts.perm (h : SameParts as bs) : as.Perm bs := by
  have has := List.filter_append_perm (·.isOptional) as
  rw [h.optional, h.required] at has
  exact has.symm.trans (List.filter_append_perm (·.isOptional) bs)

theorem SameParts.nodup_names_iff (h : SameParts as bs) :
    (names as).Nodup ↔ (names bs).Nodup :=
  (h.perm.map _).nodup_iff

theorem sameParts_of_move (ha : a.isOptional = true)
    (hbetween : ∀ b ∈ between, b.isOptional = false) :
    SameParts (before ++ a :: (between ++ after)) (before ++ (between ++ a :: after)) := by
  have hnone : between.filter (·.isOptional) = [] := by simpa [List.filter_eq_nil_iff] using hbetween
  constructor
  · simp [ha]
  · simp [ha, hnone]

theorem exists_of_forall_parse (h : ∀ token ∈ tokens, ∃ a, parse token = .ok a) :
    ∃ as : List Attribute, tokens.map parse = as.map .ok := by
  induction tokens with
  | nil => exact ⟨[], rfl⟩
  | cons token rest ih =>
    rw [List.forall_mem_cons] at h
    obtain ⟨⟨a, ha⟩, hrest⟩ := h
    obtain ⟨as, has⟩ := ih hrest
    exact ⟨a :: as, by rw [List.map_cons, List.map_cons, ha, has]⟩

theorem isOptional_of_tokens {optional : Bool} (htokens : tokens.map parse = as.map .ok)
    (h : ∀ token ∈ tokens, ∃ a, parse token = .ok a ∧ a.isOptional = optional) :
    ∀ a ∈ as, a.isOptional = optional := by
  intro a ha
  have hread : .ok a ∈ tokens.map parse := htokens ▸ List.mem_map_of_mem ha
  obtain ⟨token, hmem, hparse⟩ := List.mem_map.mp hread
  obtain ⟨b, hb, hoptional⟩ := h token hmem
  obtain rfl := Except.ok.inj (hparse.symm.trans hb)
  exact hoptional

end Attribute

/-! ### Other spellings of a token -/

/-- Other ways to write a token: as it is shown; with or without what goes without saying; with the
mark of a reserved name. -/
inductive Respelled (token : String) : String → Prop where
  | kept : Respelled token token
  | shown {a : Attribute} (h : Attribute.parse token = .ok a) : Respelled token a.display
  | implied {requirement : Option String}
      (hold : (Segments.ofToken token).requirement ∈ Requirement.required.segments)
      (hnew : requirement ∈ Requirement.required.segments) :
      Respelled token (Segments.text { Segments.ofToken token with requirement := requirement })
  | marked (h : (Segments.ofToken token).name ∈ keywords) : Respelled token ("r#" ++ token)

namespace Segments

variable {g : Segments} {a : Attribute}

/-- The segments with the mark of a reserved name. -/
def marked (g : Segments) : Segments :=
  { g with name := "r#" ++ g.name }

theorem text_marked (g : Segments) : g.marked.text = "r#" ++ g.text := by
  rcases g with ⟨name, _ | filter, _ | requirement⟩ <;>
    simp [marked, text, String.append_assoc]

theorem Parted.marked (h : g.Parted) : g.marked.Parted where
  name := by simpa [Segments.marked, String.toList_append] using h.name
  filter := h.filter
  requirement := h.requirement

theorem Spell.marked (h : g.Spell a) (hname : g.name ∈ keywords) : g.marked.Spell a where
  name := by
    rw [h.name, Attribute.escaped_of_mem hname]
    exact (Attribute.escaped_of_not_mem (Identifier.raw_not_mem_keywords g.name)).symm
  filter := h.filter
  requirement := h.requirement

end Segments

namespace Respelled

open Attribute

variable {token token' : String} {tokens tokens' : List String} {a : Attribute}

theorem parse_eq_ok (h : Respelled token token') (ha : parse token = .ok a) :
    parse token' = .ok a := by
  have hspell := parse_eq_ok_iff.mp ha
  have hparted := Segments.parted_ofToken token
  cases h with
  | kept => exact ha
  | shown hshown =>
    obtain rfl := Except.ok.inj (ha.symm.trans hshown)
    exact a.parse_display
  | @implied requirement hold hnew =>
    have hrequired : a.requirement = .required := requirement_unique hspell.requirement hold
    have hfilter : (Segments.ofToken token).filter = none → requirement = none := by
      rw [hspell.filter]
      nofun
    exact parse_text ⟨hparted.name, hparted.filter, hfilter⟩
      ⟨hspell.name, hspell.filter, hrequired ▸ hnew⟩
  | marked hname =>
    have hparse := parse_text hparted.marked (hspell.marked hname)
    rwa [Segments.text_marked, Segments.text_ofToken] at hparse

/-- Good tokens read the same when each is written otherwise. -/
theorem map_parse (h : List.Forall₂ Respelled tokens tokens')
    (hgood : ∀ token ∈ tokens, ∃ a, parse token = .ok a) :
    tokens'.map parse = tokens.map parse := by
  induction h with
  | nil => rfl
  | cons hfirst _ ih =>
    rw [List.forall_mem_cons] at hgood
    obtain ⟨⟨a, ha⟩, hrest⟩ := hgood
    rw [List.map_cons, List.map_cons, ih hrest, ha, hfirst.parse_eq_ok ha]

end Respelled

/-! ### Requests -/

/-- The results are the same, but that of several repeated names another one may be blamed. -/
inductive Agree {α : Type} : Except Failure α → Except Failure α → Prop where
  | same (result : Except Failure α) : Agree result result
  | repeatedName (name name' : String) :
      Agree (.error (.duplicateName name)) (.error (.duplicateName name'))

/-- Two requests come to the same: the plan, what the run returns and what it leaves. -/
structure Generator.Agrees (g : Generator) (s : Store) (r r' : Request) : Prop where
  plan : Agree (g.plan s r).result (g.plan s r').result
  result : Agree (g.generate s r).result (g.generate s r').result
  store : (g.generate s r).store = (g.generate s r').store

namespace Generator

variable {g : Generator} {s : Store} {r r' : Request} {p : Plan} {target : String}
  {tokens tokens' : List String} {as bs : List Attribute} {i : Identifier}

theorem generate_congr (h : (g.plan s r).result = (g.plan s r').result) :
    (g.generate s r).result = (g.generate s r').result ∧
      (g.generate s r).store = (g.generate s r').store := by
  cases hplan : (g.plan s r).result with
  | error e =>
    obtain ⟨hresult, hstore⟩ := g.generate_of_plan_error s r hplan
    obtain ⟨hresult', hstore'⟩ := g.generate_of_plan_error s r' (h.symm.trans hplan)
    exact ⟨hresult.trans hresult'.symm, hstore.trans hstore'.symm⟩
  | ok p =>
    obtain ⟨hresult, hstore⟩ := g.generate_of_plan_ok s r hplan
    obtain ⟨hresult', hstore'⟩ := g.generate_of_plan_ok s r' (h.symm.trans hplan)
    exact ⟨hresult.trans hresult'.symm, hstore.trans hstore'.symm⟩

theorem agrees_of_same (h : (g.plan s r).result = (g.plan s r').result) : g.Agrees s r r' := by
  obtain ⟨hresult, hstore⟩ := generate_congr h
  exact ⟨h ▸ .same _, hresult ▸ .same _, hstore⟩

theorem agrees_of_repeats {name name' : String}
    (h : (g.plan s r).result = .error (.duplicateName name))
    (h' : (g.plan s r').result = .error (.duplicateName name')) : g.Agrees s r r' := by
  obtain ⟨hresult, hstore⟩ := g.generate_of_plan_error s r h
  obtain ⟨hresult', hstore'⟩ := g.generate_of_plan_error s r' h'
  refine ⟨?_, ?_, hstore.trans hstore'.symm⟩
  · rw [h, h']
    exact .repeatedName name name'
  · rw [hresult, hresult']
    exact .repeatedName name name'

theorem plan_of_repeat (g : Generator) (s : Store) (htarget : IsSnakeName target)
    (htokens : tokens.map Attribute.parse = as.map .ok)
    (hrepeat : ¬ (Attribute.names as).Nodup) :
    ∃ name, (g.plan s ⟨target, tokens⟩).result = .error (.duplicateName name) := by
  obtain ⟨before, a, after, rfl, hdistinct, hrepeated⟩ :=
    Attribute.exists_repeat_of_not_nodup hrepeat
  exact ⟨_, plan_of_verdict (.repeatedName htarget htokens hdistinct hrepeated)⟩

theorem fulfils_of_sameParts (hparts : Attribute.SameParts as bs)
    (h : p.Fulfils g s ⟨target, tokens⟩ as i) : p.Fulfils g s ⟨target, tokens'⟩ bs i where
  typeName := h.typeName
  required := h.required.trans hparts.required
  optional := h.optional.trans hparts.optional
  with_stub := h.with_stub
  without_stub := h.without_stub

theorem agrees_of_sameParts (g : Generator) (s : Store) (target : String)
    (htokens : tokens.map Attribute.parse = as.map .ok)
    (htokens' : tokens'.map Attribute.parse = bs.map .ok) (hparts : Attribute.SameParts as bs) :
    g.Agrees s ⟨target, tokens⟩ ⟨target, tokens'⟩ := by
  -- The cases are those of the verdict; of the names only which comes twice first can differ.
  by_cases htarget : IsSnakeName target
  · by_cases hdistinct : (Attribute.names as).Nodup
    · have hdistinct' := hparts.nodup_names_iff.mp hdistinct
      by_cases htype : ∃ i : Identifier, i.text = g.typeCase target
      · obtain ⟨i, hi⟩ := htype
        have hplan := fulfils_planFor g s ⟨target, tokens⟩ as i
        have hplan' : Plan.Fulfils _ g s ⟨target, tokens'⟩ bs i := fulfils_of_sameParts hparts hplan
        apply agrees_of_same
        rw [plan_of_verdict (.accepted htarget htokens hdistinct hi hplan),
          plan_of_verdict (.accepted htarget htokens' hdistinct' hi hplan')]
      · apply agrees_of_same
        rw [plan_of_verdict (.badTypeName htarget htokens hdistinct (not_exists.mp htype)),
          plan_of_verdict (.badTypeName htarget htokens' hdistinct' (not_exists.mp htype))]
    · have hrepeat' := mt hparts.nodup_names_iff.mpr hdistinct
      obtain ⟨name, hname⟩ := plan_of_repeat g s htarget htokens hdistinct
      obtain ⟨name', hname'⟩ := plan_of_repeat g s htarget htokens' hrepeat'
      exact agrees_of_repeats hname hname'
  · apply agrees_of_same
    rw [plan_of_verdict (.badTarget htarget), plan_of_verdict (.badTarget htarget)]

/-- What is read the same is planned and carried out the same. -/
theorem runs_of_map_parse (g : Generator) (s : Store) (target : String)
    (htokens : tokens.map Attribute.parse = as.map .ok)
    (hsame : tokens'.map Attribute.parse = tokens.map Attribute.parse) :
    g.plan s ⟨target, tokens'⟩ = g.plan s ⟨target, tokens⟩ ∧
      g.generate s ⟨target, tokens'⟩ = g.generate s ⟨target, tokens⟩ := by
  have hbrief : (Request.mk target tokens').brief g.typeCase =
      (Request.mk target tokens).brief g.typeCase := by
    simp only [Request.brief, Request.attributes, Attribute.parseAll_eq_ok_iff.mpr htokens,
      Attribute.parseAll_eq_ok_iff.mpr (hsame.trans htokens)]
    rfl
  have hplan : g.plan s ⟨target, tokens'⟩ = g.plan s ⟨target, tokens⟩ := by
    rw [plan, plan, hbrief]
  exact ⟨hplan, by rw [generate, generate, hplan]⟩

/-- Only the required attributes in their order count, and the optional ones in theirs. However the
two are interleaved and each token is spelled, the same is planned, returned and left behind; of
several names that come twice another one may be blamed. -/
theorem only_the_parts_matter (g : Generator) (s : Store) (target : String) :
    (∀ (tokens tokens' : List String) (as bs : List Attribute),
      tokens.map Attribute.parse = as.map .ok → tokens'.map Attribute.parse = bs.map .ok →
      as.filter (!·.isOptional) = bs.filter (!·.isOptional) →
      as.filter (·.isOptional) = bs.filter (·.isOptional) →
      g.Agrees s ⟨target, tokens⟩ ⟨target, tokens'⟩) ∧
    (∀ tokens tokens' : List String, (∀ token ∈ tokens, ∃ a, Attribute.parse token = .ok a) →
      List.Forall₂ Respelled tokens tokens' →
      g.plan s ⟨target, tokens'⟩ = g.plan s ⟨target, tokens⟩ ∧
        g.generate s ⟨target, tokens'⟩ = g.generate s ⟨target, tokens⟩) ∧
    ∀ (before between after : List String) (token : String),
      (∀ t ∈ before ++ after, ∃ a, Attribute.parse t = .ok a) →
      (∃ a, Attribute.parse token = .ok a ∧ a.isOptional = true) →
      (∀ t ∈ between, ∃ a, Attribute.parse t = .ok a ∧ a.isOptional = false) →
      g.Agrees s ⟨target, before ++ token :: (between ++ after)⟩
        ⟨target, before ++ (between ++ token :: after)⟩ := by
  refine ⟨fun tokens tokens' as bs htokens htokens' hrequired hoptional => ?_,
    fun tokens tokens' hgood hrespelled => ?_,
    fun before between after token hgood htoken hbetween => ?_⟩
  · exact agrees_of_sameParts g s target htokens htokens' ⟨hrequired, hoptional⟩
  · obtain ⟨as, has⟩ := Attribute.exists_of_forall_parse hgood
    exact runs_of_map_parse g s target has (Respelled.map_parse hrespelled hgood)
  · obtain ⟨a, ha, hoptional⟩ := htoken
    rw [List.forall_mem_append] at hgood
    obtain ⟨as, has⟩ := Attribute.exists_of_forall_parse hgood.1
    obtain ⟨cs, hcs⟩ := Attribute.exists_of_forall_parse hgood.2
    obtain ⟨bs, hbs⟩ := Attribute.exists_of_forall_parse
      fun t ht => (hbetween t ht).imp fun _ h => h.1
    have hparts : Attribute.SameParts (as ++ a :: (bs ++ cs)) (as ++ (bs ++ a :: cs)) :=
      Attribute.sameParts_of_move hoptional (Attribute.isOptional_of_tokens hbs hbetween)
    refine agrees_of_sameParts g s target ?_ ?_ hparts
    · simp only [List.map_append, List.map_cons, has, hbs, hcs, ha]
    · simp only [List.map_append, List.map_cons, has, hbs, hcs, ha]

/-- Tokens of the same parts of which either the one or the other name is blamed for coming twice,
and tokens that are planned alike. -/
theorem payments_agree_up_to_the_name_blamed :
    let s := Store.empty none
    sketch.Agrees s
        ⟨"pay", ["sum:integer", "day:date", "day:string:optional", "sum:string:optional"]⟩
        ⟨"pay", ["day:string:optional", "sum:string:optional", "sum:integer:",
          "day:date:required"]⟩ ∧
      (sketch.plan s ⟨"pay", ["sum:integer", "day:date", "day:string:optional",
        "sum:string:optional"]⟩).result = .error (.duplicateName "day") ∧
      (sketch.plan s ⟨"pay", ["day:string:optional", "sum:string:optional", "sum:integer:",
        "day:date:required"]⟩).result = .error (.duplicateName "sum") ∧
      sketch.generate s ⟨"pay", ["r#type:date", "sum:integer:required", "day:date"]⟩ =
        sketch.generate s ⟨"pay", ["type:date", "sum:integer", "day:date:"]⟩ ∧
      sketch.Agrees s ⟨"pay", ["day:date", "note:string:optional", "sum:integer"]⟩
        ⟨"pay", ["day:date", "sum:integer", "note:string:optional"]⟩ := by
  obtain ⟨hparts, hspelled, hmoved⟩ := only_the_parts_matter sketch (.empty none) "pay"
  refine ⟨?_, by rfl, by rfl, ?_, ?_⟩
  · exact hparts _ _
      [⟨⟨"sum", false, by decide⟩, .integer, .required, by decide⟩,
        ⟨⟨"day", false, by decide⟩, .date, .required, by decide⟩,
        ⟨⟨"day", false, by decide⟩, .string, .optional, by decide⟩,
        ⟨⟨"sum", false, by decide⟩, .string, .optional, by decide⟩]
      [⟨⟨"day", false, by decide⟩, .string, .optional, by decide⟩,
        ⟨⟨"sum", false, by decide⟩, .string, .optional, by decide⟩,
        ⟨⟨"sum", false, by decide⟩, .integer, .required, by decide⟩,
        ⟨⟨"day", false, by decide⟩, .date, .required, by decide⟩]
      (by rfl) (by rfl) (by rfl) (by rfl)
  · have hgood : ∀ token ∈ ["type:date", "sum:integer", "day:date:"],
        ∃ a, Attribute.parse token = .ok a := by
      rw [List.forall_mem_cons, List.forall_mem_cons, List.forall_mem_singleton]
      exact ⟨⟨_, by rfl⟩, ⟨_, by rfl⟩, ⟨_, by rfl⟩⟩
    have htype : Respelled "type:date" "r#type:date" := .marked (by decide)
    have hsum : Respelled "sum:integer" "sum:integer:required" :=
      @Respelled.implied "sum:integer" (some "required") (by decide) (by decide)
    have hday : Respelled "day:date:" "day:date" :=
      @Respelled.shown "day:date:" ⟨⟨"day", false, by decide⟩, .date, .required, by decide⟩ (by rfl)
    exact (hspelled _ _ hgood (.cons htype (.cons hsum (.cons hday .nil)))).2
  · refine hmoved ["day:date"] ["sum:integer"] [] "note:string:optional" ?_ ⟨_, by rfl, by rfl⟩ ?_
    · exact List.forall_mem_singleton.mpr ⟨_, by rfl⟩
    · exact List.forall_mem_singleton.mpr ⟨_, by rfl, by rfl⟩

end Generator

end Stencil
