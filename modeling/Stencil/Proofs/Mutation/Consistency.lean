import Stencil.Proofs.Mutation.Reading
import Stencil.Proofs.Planning.Verdict

/-! The parts of a source agree. Its struct, its constructor and its setters are written apart from
each other, and what they say of the inputs is the same. -/

namespace Stencil

namespace Mutation

open Text

/-- How the fields of a source, its constructor and its setters fit together. The first fields are
those of the required inputs. -/
structure Outline.Consistent (o : Outline) (required optional : List Attribute) : Prop where
  declared : o.fields = (required ++ optional).map fun a => ⟨a.name.text, a.fieldType⟩
  distinct : (o.fields.map fun f => unraw f.name).Nodup
  named : o.methods.map (·.name) = "new" ::
    ((o.fields.drop required.length).map (fun f => "with_" ++ unraw f.name) ++ ["execute"])
  apart : (o.methods.map (·.name)).Nodup
  constructed : ∀ m ∈ o.methods, m.name = "new" →
    m.parameters = o.fields.take required.length ∧
    m.initialisers.map (·.name) = o.fields.map (·.name) ∧
    m.initialisers.map (·.value) =
      (o.fields.take required.length).map (·.name) ++
        (o.fields.drop required.length).map fun _ => "None"
  set : ∀ f ∈ o.fields.drop required.length, ∃ type m,
    f.type = "Option<" ++ type ++ ">" ∧
    o.methods.filter (·.assigns f.name) = [m] ∧
    m.name = "with_" ++ unraw f.name ∧
    m.parameters = [⟨f.name, type⟩] ∧
    m.assignments = [⟨f.name, "Some(" ++ f.name ++ ")"⟩]

variable {b : Brief} {as : List Attribute} {a : Attribute}

/-! ### Names -/

theorem nodup_texts (h : (Attribute.names as).Nodup) : (as.map (·.name.text)).Nodup := by
  have hunraw : (as.map (·.name.text)).map unraw = Attribute.names as := by
    rw [List.map_map]
    exact List.map_congr_left fun a _ => a.name.unraw_text
  exact List.Nodup.of_map unraw (hunraw ▸ h)

theorem setterName_ne (a : Attribute) {word : String} (h : word.toList.head? ≠ some 'w') :
    setterName a ≠ word :=
  append_ne_of_head? (by decide) h _

theorem nodup_methods (h : (Attribute.names as).Nodup) :
    ("new" :: (as.map setterName ++ ["execute"])).Nodup := by
  have hsetters : (as.map setterName).Nodup := by
    have hmap : as.map setterName = (Attribute.names as).map ("with_" ++ ·) := by
      rw [Attribute.names, List.map_map]
      rfl
    rw [hmap]
    exact h.map (append_injective "with_")
  have hnew : "new" ∉ as.map setterName ++ ["execute"] := by
    rw [List.mem_append, not_or, List.mem_map]
    refine ⟨?_, by decide⟩
    rintro ⟨a, -, ha⟩
    exact setterName_ne a (by decide) ha
  have hexecute : ∀ word ∈ as.map setterName, word ≠ "execute" :=
    List.forall_mem_map.mpr fun a _ => setterName_ne a (by decide)
  rw [List.nodup_cons, List.nodup_append]
  refine ⟨hnew, hsetters, List.nodup_singleton _, fun v hv w hw => ?_⟩
  rw [List.mem_singleton.mp hw]
  exact hexecute v hv

/-! ### Setters -/

theorem assigns_setting (a : Attribute) (name : String) :
    (setting a).assigns name = (a.name.text == name) := by
  rw [Method.assigns, assignments_setting, List.any_cons, List.any_nil, Bool.or_false]

theorem filter_texts (h : (as.map (·.name.text)).Nodup) (ha : a ∈ as) :
    as.filter (·.name.text == a.name.text) = [a] := by
  induction as with
  | nil => contradiction
  | cons c rest ih =>
    rw [List.map_cons, List.nodup_cons] at h
    rcases List.mem_cons.mp ha with rfl | ha
    · have hrest : rest.filter (·.name.text == a.name.text) = [] := by
        rw [List.filter_eq_nil_iff]
        intro d hd hname
        exact h.1 (List.mem_map.mpr ⟨d, hd, by simpa using hname⟩)
      rw [List.filter_cons_of_pos (by simp), hrest]
    · have hfirst : c.name.text ≠ a.name.text :=
        fun hname => h.1 (List.mem_map.mpr ⟨a, ha, hname.symm⟩)
      rw [List.filter_cons_of_neg (by simpa using hfirst), ih h.2 ha]

/-- Of all the methods only the setter of a field assigns it. -/
theorem filter_assigns (b : Brief) (h : (Attribute.names b.optional).Nodup) (ha : a ∈ b.optional) :
    (construction b :: (b.optional.map setting ++ [running b])).filter (·.assigns a.name.text) =
      [setting a] := by
  have hnew : (construction b).assigns a.name.text = false := by
    rw [Method.assigns, assignments_construction]
    rfl
  have hexecute : (running b).assigns a.name.text = false := by
    rw [Method.assigns, assignments_running]
    rfl
  have hsetters : (b.optional.map setting).filter (·.assigns a.name.text) = [setting a] := by
    have hkey : ((·.assigns a.name.text) ∘ setting) = fun c : Attribute =>
        c.name.text == a.name.text := by
      funext c
      exact assigns_setting c _
    rw [List.filter_map, hkey, filter_texts (nodup_texts h) ha]
    rfl
  rw [List.filter_cons_of_neg (by simp [hnew]), List.filter_append, hsetters,
    List.filter_cons_of_neg (by simp [hexecute])]
  rfl

theorem fieldType_of_optional (h : a.isOptional = true) :
    a.fieldType = "Option<" ++ a.valueType ++ ">" :=
  if_pos h

theorem fieldType_of_required (h : a.isOptional = false) : a.fieldType = a.valueType := by
  rw [Attribute.fieldType, h, if_neg Bool.false_ne_true]

theorem map_name_methods (b : Brief) :
    (construction b :: (b.optional.map setting ++ [running b])).map (·.name) =
      "new" :: (b.optional.map setterName ++ ["execute"]) := by
  rw [List.map_cons, List.map_append, List.map_map]
  rfl

theorem eq_construction {m : Method}
    (hm : m ∈ construction b :: (b.optional.map setting ++ [running b])) (hname : m.name = "new") :
    m = construction b := by
  rw [List.mem_cons, List.mem_append, List.mem_map, List.mem_singleton] at hm
  rcases hm with rfl | ⟨a, -, rfl⟩ | rfl
  · rfl
  · exact absurd hname (setterName_ne a (by decide))
  · exact absurd hname (by simp [running])

/-- A source of inputs that are named apart, the required ones first. -/
theorem consistent_source (htarget : OneLine b.target)
    (hnames : (Attribute.names (b.required ++ b.optional)).Nodup)
    (hrequired : ∀ a ∈ b.required, a.isOptional = false)
    (hoptional : ∀ a ∈ b.optional, a.isOptional = true) :
    (outline (source b)).Consistent b.required b.optional := by
  have hsplit : Attribute.names (b.required ++ b.optional) =
      Attribute.names b.required ++ Attribute.names b.optional := List.map_append
  have hset : (Attribute.names b.optional).Nodup :=
    (List.nodup_append.mp (hsplit ▸ hnames)).2.1
  have htake : (b.inputs.map fun a => Typed.mk a.name.text a.fieldType).take b.required.length =
      b.required.map fun a => ⟨a.name.text, a.valueType⟩ := by
    rw [Brief.inputs, List.map_append, List.take_left' (List.length_map _)]
    refine List.map_congr_left fun a ha => ?_
    rw [fieldType_of_required (hrequired a ha)]
  have hdrop : (b.inputs.map fun a => Typed.mk a.name.text a.fieldType).drop b.required.length =
      b.optional.map fun a => ⟨a.name.text, a.fieldType⟩ := by
    rw [Brief.inputs, List.map_append, List.drop_left' (List.length_map _)]
  rw [outline_source htarget]
  refine ⟨rfl, ?_, ?_, ?_, ?_, ?_⟩
  · have hunraw : (b.inputs.map fun a => Typed.mk a.name.text a.fieldType).map
        (fun f => unraw f.name) = Attribute.names (b.required ++ b.optional) := by
      rw [List.map_map]
      exact List.map_congr_left fun a _ => a.name.unraw_text
    exact hunraw ▸ hnames
  · rw [map_name_methods, hdrop, List.map_map]
    congr 2
    refine List.map_congr_left fun a _ => ?_
    rw [setterName, ← a.name.unraw_text]
    rfl
  · rw [map_name_methods]
    exact nodup_methods hset
  · intro m hm hname
    obtain rfl := eq_construction hm hname
    rw [htake, hdrop, initialisers_construction, List.map_append, List.map_append, List.map_map,
      List.map_map, List.map_map, List.map_map, List.map_map, List.map_map, List.map_map,
      Brief.inputs, List.map_append]
    exact ⟨rfl, rfl, rfl⟩
  · rw [hdrop, List.forall_mem_map]
    intro a ha
    refine ⟨a.valueType, setting a, fieldType_of_optional (hoptional a ha),
      filter_assigns b hset ha, ?_, rfl, assignments_setting a⟩
    rw [a.name.unraw_text]
    rfl

end Mutation

open Mutation

namespace Generator

variable {g : Generator} {s : Store} {r : Request} {p : Plan}

/-- Of every request that is planned for the usual texts, the source has the required attributes and
then the optional ones for its fields, and its parts agree on them. -/
theorem source_is_consistent (hrenderer : g.renderer = render)
    (h : (g.plan s r).result = .ok p) :
    (∃ as : List Attribute, r.definitions.map Attribute.parse = as.map .ok ∧
      p.required = as.filter (!·.isOptional) ∧ p.optional = as.filter (·.isOptional)) ∧
    (∃ f ∈ p.files, f.template = .mutation) ∧
    ∀ f ∈ p.files, f.template = .mutation →
      (outline f.contents).Consistent p.required p.optional := by
  obtain _ | _ | _ | _ | ⟨htarget, htokens, hdistinct, -, hplan⟩ := plan_eq_iff_verdict.mp h
  rename_i as i
  have hnames : (Attribute.names (p.required ++ p.optional)).Nodup :=
    (hplan.perm.map _).nodup_iff.mpr hdistinct
  let b : Brief := ⟨r.target, i, p.required, p.optional⟩
  have hconsistent : (outline (source b)).Consistent p.required p.optional :=
    consistent_source htarget.oneLine hnames
      (fun a => hplan.isOptional_of_mem_required) fun a => hplan.isOptional_of_mem_optional
  refine ⟨⟨as, htokens, hplan.required, hplan.optional⟩,
    ⟨_, List.mem_of_head? hplan.head?_files, rfl⟩, fun f hf htemplate => ?_⟩
  rw [hplan.contents f hf, htemplate, hrenderer]
  exact hconsistent

theorem source_of_payment_is_consistent :
    ∃ p, (({} : Generator).plan (.empty none)
        ⟨"pay", ["note:string:optional", "sum:integer"]⟩).result = .ok p ∧
      ∀ f ∈ p.files, f.template = .mutation → (outline f.contents).fields =
        [⟨"sum", "i64"⟩, ⟨"note", "Option<String>"⟩] := by
  have hplan : (({} : Generator).plan (.empty none)
      ⟨"pay", ["note:string:optional", "sum:integer"]⟩).result =
      .ok (({} : Generator).planFor false ⟨"pay", ⟨"Pay", false, by decide⟩,
        [⟨⟨"sum", false, by decide⟩, .integer, .required, by decide⟩],
        [⟨⟨"note", false, by decide⟩, .string, .optional, by decide⟩]⟩) := by rfl
  obtain ⟨-, -, hconsistent⟩ := source_is_consistent rfl hplan
  refine ⟨_, hplan, fun f hf htemplate => ?_⟩
  rw [(hconsistent f hf htemplate).declared]
  rfl

end Generator

end Stencil
