import Stencil.Proofs.Execution.Chronicle
import Stencil.Proofs.Execution.Pretence
import Stencil.Proofs.Execution.Repetition
import Stencil.Proofs.Planning.Verdict

/-! The record of a run. It tells how far the request was found good, and then of the files as they
are met; so what is recorded as written is what the report says was written, and of a run that is
refused what came before the refused file. -/

namespace Stencil

open PlannedFile (Chronicle Tells)

/-- What is recorded of a request. A request that is not good has a record that ends where the first
fault is found; that of a good one goes on with the files of its plan. -/
inductive Recorded (g : Generator) (s : Store) (r : Request) : List Event → Prop where
  | rejected (h : ¬ IsSnakeName r.target ∨
      ∃ token ∈ r.definitions, ∃ e, Attribute.parse token = .error e) : Recorded g s r []
  | repeatedName {as : List Attribute} (htarget : IsSnakeName r.target)
      (htokens : r.definitions.map Attribute.parse = as.map .ok)
      (hrepeated : ¬ (Attribute.names as).Nodup) : Recorded g s r (as.map .parsedAttribute)
  | badTypeName {as : List Attribute} (htarget : IsSnakeName r.target)
      (htokens : r.definitions.map Attribute.parse = as.map .ok)
      (hdistinct : (Attribute.names as).Nodup)
      (htype : ∀ i : Identifier, i.text ≠ g.typeCase r.target)
      (hcount : (as.filter (!·.isOptional)).length + (as.filter (·.isOptional)).length =
        r.definitions.length) :
      Recorded g s r (as.map .parsedAttribute ++
        [.partitioned (as.filter (!·.isOptional)).length (as.filter (·.isOptional)).length])
  | planned {as : List Attribute} {i : Identifier} {p : Plan} {log : List Event}
      (htarget : IsSnakeName r.target)
      (htokens : r.definitions.map Attribute.parse = as.map .ok)
      (hdistinct : (Attribute.names as).Nodup) (htype : i.text = g.typeCase r.target)
      (hplan : p.Fulfils g s r as i)
      (hcount : p.required.length + p.optional.length = r.definitions.length)
      (hfiles : Chronicle s p.files log) :
      Recorded g s r (as.map .parsedAttribute ++
        .partitioned p.required.length p.optional.length ::
          (p.skipped.toList.map .stubNotEmitted ++ log))

/-! ### Requests -/

namespace Request

variable {r : Request} {as : List Attribute} {typeCase : String → String} {e : Failure}

theorem attributes_of_rejected (h : ¬ IsSnakeName r.target ∨
    ∃ token ∈ r.definitions, ∃ e, Attribute.parse token = .error e) :
    ∃ e, r.attributes = .fail e := by
  by_cases htarget : isTarget r.target = true
  · obtain ⟨token, hmem, e, htoken⟩ := h.resolve_left (not_not.mpr (isTarget_iff.mp htarget))
    cases hparse : Attribute.parseAll r.definitions with
    | error e' => exact ⟨e', by simp only [attributes, targetCheck, if_pos htarget, hparse]⟩
    | ok as =>
      have hread := List.mem_map_of_mem (f := Attribute.parse) hmem
      rw [Attribute.parseAll_eq_ok_iff.mp hparse, htoken] at hread
      simp at hread
  · exact ⟨.invalidTarget r.target, by simp only [attributes, targetCheck, if_neg htarget]⟩

theorem attributes_of_tokens (htarget : IsSnakeName r.target)
    (htokens : r.definitions.map Attribute.parse = as.map .ok) :
    r.attributes = ⟨as.map .parsedAttribute, .ok as⟩ := by
  simp only [attributes, targetCheck, if_pos (isTarget_iff.mpr htarget),
    Attribute.parseAll_eq_ok_iff.mpr htokens]

theorem length_partition (htokens : r.definitions.map Attribute.parse = as.map .ok) :
    (as.filter (!·.isOptional)).length + (as.filter (·.isOptional)).length =
      r.definitions.length := by
  have hlength : r.definitions.length = as.length := by
    simpa using congrArg List.length htokens
  have hsplit : as.length = _ + _ := List.length_eq_length_filter_add (·.isOptional)
  rw [hlength, hsplit, Nat.add_comm]

theorem brief_of_rejected (h : r.attributes = .fail e) : r.brief typeCase = ⟨[], .error e⟩ := by
  rw [brief, h]
  rfl

theorem brief_of_repeatedName (h : r.attributes = ⟨as.map .parsedAttribute, .ok as⟩)
    (hrepeated : ¬ (Attribute.names as).Nodup) :
    ∃ e, r.brief typeCase = ⟨as.map .parsedAttribute, .error e⟩ := by
  obtain ⟨name, hname⟩ := Attribute.exists_repeatedName hrepeated
  refine ⟨.duplicateName name, ?_⟩
  rw [brief, h, Traced.andThen_of_ok rfl, hname]
  simp [Traced.fail]

/-- Of attributes of different names only the name of the type can be wrong. -/
theorem brief_of_distinct (typeCase : String → String)
    (h : r.attributes = ⟨as.map .parsedAttribute, .ok as⟩)
    (hdistinct : (Attribute.names as).Nodup) :
    r.brief typeCase =
      ⟨as.map .parsedAttribute ++
          [.partitioned (as.filter (!·.isOptional)).length (as.filter (·.isOptional)).length],
        match Identifier.ofText? (typeCase r.target) with
        | none => .error (.invalidTypeName r.target (typeCase r.target))
        | some i => .ok ⟨r.target, i, (Attribute.partition as).1, (Attribute.partition as).2⟩⟩ := by
  have hunique : Attribute.repeatedName? [] as = none :=
    Attribute.repeatedName?_eq_none_iff.mpr ⟨hdistinct, fun _ _ => List.not_mem_nil⟩
  rw [brief, h, Traced.andThen_of_ok rfl, hunique]
  rfl

end Request

/-! ### Runs -/

namespace Generator

variable {g : Generator} {s : Store} {r : Request} {p : Plan} {as : List Attribute} {i : Identifier}
  {b : Brief} {e : Failure} {log : List Event}

theorem events_of_brief_error (h : r.brief g.typeCase = ⟨log, .error e⟩) (s : Store) :
    (g.generate s r).events = log := by
  have hplan : g.plan s r = ⟨log, .error e⟩ := by
    rw [plan, h]
    rfl
  rw [generate, hplan]
  rfl

theorem events_of_brief (h : r.brief g.typeCase = ⟨log, .ok b⟩)
    (hp : p = g.planFor (g.wantsStub s) b) :
    (g.generate s r).events = log ++
      (p.skipped.toList.map .stubNotEmitted ++ (PlannedFile.installAll p.files s).events) := by
  have hplan : g.plan s r = ⟨log ++ p.skipped.toList.map .stubNotEmitted, .ok p⟩ := by
    rw [plan, h, hp]
    rfl
  rw [generate, hplan, ← List.append_assoc]
  rfl

theorem events_of_rejected (h : ¬ IsSnakeName r.target ∨
    ∃ token ∈ r.definitions, ∃ e, Attribute.parse token = .error e) :
    (g.generate s r).events = [] := by
  obtain ⟨e, he⟩ := Request.attributes_of_rejected h
  exact events_of_brief_error (Request.brief_of_rejected he) s

theorem events_of_repeatedName (htarget : IsSnakeName r.target)
    (htokens : r.definitions.map Attribute.parse = as.map .ok)
    (hrepeated : ¬ (Attribute.names as).Nodup) :
    (g.generate s r).events = as.map .parsedAttribute := by
  have has := Request.attributes_of_tokens htarget htokens
  obtain ⟨e, he⟩ := Request.brief_of_repeatedName has hrepeated
  exact events_of_brief_error he s

theorem events_of_badTypeName (htarget : IsSnakeName r.target)
    (htokens : r.definitions.map Attribute.parse = as.map .ok)
    (hdistinct : (Attribute.names as).Nodup) (htype : ∀ i : Identifier, i.text ≠ g.typeCase r.target) :
    (g.generate s r).events = as.map .parsedAttribute ++
      [.partitioned (as.filter (!·.isOptional)).length (as.filter (·.isOptional)).length] := by
  have has := Request.attributes_of_tokens htarget htokens
  have hbrief := Request.brief_of_distinct g.typeCase has hdistinct
  rw [Identifier.ofText?_eq_none_iff.mpr htype] at hbrief
  exact events_of_brief_error hbrief s

theorem events_of_planned (htarget : IsSnakeName r.target)
    (htokens : r.definitions.map Attribute.parse = as.map .ok)
    (hdistinct : (Attribute.names as).Nodup) (htype : i.text = g.typeCase r.target)
    (hplan : p.Fulfils g s r as i) :
    (g.generate s r).events = as.map .parsedAttribute ++
      .partitioned p.required.length p.optional.length ::
        (p.skipped.toList.map .stubNotEmitted ++ (PlannedFile.installAll p.files s).events) := by
  have has := Request.attributes_of_tokens htarget htokens
  have hbrief := Request.brief_of_distinct g.typeCase has hdistinct
  rw [Identifier.ofText?_eq_some_iff.mpr htype.symm] at hbrief
  rw [events_of_brief hbrief (eq_planFor_of_fulfils hplan), hplan.required, hplan.optional,
    List.append_assoc]
  rfl

theorem recorded_generate (g : Generator) (s : Store) (r : Request) :
    Recorded g s r (g.generate s r).events := by
  have hverdict := verdict_plan g s r
  generalize (g.plan s r).result = result at hverdict
  cases hverdict with
  | badTarget htarget =>
    rw [events_of_rejected (.inl htarget)]
    exact .rejected (.inl htarget)
  | @badToken _ _ token e htarget htokens _ htoken =>
    have hrejected : ¬ IsSnakeName r.target ∨
        ∃ token ∈ r.definitions, ∃ e, Attribute.parse token = .error e :=
      .inr ⟨token, by simp [htokens], e, htoken⟩
    rw [events_of_rejected hrejected]
    exact .rejected hrejected
  | @repeatedName before after a htarget htokens hdistinct hrepeated =>
    have hnodup : ¬ (Attribute.names (before ++ a :: after)).Nodup := by
      rw [Attribute.names_append, List.nodup_append]
      exact fun h => h.2.2 _ hrepeated _ List.mem_cons_self rfl
    rw [events_of_repeatedName htarget htokens hnodup]
    exact .repeatedName htarget htokens hnodup
  | @badTypeName as htarget htokens hdistinct htype =>
    rw [events_of_badTypeName htarget htokens hdistinct htype]
    exact .badTypeName htarget htokens hdistinct htype (Request.length_partition htokens)
  | accepted htarget htokens hdistinct htype hplan =>
    rw [events_of_planned htarget htokens hdistinct htype hplan]
    refine .planned htarget htokens hdistinct htype hplan ?_ (PlannedFile.chronicle_installAll _ s)
    rw [hplan.required, hplan.optional, Request.length_partition htokens]

/-- A record of a good request goes on with the files of the plan. -/
theorem events_of_plan (h : (g.plan s r).result = .ok p) :
    ∃ front, (g.generate s r).events = front ++ (PlannedFile.installAll p.files s).events ∧
      front.filterMap Event.written? = [] := by
  obtain _ | _ | _ | _ | ⟨htarget, htokens, hdistinct, htype, hplan⟩ := plan_eq_iff_verdict.mp h
  rename_i as i
  refine ⟨as.map .parsedAttribute ++ .partitioned p.required.length p.optional.length ::
    p.skipped.toList.map .stubNotEmitted, ?_, ?_⟩
  · rw [events_of_planned htarget htokens hdistinct htype hplan, List.append_assoc]
    rfl
  · rw [List.filterMap_eq_nil_iff]
    intro event hevent
    simp only [List.mem_append, List.mem_cons, List.mem_map] at hevent
    rcases hevent with ⟨_, -, rfl⟩ | rfl | ⟨_, -, rfl⟩ <;> rfl

/-- The attributes come first, each in the words of its canonical token. -/
theorem messages_of_tokens (htarget : IsSnakeName r.target)
    (htokens : r.definitions.map Attribute.parse = as.map .ok) :
    ((g.generate s r).events.take as.length).map Event.message =
      as.map fun a => "parsed attribute attribute=" ++ a.display := by
  -- What is found of the names and of the type is found after the attributes are recorded.
  have hfront : ∃ rest, (g.generate s r).events = as.map .parsedAttribute ++ rest := by
    by_cases hdistinct : (Attribute.names as).Nodup
    · by_cases htype : ∃ i : Identifier, i.text = g.typeCase r.target
      · obtain ⟨i, hi⟩ := htype
        have hplan := fulfils_planFor g s r as i
        exact ⟨_, events_of_planned htarget htokens hdistinct hi hplan⟩
      · exact ⟨_, events_of_badTypeName htarget htokens hdistinct (not_exists.mp htype)⟩
    · exact ⟨[], by rw [events_of_repeatedName htarget htokens hdistinct, List.append_nil]⟩
  obtain ⟨rest, hevents⟩ := hfront
  rw [hevents, List.take_left' (List.length_map _), List.map_map]
  rfl

end Generator

theorem Recorded.eq_events {g : Generator} {s : Store} {r : Request} {log : List Event}
    (h : Recorded g s r log) : log = (g.generate s r).events := by
  cases h with
  | rejected h => exact (Generator.events_of_rejected h).symm
  | repeatedName htarget htokens hrepeated =>
    exact (Generator.events_of_repeatedName htarget htokens hrepeated).symm
  | badTypeName htarget htokens hdistinct htype =>
    exact (Generator.events_of_badTypeName htarget htokens hdistinct htype).symm
  | planned htarget htokens hdistinct htype hplan _ hfiles =>
    rw [Generator.events_of_planned htarget htokens hdistinct htype hplan, hfiles.eq_events]

namespace Generator

variable {g : Generator} {s : Store} {r : Request} {p : Plan} {e : Failure} {report : Report}

theorem tells_of_generate (h : (g.generate s r).result = .ok report) :
    ∃ p, (g.plan s r).result = .ok p ∧
      Tells (g.generate s r).events p.files (report.files.filter (·.2 != .skipped)) := by
  obtain ⟨p, hplan, hexecute⟩ := generate_eq_ok h
  obtain ⟨entries, hentries, rfl⟩ := Plan.execute_eq_ok hexecute
  obtain ⟨htells, hwritten⟩ := PlannedFile.tells_installAll hentries
  obtain ⟨front, hevents, hfront⟩ := events_of_plan hplan
  have hkept : entries.filter (·.2 != .skipped) = entries := by
    simpa [List.filter_eq_self] using hwritten
  have hleft : p.skippedEntry.filter (·.2 != .skipped) = [] := by
    simp [Plan.skippedEntry, List.filter_eq_nil_iff]
  refine ⟨p, hplan, ?_⟩
  rw [List.filter_append, hkept, hleft, List.append_nil, hevents]
  exact .after hfront htells

/-- Of a request that is not good no directory is recorded and no file. -/
theorem events_of_plan_error (h : (g.plan s r).result = .error e) :
    ∀ event ∈ (g.generate s r).events,
      (∃ a, event = .parsedAttribute a) ∨ ∃ m n, event = .partitioned m n := by
  have hrecorded := recorded_generate g s r
  generalize (g.generate s r).events = log at hrecorded
  cases hrecorded with
  | rejected => exact fun event hevent => absurd hevent List.not_mem_nil
  | repeatedName =>
    intro event hevent
    obtain ⟨a, -, rfl⟩ := List.mem_map.mp hevent
    exact .inl ⟨a, rfl⟩
  | badTypeName =>
    intro event hevent
    rcases List.mem_append.mp hevent with hattribute | hpartition
    · obtain ⟨a, -, rfl⟩ := List.mem_map.mp hattribute
      exact .inl ⟨a, rfl⟩
    · exact .inr ⟨_, _, List.mem_singleton.mp hpartition⟩
  | planned htarget htokens hdistinct htype hplan =>
    rw [plan_of_verdict (.accepted htarget htokens hdistinct htype hplan)] at h
    contradiction

/-- A failure after planning is that of a file, and the files before it are recorded as written. -/
theorem tells_of_refused (hplan : (g.plan s r).result = .ok p)
    (h : (g.generate s r).result = .error e) :
    ∃ before f after entries, p.files = before ++ f :: after ∧
      (PlannedFile.installAll before s).result = .ok entries ∧
      (f.install (PlannedFile.installAll before s).store).result = .error e ∧
      Tells (g.generate s r).events before entries := by
  rw [(g.generate_of_plan_ok s r hplan).1] at h
  obtain ⟨before, f, after, entries, hfiles, hentries, hrefused, htells⟩ :=
    PlannedFile.tells_of_refused (Outcome.map_eq_error.mp h)
  obtain ⟨front, hevents, hfront⟩ := events_of_plan hplan
  refine ⟨before, f, after, entries, hfiles, hentries, hrefused, ?_⟩
  rw [hevents]
  exact .after hfront htells

/-- The record of a run is fixed by the request and by the stores in which the files are met. It
begins with the attributes, in canonical words; it tells of no file or directory if the request is
not good; and the files that it tells of as written are those that the report does, or, when a file
is refused, those before it. -/
theorem record_is_faithful (g : Generator) (s : Store) (r : Request) :
    (∀ log, (g.generate s r).events = log ↔ Recorded g s r log) ∧
    (∀ as : List Attribute, IsSnakeName r.target →
      r.definitions.map Attribute.parse = as.map .ok →
      ((g.generate s r).events.take as.length).map Event.message =
        as.map fun a => "parsed attribute attribute=" ++ a.display) ∧
    (∀ e, (g.plan s r).result = .error e → ∀ event ∈ (g.generate s r).events,
      (∃ a, event = .parsedAttribute a) ∨ ∃ m n, event = .partitioned m n) ∧
    (∀ report, (g.generate s r).result = .ok report → ∃ p, (g.plan s r).result = .ok p ∧
      Tells (g.generate s r).events p.files (report.files.filter (·.2 != .skipped))) ∧
    ∀ p e, (g.plan s r).result = .ok p → (g.generate s r).result = .error e →
      ∃ before f after entries, p.files = before ++ f :: after ∧
        (PlannedFile.installAll before s).result = .ok entries ∧
        (f.install (PlannedFile.installAll before s).store).result = .error e ∧
        Tells (g.generate s r).events before entries := by
  refine ⟨fun log => ⟨?_, ?_⟩, fun as htarget htokens => messages_of_tokens htarget htokens,
    fun e => events_of_plan_error, fun report => tells_of_generate, fun p e => tells_of_refused⟩
  · rintro rfl
    exact recorded_generate g s r
  · exact fun h => h.eq_events.symm

/-- A file where the directory of the test stubs should be: the source is recorded as written. -/
theorem record_of_payment_refused_at_stub :
    let s := ((Store.empty none).put ["spec"] .directory).put ["spec", "mutations"] (.file "")
    let r := Request.mk "pay" ["note:string:optional", "sum:integer:required"]
    Recorded sketch s r
        [.parsedAttribute ⟨⟨"note", false, by decide⟩, .string, .optional, by decide⟩,
          .parsedAttribute ⟨⟨"sum", false, by decide⟩, .integer, .required, by decide⟩,
          .partitioned 1 1, .creatingDirectory ⟨"./app/mutations"⟩,
          .wroteFile .mutation ⟨"./app/mutations/pay.rs"⟩ .created,
          .creatingDirectory ⟨"./spec/mutations"⟩] ∧
      ((sketch.generate s r).events.take 2).map Event.message =
        ["parsed attribute attribute=note:string:optional",
          "parsed attribute attribute=sum:integer"] ∧
      ∃ before f after entries,
        [⟨.mutation, ⟨"./app/mutations/pay.rs"⟩, "some"⟩,
          ⟨.spec, ⟨"./spec/mutations/pay_spec.rs"⟩, "some"⟩] = before ++ f :: after ∧
        (PlannedFile.installAll before s).result = .ok entries ∧
        (f.install (PlannedFile.installAll before s).store).result =
          .error (.refused .createDirectory ⟨"./spec/mutations"⟩ .alreadyExists) ∧
        Tells (sketch.generate s r).events before entries := by
  have hplan : (sketch.plan (((Store.empty none).put ["spec"] .directory).put
      ["spec", "mutations"] (.file "")) ⟨"pay", ["note:string:optional",
        "sum:integer:required"]⟩).result = .ok ⟨"Pay",
      [⟨⟨"sum", false, by decide⟩, .integer, .implied, by decide⟩],
      [⟨⟨"note", false, by decide⟩, .string, .optional, by decide⟩],
      [⟨.mutation, ⟨"./app/mutations/pay.rs"⟩, "some"⟩,
        ⟨.spec, ⟨"./spec/mutations/pay_spec.rs"⟩, "some"⟩], none⟩ := by rfl
  have hrefused : (sketch.generate (((Store.empty none).put ["spec"] .directory).put
      ["spec", "mutations"] (.file "")) ⟨"pay", ["note:string:optional",
        "sum:integer:required"]⟩).result =
      .error (.refused .createDirectory ⟨"./spec/mutations"⟩ .alreadyExists) := by rfl
  have htarget : IsSnakeName "pay" := isTarget_iff.mp (by decide)
  have htokens : ["note:string:optional", "sum:integer:required"].map Attribute.parse =
      [⟨⟨"note", false, by decide⟩, .string, .optional, by decide⟩,
        ⟨⟨"sum", false, by decide⟩, .integer, .implied, by decide⟩].map .ok := by rfl
  obtain ⟨hrecord, hmessages, -, -, hfiles⟩ := record_is_faithful sketch
    (((Store.empty none).put ["spec"] .directory).put ["spec", "mutations"] (.file ""))
    ⟨"pay", ["note:string:optional", "sum:integer:required"]⟩
  exact ⟨(hrecord _).mp (by rfl), hmessages _ htarget htokens, hfiles _ _ hplan hrefused⟩

end Generator

end Stencil
