import Stencil.Outcome

/-! What the end of a composed run says about its parts: a run of two parts ends well exactly when
both do, and it fails as the first part that fails. -/

namespace Stencil

variable {ε α β : Type}

theorem exists_of_isOk {x : Except ε α} (h : x.isOk = true) : ∃ a, x = .ok a := by
  cases x with
  | error e => contradiction
  | ok a => exact ⟨a, rfl⟩

theorem exists_of_not_isOk {x : Except ε α} (h : x.isOk = false) : ∃ e, x = .error e := by
  cases x with
  | error e => exact ⟨e, rfl⟩
  | ok a => contradiction

theorem Traced.result_andThen (t : Traced α) (next : α → Traced β) :
    (t.andThen next).result = t.result.bind fun a => (next a).result := by
  unfold andThen
  cases t.result <;> rfl

namespace Outcome

theorem result_andThen (o : Outcome α) (next : Store → α → Outcome β) :
    (o.andThen next).result = o.result.bind fun a => (next o.store a).result := by
  unfold andThen
  cases o.result <;> rfl

theorem andThen_eq_ok {o : Outcome α} {next : Store → α → Outcome β} {b : β}
    (h : (o.andThen next).result = .ok b) :
    ∃ a, o.result = .ok a ∧ (next o.store a).result = .ok b ∧
      (o.andThen next).store = (next o.store a).store := by
  cases ho : o.result with
  | error f =>
    rw [andThen_of_error ho] at h
    contradiction
  | ok a =>
    rw [andThen_of_ok ho] at h ⊢
    exact ⟨a, rfl, h, rfl⟩

theorem andThen_eq_error {o : Outcome α} {next : Store → α → Outcome β} {f : Failure}
    (h : (o.andThen next).result = .error f) :
    (o.result = .error f ∧ (o.andThen next).store = o.store) ∨
      ∃ a, o.result = .ok a ∧ (next o.store a).result = .error f ∧
        (o.andThen next).store = (next o.store a).store := by
  cases ho : o.result with
  | error g =>
    rw [andThen_of_error ho] at h ⊢
    obtain rfl : g = f := Except.error.inj h
    exact .inl ⟨rfl, rfl⟩
  | ok a =>
    rw [andThen_of_ok ho] at h ⊢
    exact .inr ⟨a, rfl, h, rfl⟩

theorem map_eq_ok {o : Outcome α} {g : α → β} {b : β} (h : (o.map g).result = .ok b) :
    ∃ a, o.result = .ok a ∧ g a = b := by
  unfold map at h
  cases ho : o.result with
  | error f => simp [ho, Except.map] at h
  | ok a =>
    simp only [ho, Except.map, Except.ok.injEq] at h
    exact ⟨a, rfl, h⟩

theorem map_eq_error {o : Outcome α} {g : α → β} {f : Failure} :
    (o.map g).result = .error f ↔ o.result = .error f := by
  unfold map
  cases o.result <;> simp [Except.map]

end Outcome

end Stencil
