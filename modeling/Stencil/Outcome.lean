import Stencil.Event
import Stencil.Failure
import Stencil.Store.Basic

/-! Results with a record of how they came about. A `Traced` result leaves the store alone; an
`Outcome` also says what the store is afterwards, whether or not it succeeded. -/

namespace Stencil

structure Traced (α : Type) where
  events : List Event
  result : Except Failure α

structure Outcome (α : Type) where
  events : List Event
  store : Store
  result : Except Failure α

namespace Traced

variable {α β : Type}

def ok (a : α) : Traced α :=
  ⟨[], .ok a⟩

def fail (f : Failure) : Traced α :=
  ⟨[], .error f⟩

/-- Goes on from a success; events add up. -/
def andThen (t : Traced α) (next : α → Traced β) : Traced β :=
  match t.result with
  | .error f => ⟨t.events, .error f⟩
  | .ok a => ⟨t.events ++ (next a).events, (next a).result⟩

theorem andThen_of_ok {t : Traced α} {a : α} (h : t.result = .ok a) (next : α → Traced β) :
    t.andThen next = ⟨t.events ++ (next a).events, (next a).result⟩ := by
  simp [andThen, h]

theorem andThen_of_error {t : Traced α} {f : Failure} (h : t.result = .error f)
    (next : α → Traced β) : t.andThen next = ⟨t.events, .error f⟩ := by
  simp [andThen, h]

end Traced

namespace Outcome

variable {α β : Type}

def ok (s : Store) (a : α) : Outcome α :=
  ⟨[], s, .ok a⟩

def fail (s : Store) (f : Failure) : Outcome α :=
  ⟨[], s, .error f⟩

/-- Goes on from a success in the store that it left; events add up. -/
def andThen (o : Outcome α) (next : Store → α → Outcome β) : Outcome β :=
  match o.result with
  | .error f => ⟨o.events, o.store, .error f⟩
  | .ok a =>
    let rest := next o.store a
    ⟨o.events ++ rest.events, rest.store, rest.result⟩

theorem andThen_of_ok {o : Outcome α} {a : α} (h : o.result = .ok a)
    (next : Store → α → Outcome β) :
    o.andThen next =
      ⟨o.events ++ (next o.store a).events, (next o.store a).store, (next o.store a).result⟩ := by
  simp [andThen, h]

theorem andThen_of_error {o : Outcome α} {f : Failure} (h : o.result = .error f)
    (next : Store → α → Outcome β) : o.andThen next = ⟨o.events, o.store, .error f⟩ := by
  simp [andThen, h]

def map (f : α → β) (o : Outcome α) : Outcome β :=
  ⟨o.events, o.store, o.result.map f⟩

end Outcome

/-- A traced result seen in a store that stays as it is. -/
def Traced.inStore {α : Type} (t : Traced α) (s : Store) : Outcome α :=
  ⟨t.events, s, t.result⟩

end Stencil
