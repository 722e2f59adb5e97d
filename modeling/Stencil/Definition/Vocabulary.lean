/-! The closed word lists of attribute definitions: kinds of value and requirements. A word is
matched exactly, case included. -/

namespace Stencil

inductive Filter where
  | string | integer | model | hash | array | boolean | date | duck | input | symbol | time
deriving DecidableEq, Repr

namespace Filter

/-- In the order in which they are listed to a reader. -/
def all : List Filter :=
  [string, integer, model, hash, array, boolean, date, duck, input, symbol, time]

def text : Filter → String
  | string => "string"
  | integer => "integer"
  | model => "model"
  | hash => "hash"
  | array => "array"
  | boolean => "boolean"
  | date => "date"
  | duck => "duck"
  | input => "input"
  | symbol => "symbol"
  | time => "time"

def names : List String :=
  all.map text

def ofText? (word : String) : Option Filter :=
  all.find? (·.text == word)

theorem mem_all (f : Filter) : f ∈ all := by
  cases f <;> decide

theorem ofText?_text (f : Filter) : ofText? f.text = some f := by
  cases f <;> decide

theorem ofText?_eq_some_iff {word : String} {f : Filter} :
    ofText? word = some f ↔ word = f.text := by
  constructor
  · intro h
    have := List.find?_some h
    exact (beq_iff_eq.mp this).symm
  · rintro rfl
    exact ofText?_text f

end Filter

inductive Requirement where
  | required | optional
deriving DecidableEq, Repr

namespace Requirement

def all : List Requirement :=
  [required, optional]

def text : Requirement → String
  | required => "required"
  | optional => "optional"

def names : List String :=
  all.map text

def isOptional : Requirement → Bool
  | required => false
  | optional => true

def implied : Requirement :=
  required

def ofText? (word : String) : Option Requirement :=
  all.find? (·.text == word)

theorem ofText?_text (r : Requirement) : ofText? r.text = some r := by
  cases r <;> decide

theorem ofText?_eq_some_iff {word : String} {r : Requirement} :
    ofText? word = some r ↔ word = r.text := by
  constructor
  · intro h
    have := List.find?_some h
    exact (beq_iff_eq.mp this).symm
  · rintro rfl
    exact ofText?_text r

end Requirement

end Stencil
