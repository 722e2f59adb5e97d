import Stencil.Definition.Attribute
import Stencil.TypeCase

/-! The type of an input's value and of the field that holds it. -/

namespace Stencil.Attribute

/-- A model is typed by the attribute's own name. -/
def valueType (a : Attribute) : String :=
  match a.filter with
  | .string => "String"
  | .integer => "i64"
  | .model => pascalCase a.name.plain
  | .hash => "std::collections::HashMap<String, String>"
  | .array => "Vec<String>"
  | .boolean => "bool"
  | .date => "chrono::NaiveDate"
  | .duck | .input => "Box<dyn std::any::Any>"
  | .symbol => "&\x27static str"
  | .time => "chrono::DateTime<chrono::Utc>"

def fieldType (a : Attribute) : String :=
  if a.isOptional then "Option<" ++ a.valueType ++ ">" else a.valueType

end Stencil.Attribute
