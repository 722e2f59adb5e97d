/-! Texts made of lines, each ended by a line feed. -/

namespace Stencil.Text

def ofLines (lines : List String) : String :=
  String.join (lines.map (· ++ "\n"))

def indent : Nat → String → String
  | 0, line => line
  | depth + 1, line => "    " ++ indent depth line

def alignRight (width : Nat) (word : String) : String :=
  String.ofList (List.replicate (width - word.length) ' ') ++ word

end Stencil.Text
