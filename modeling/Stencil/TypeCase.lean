import Stencil.Text.Casing
import Stencil.Text.Cluster

/-! From a name to a type name: the name is cut into words, each word is written with a capital
first letter and small letters after it, and the words are run together. Words end at `_`, `-` and
blanks, where case or kind changes, and before the last capital of a run that small letters
follow (`XMLHttp` is `XML`, `Http`). -/

namespace Stencil.TypeCase

open Text

/-- A cluster is of one case when case matters to it and it is that case of itself. -/
def isUpper (g : Cluster) : Bool :=
  upper g != lower g && g == upper g

def isLower (g : Cluster) : Bool :=
  upper g != lower g && g == lower g

/-- Digits are those of ASCII; a digit with a mark is none. -/
def isDigit (g : Cluster) : Bool :=
  g.all Char.isDigit

def isSeparator (g : Cluster) : Bool :=
  g == ['_'] || g == ['-'] || g == [' ']

/-- Whether a word ends between `a` and `b`, when `next` follows `b`. -/
def endsBetween (a b : Cluster) (next : Option Cluster) : Bool :=
  (isLower a && (isUpper b || isDigit b)) ||
  (isDigit a && (isUpper b || isLower b)) ||
  (isUpper a && (isDigit b || (isUpper b && next.any isLower)))

def endsAfter (g : Cluster) : List Cluster → Bool
  | [] => false
  | b :: rest => endsBetween g b rest.head?

/-- The stretches between word ends. Separators leave empty stretches. -/
def stretches : List Cluster → List (List Cluster)
  | [] => [[]]
  | g :: rest =>
    if isSeparator g then [] :: stretches rest
    else if endsAfter g rest then [g] :: stretches rest
    else
      match stretches rest with
      | [] => [[g]]
      | s :: ss => (g :: s) :: ss

def words (name : List Char) : List (List Char) :=
  ((stretches (clusters name)).map List.flatten).filter (!·.isEmpty)

/-- A capital first character, which may become several, and the rest in small ones. A sigma at
the end of the word is final by what stands in that rest. -/
def capitalize : List Char → List Char
  | [] => []
  | c :: cs => upperChar c ++ lower cs

end TypeCase

/-- `create_user` becomes `CreateUser`. -/
def pascalCase (name : String) : String :=
  String.ofList ((TypeCase.words name.toList).flatMap TypeCase.capitalize)

def upperCase (name : String) : String :=
  String.ofList (Text.upper name.toList)

end Stencil
