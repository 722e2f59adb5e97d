import Stencil.Store.Basic

/-! The contents of a directory as a list of relative paths. -/

namespace Stencil.Store

/-- Everything below a location, by path from there, in the order of the paths' texts. -/
def below (s : Store) (l : Location) : List (String × Entry) :=
  let entries := s.toList.filter fun (k, _) => l.isPrefixOf k && k.length != l.length
  (entries.map fun (k, e) => ("/".intercalate (k.drop l.length), e)).mergeSort
    fun a b => decide (a.1 ≤ b.1)

end Stencil.Store
