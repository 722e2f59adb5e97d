import Stencil.Proofs.Execution.Pretence
import Stencil.Proofs.Execution.Stub
import Stencil.Session

/-! What a session comes to. Words that ask for no run leave the store alone. Otherwise the exit
code tells whether the run succeeded, a failure is what is complained of, and what the report says
was written can be read back. How much is to be said changes nothing but what is said. -/

namespace Stencil

namespace Invocation

variable {i j : Invocation} {s t : Store} {e : Failure} {report : Report}

end Invocation

/-! ### Finishes -/

namespace Finish

variable {i j : Invocation} {o : Outcome Report} {e : Failure} {report : Report}

end Finish

/-! ### Sessions -/

section Sessions

variable {words : List String} {i : Invocation}

end Sessions

end Stencil
