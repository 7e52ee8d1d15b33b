import TaskEndpoints.Proofs.Startup.Steps

/-!
# How the program ends

The program takes its steps one after another and then listens. Where the outside reacts as it is expected
to, a step that fails is reported and ends the program with the code one, with one exception: a log
directory that cannot be used ends it with an error that escapes.
-/

namespace TaskEndpoints

namespace Startup

variable {h : Host}

/-! ### All steps before listening -/

variable {session : Prepared → List Event}

end Startup

end TaskEndpoints
