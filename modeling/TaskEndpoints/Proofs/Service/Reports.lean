import TaskEndpoints.Proofs.Engine.Queries
import TaskEndpoints.Service.Basic

/-!
# Reports of refusals

A refused request is reported in the log. What answers a request writes records too, but never one that
has the form of such a report.

## Implementation notes

A record counts as a report by its level and by the first word of its text, so that a report which is
written elsewhere, or which says something else, would be counted too.
-/

namespace TaskEndpoints

namespace Run

variable {ε : Type}

end Run

open Run

/-! ### The views write no reports -/

namespace TimeLimit

end TimeLimit

namespace LimitedEngine

variable (e : LimitedEngine)

end LimitedEngine

namespace Description

variable (d : Description) (engine : LimitedEngine) (q : CallerQuery)

end Description

namespace Vending

end Vending

namespace Service

open Http

variable (s : Service) (w : Surroundings)

end Service

end TaskEndpoints
