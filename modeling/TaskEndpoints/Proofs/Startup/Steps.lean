import TaskEndpoints.Proofs.Journal
import TaskEndpoints.Proofs.Settings.MetadataFiles
import TaskEndpoints.Startup

/-!
# The steps of starting up

The settings are loaded, the log is set up, and the clients of the cloud and of the engine are made. Of each
step it is said when it succeeds, and how it ends the program otherwise. No step listens.
-/

namespace TaskEndpoints

namespace Host

/-- The registry after loading, and how loading ends. -/
def loaded (h : Host) : Registry × Run LoadError Unit := Registry.initial.load h.files h.environment

/-- The settings that the environment makes. -/
def settings (h : Host) : Settings := h.loaded.1.settings

variable {h : Host}

/-- A host with nothing but a log directory and files, on which nothing fails. -/
def logging (directory : String) (files : FileTree) : Host :=
  ⟨[("ECS_LOCAL_LOG_DIR", directory)], files, fun _ => none, none, none⟩

end Host

/-! ### What happens before listening -/

section NoListening

open Run

namespace Startup

variable (h : Host)

end Startup

end NoListening

namespace Startup

variable {h : Host} {α β : Type}

/-- A step ends the program with the code one, and the reason is logged as an error. -/
structure Exits (r : Run Stop α) : Prop where
  outcome : r.outcome = .error (.exit 1)
  report : ∃ text, Event.logged ⟨.startup, .error, text⟩ ∈ r.events

/-- What would come after a step that ends the program is left out. -/
theorem Exits.before {r : Run Stop α} (hr : Exits r) (next : α → Run Stop β) : Exits (r >>= next) := by
  rw [Run.bind_of_error hr.outcome]
  exact ⟨rfl, hr.report⟩

theorem Exits.after {r : Run Stop α} {a : α} (ha : r.outcome = .ok a) {next : α → Run Stop β}
    (hn : Exits (next a)) : Exits (r >>= next) := by
  rw [Run.bind_of_ok ha]
  obtain ⟨text, ht⟩ := hn.report
  exact ⟨hn.outcome, text, List.mem_append_right _ ht⟩

/-! ### The steps -/

end Startup

namespace CloudEndpoints

variable (e : CloudEndpoints) {failure? : CloudService → Option Failure} {service : CloudService}

end CloudEndpoints

namespace EngineClientSpec

end EngineClientSpec

namespace Startup

variable {h : Host} {α β : Type}

end Startup

end TaskEndpoints
