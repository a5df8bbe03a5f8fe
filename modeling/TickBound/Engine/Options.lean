import TickBound.Fault.Basic
import TickBound.Json.Basic
import TickBound.Json.Printer

/-!
# Options of the engine

What the engine is told on its input. The hooks are places for extensions and empty unless given; an
option may hold any value, nested to any depth.
-/

namespace TickBound

structure EngineOptions where
  showPathResults : Json := .bool false
  pcHooks : Json := .array []
  registerReadHooks : Json := .array []
  registerWriteHooks : Json := .array []
  memoryReadHooks : Json := .array []
  memoryWriteHooks : Json := .array []

namespace EngineOptions

/-- The options by name, in their order. -/
def members (options : EngineOptions) : Json.Members :=
  [("show_path_results", options.showPathResults), ("pc_hooks", options.pcHooks),
    ("register_read_hooks", options.registerReadHooks),
    ("register_write_hooks", options.registerWriteHooks),
    ("memory_read_hooks", options.memoryReadHooks), ("memory_write_hooks", options.memoryWriteHooks)]

def text (options : EngineOptions) : String :=
  (Json.object options.members).text

/-- Gives one option a value; there are no others. -/
def set? (options : EngineOptions) (name : String) (value : Json) : Option EngineOptions :=
  match name with
  | "show_path_results" => some { options with showPathResults := value }
  | "pc_hooks" => some { options with pcHooks := value }
  | "register_read_hooks" => some { options with registerReadHooks := value }
  | "register_write_hooks" => some { options with registerWriteHooks := value }
  | "memory_read_hooks" => some { options with memoryReadHooks := value }
  | "memory_write_hooks" => some { options with memoryWriteHooks := value }
  | _ => none

/-- The options that are given by name; the rest is as usual. -/
def ofMembers (given : Json.Members) : Except Fault EngineOptions :=
  given.foldlM (fun options (name, value) =>
    match options.set? name.shown value with
    | some changed => .ok changed
    | none => .error (.outside (.unknownOption name.shown))) {}

end EngineOptions

end TickBound
