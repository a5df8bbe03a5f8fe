import TickBound.Fault.Basic
import TickBound.Json.Reader
import TickBound.Text.Blank
import TickBound.Text.Line

/-!
# Bounds of paths

The engine writes one data value a line for each path that it has explored, with the most cycles that
the path can take. The estimate is the largest bound over all paths.
-/

namespace TickBound

namespace Bounds

def ofLine (number : Nat) (line : String) : Except EngineFault Nat :=
  match Json.read line with
  | .ok (.object members) =>
      match Json.Members.get? members "max_cycles" with
      | some (.int n) => if n < 0 then .error (.negative number n) else .ok n.toNat
      | some _ => .error (.notInteger number line)
      | none => .error (.badLine number line)
  | _ => .error (.badLine number line)

/-- The bounds on the lines from the line `number` on. Blank lines hold none. -/
def ofLines : Nat → List (List Char) → Except EngineFault (List Nat)
  | _, [] => .ok []
  | number, line :: more =>
      let inner := Text.trim line
      if inner.isEmpty then ofLines (number + 1) more
      else do
        let bound ← ofLine number (String.ofList inner)
        let bounds ← ofLines (number + 1) more
        .ok (bound :: bounds)

/-- The bounds in an output, in order. -/
def parse (output : String) : Except EngineFault (List Nat) :=
  ofLines 1 (Text.lines output.toList)

def worst {α : Type} [Max α] : List α → Except EngineFault α
  | [] => .error .noPaths
  | bound :: more => .ok (more.foldl max bound)

end Bounds

end TickBound
