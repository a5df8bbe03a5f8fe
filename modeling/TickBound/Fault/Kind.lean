/-!
# Kinds of failure

Every stage of a measurement has its kind of failure, and some kinds are special cases of others.
-/

namespace TickBound

namespace Fault

inductive Kind where
  /-- Any failure of a measurement. -/
  | pipeline
  | settings
  | attach
  | busy
  | flash
  | haltTimeout
  | memory
  | memoryWrite
  | calibration
  | symbolic
  | markers
  deriving DecidableEq

namespace Kind

def parent? : Kind → Option Kind
  | pipeline => none
  | busy => some attach
  | memoryWrite => some memory
  | calibration => some memory
  | _ => some pipeline

def all : List Kind :=
  [pipeline, settings, attach, busy, flash, haltTimeout, memory, memoryWrite, calibration, symbolic,
    markers]

/-- The kind itself and those of which it is a special case, nearest first. No kind has more than two
above it. -/
def ancestry (kind : Kind) : List Kind :=
  match kind.parent? with
  | none => [kind]
  | some parent =>
      match parent.parent? with
      | none => [kind, parent]
      | some grandparent => [kind, parent, grandparent]

/-- The kind is `other` or a special case of it. -/
def isA (kind other : Kind) : Bool :=
  kind.ancestry.contains other

/-- The kind says that a time ran out. -/
def isTimeout : Kind → Bool
  | haltTimeout => true
  | _ => false

end Kind

end Fault

end TickBound
