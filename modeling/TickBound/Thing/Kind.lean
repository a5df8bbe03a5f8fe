/-!
# Kinds of things

A value of a template is a text, and a field can go on from it to other things. Each is of a kind, and
kinds are things as well. What does not depend on the single thing is said here: names, ancestry and
the sizes that kinds give of their things.
-/

namespace TickBound

namespace Thing

/-- The kinds of the things that a field can reach. -/
inductive Kind where
  | text
  | number
  | truth
  /-- What stands for an absent thing. -/
  | nothing
  | tuple
  | dictionary
  /-- What is kept under the names of a kind. -/
  | tableView
  | kind
  /-- The kind above all others. -/
  | base
  /-- An operation of a thing. -/
  | operation
  /-- An operation of a thing that has a sign or a place in the language of expressions. -/
  | tiedSpecial
  /-- An operation as a kind keeps it for its things. -/
  | openOperation
  | openSpecial
  /-- What a thing says of itself and works out for that. -/
  | computedEntry
  /-- What a thing holds of itself. -/
  | heldEntry
  /-- An operation of the kind and not of its things. -/
  | kindOperation
  /-- An operation that is kept under a kind and needs no thing. -/
  | freeOperation
  /-- A kind with an argument. -/
  | applied
  deriving DecidableEq

namespace Kind

def name : Kind → String
  | text => "str"
  | number => "int"
  | truth => "bool"
  | nothing => "NoneType"
  | tuple => "tuple"
  | dictionary => "dict"
  | tableView => "mappingproxy"
  | kind => "type"
  | base => "object"
  | operation => "builtin_function_or_method"
  | tiedSpecial => "method-wrapper"
  | openOperation => "method_descriptor"
  | openSpecial => "wrapper_descriptor"
  | computedEntry => "getset_descriptor"
  | heldEntry => "member_descriptor"
  | kindOperation => "classmethod_descriptor"
  | freeOperation => "staticmethod"
  | applied => "GenericAlias"

/-- The module that a kind belongs to. -/
def home : Kind → String
  | applied => "types"
  | _ => "builtins"

/-- The name of a kind, behind that of its module if this is no usual one. -/
def title (k : Kind) : String :=
  if k.home = "builtins" then k.name else k.home ++ "." ++ k.name

/-- The kind directly above. -/
def parent? : Kind → Option Kind
  | base => none
  | truth => some number
  | _ => some base

/-- The kind itself and those above it. What belongs to a thing is sought in this order. -/
def ancestry : Kind → List Kind
  | base => [base]
  | truth => [truth, number, base]
  | k => [k, base]

/-- How things of a kind are laid out in memory. -/
structure Shape where
  flags : Nat
  size : Nat
  itemSize : Nat := 0
  /-- Where the entries of the single thing are, if it has any. -/
  entriesAt : Nat := 0
  /-- Where the weak references to the thing are, if there can be any. -/
  referencesAt : Nat := 0

def shape : Kind → Shape
  | text => { flags := 0x10481500, size := 80 }
  | number => { flags := 0x1481500, size := 24, itemSize := 4 }
  | truth => { flags := 0x1481100, size := 32, itemSize := 4 }
  | nothing => { flags := 0x81100, size := 16 }
  | tuple => { flags := 0x4485520, size := 24, itemSize := 8 }
  | dictionary => { flags := 0x20485540, size := 48 }
  | tableView => { flags := 0x85140, size := 24 }
  | kind => { flags := 0x80085D00, size := 904, itemSize := 40, entriesAt := 264, referencesAt := 368 }
  | base => { flags := 0x81500, size := 16 }
  | operation => { flags := 0x85980, size := 56, referencesAt := 40 }
  | tiedSpecial => { flags := 0x85180, size := 32 }
  | openOperation => { flags := 0xA5980, size := 56 }
  | openSpecial => { flags := 0xA5180, size := 56 }
  | computedEntry => { flags := 0x85180, size := 48 }
  | heldEntry => { flags := 0x85180, size := 48 }
  | kindOperation => { flags := 0x85180, size := 56 }
  | freeOperation => { flags := 0x85500, size := 32, entriesAt := 24 }
  | applied => { flags := 0x85D00, size := 64, referencesAt := 40 }

end Kind

end Thing

end TickBound
