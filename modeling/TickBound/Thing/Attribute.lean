import TickBound.Thing.Basic

/-!
# Going on from a thing

An attribute is sought in what the kinds of the thing keep, from its own kind upwards. What a thing says
of itself comes first; an operation that is found is tied to the thing. A kind also has what it keeps for
its things, not tied to any of them. A kind with an argument has few attributes of its own and
leaves the rest to the kind without it. Items are taken by number, or by name from what a kind keeps.
-/

namespace TickBound

namespace Thing

/-! ## What things say of themselves -/

/-- The description of the kind of kinds, which keeps something else under that name. -/
def kindDescription : String :=
  "type(object) -> the object's type\ntype(name, bases, dict, **kwds) -> a new type"

/-- What a kind says of itself as a whole. -/
def describe (k : Kind) : Thing :=
  if k = .kind then ofString kindDescription
  else match k.entry? "__doc__" with
    | some entry => raw k entry
    | none => .nothing

/-- What kinds take that say so. -/
def kindSignature? : Kind → Option String
  | .tuple => some "(iterable=(), /)"
  | .base => some "()"
  | _ => none

def kindField? (k : Kind) : String → Option Thing
  | "__name__" => some (ofString k.name)
  | "__qualname__" => some (ofString k.name)
  | "__module__" => some (ofString k.home)
  | "__base__" => some (match k.parent? with | some parent => .kind parent | none => .nothing)
  | "__bases__" => some (.kinds k.parent?.toList)
  | "__mro__" => some (.kinds k.ancestry)
  | "__dict__" => some (.table k)
  | "__doc__" => some (describe k)
  | "__text_signature__" => some (ofString? (kindSignature? k))
  | "__flags__" => some (.number k.shape.flags)
  | "__basicsize__" => some (.number k.shape.size)
  | "__itemsize__" => some (.number k.shape.itemSize)
  | "__dictoffset__" => some (.number k.shape.entriesAt)
  | "__weakrefoffset__" => some (.number k.shape.referencesAt)
  | _ => none

def numberField? (n : Nat) : String → Option Thing
  | "real" => some (.number n)
  | "imag" => some (.number 0)
  | "numerator" => some (.number n)
  | "denominator" => some (.number 1)
  | _ => none

/-- The name of an entry behind that of a kind. -/
def qualified (k : Kind) (entry : Entry) : Thing :=
  ofString (k.name ++ "." ++ entry.name)

/-- What entries and operations say of themselves in the same way. -/
def entryField? (owner : Kind) (entry : Entry) : String → Option Thing
  | "__name__" => some (ofString entry.name)
  | "__qualname__" => some (qualified owner entry)
  | "__doc__" => some (ofString? entry.wording)
  | "__text_signature__" => some (ofString? entry.signature)
  | "__objclass__" => some (.kind owner)
  | _ => none

/-- The kind under whose name an operation of a thing goes. -/
def holder : Thing → Kind
  | kind k => k
  | other => other.kindOf

def tiedField? (owner : Kind) (entry : Entry) (self : Thing) (name : String) : Option Thing :=
  match name with
  | "__self__" => some (if entry.role = .free then .nothing else self)
  | "__module__" => some .nothing
  | "__qualname__" =>
      some (qualified (if entry.role = .special then owner else self.holder) entry)
  | _ => entryField? owner entry name

/-- The operation that a free entry stands for. -/
def untied (owner : Kind) (entry : Entry) : Thing :=
  .tied owner entry (.kind owner)

def keptField? (owner : Kind) (entry : Entry) (name : String) : Option Thing :=
  if entry.role = .free then
    match name with
    | "__func__" => some (untied owner entry)
    | "__wrapped__" => some (untied owner entry)
    | "__isabstractmethod__" => some (.truth false)
    | "__dict__" => some .emptyDictionary
    | _ => none
  else entryField? owner entry name

def appliedField? (origin : Kind) (argument : Key) : String → Option Thing
  | "__origin__" => some (.kind origin)
  | "__args__" => some (.keys [argument])
  | "__parameters__" => some (.keys [])
  | "__unpacked__" => some (.truth false)
  | "__typing_unpacked_tuple_args__" => some .nothing
  | _ => none

/-- What a thing says of itself, under a name for which its kind has an entry of that role. -/
def field? (thing : Thing) (name : String) : Option Thing :=
  if name = "__class__" then some (.kind thing.kindOf)
  else match thing with
    | number n => numberField? n name
    | truth b => numberField? b.toNat name
    | kind k => kindField? k name
    | kept owner entry => keptField? owner entry name
    | tied owner entry self => tiedField? owner entry self name
    | applied origin argument => appliedField? origin argument name
    | _ => none

/-! ## Attributes -/

/-- A thing says by itself what the entry stands for. -/
def Entry.isField (entry : Entry) : Bool :=
  entry.role = .computed || entry.role = .held

/-- What an entry of its kind is for a thing. -/
def tie (thing : Thing) (owner : Kind) (entry : Entry) : Thing :=
  match entry.role with
  | .special => .tied owner entry thing
  | .ordinary => .tied owner entry thing
  | .ofKind => .tied owner entry (.kind thing.kindOf)
  | .free => untied owner entry
  | _ => raw owner entry

/-- What an entry is for the kind `k` that has it for its things. -/
def tieToKind (k owner : Kind) (entry : Entry) : Thing :=
  match entry.role with
  | .ofKind => .tied owner entry (.kind k)
  | .free => untied owner entry
  | _ => raw owner entry

/-- An attribute by the entries of the kind of a thing. -/
def plainAttribute? (thing : Thing) (name : String) : Option Thing :=
  match thing.kindOf.find? name with
  | some (owner, entry) => if entry.isField then thing.field? name else some (thing.tie owner entry)
  | none => none

/-- An attribute of a kind: what it says of itself, what it keeps for its things, and then what kinds
keep for kinds. -/
def kindAttribute? (k : Kind) (name : String) : Option Thing :=
  match Kind.kind.find? name, k.find? name with
  | some (owner, entry), found =>
      if entry.isField then (kind k).field? name
      else match found with
        | some (own, nearer) => some (tieToKind k own nearer)
        | none => some ((kind k).tie owner entry)
  | none, found => found.map fun (own, nearer) => tieToKind k own nearer

/-- The attributes that a kind with an argument does not leave to the kind without it. -/
def appliedNames : List String :=
  ["__class__", "__origin__", "__args__", "__unpacked__", "__parameters__",
    "__typing_unpacked_tuple_args__", "__mro_entries__", "__reduce_ex__", "__reduce__", "__copy__",
    "__deepcopy__"]

def attribute? (thing : Thing) (name : String) : Option Thing :=
  match thing with
  | kind k => kindAttribute? k name
  | applied origin _ =>
      if appliedNames.contains name then thing.plainAttribute? name else kindAttribute? origin name
  | other => other.plainAttribute? name

/-! ## Items -/

inductive ItemFault where
  | beyondText
  | beyondTuple
  | notNumber
  | noEntry (key : Key)
  | noItems
  deriving DecidableEq

/-- The thing at a place of a tuple. -/
def nth (things : List Thing) : Key → Except ItemFault Thing
  | .number n =>
      match things[n]? with
      | some thing => .ok thing
      | none => .error .beyondTuple
  | .name _ => .error .notNumber

def item (thing : Thing) (key : Key) : Except ItemFault Thing :=
  match thing with
  | text value =>
      match key with
      | .number n =>
          match value[n]? with
          | some c => .ok (.text [c])
          | none => .error .beyondText
      | .name _ => .error .notNumber
  | kinds ks => nth (ks.map .kind) key
  | keys ks => nth (ks.map Key.thing) key
  | emptyDictionary => .error (.noEntry key)
  | table k =>
      match key with
      | .number _ => .error (.noEntry key)
      | .name cs =>
          match k.entry? (String.ofList cs) with
          | some entry => .ok (raw k entry)
          | none => .error (.noEntry key)
  | kind k => if k.takesArgument then .ok (.applied k key) else .error .noItems
  | _ => .error .noItems

def ItemFault.message : ItemFault → String
  | beyondText => "string index out of range"
  | beyondTuple => "tuple index out of range"
  | notNumber => ""
  | noEntry key => key.quoted
  | noItems => ""

end Thing

end TickBound
