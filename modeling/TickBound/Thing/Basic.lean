import TickBound.Number.Numeral
import TickBound.Text.Quoted
import TickBound.Thing.OfCollection
import TickBound.Thing.OfKind
import TickBound.Thing.OfNumber
import TickBound.Thing.OfOperation
import TickBound.Thing.OfText

/-!
# Things that a field can reach

Texts, numbers and truth values, kinds and what they keep, and the operations of things. Operations
cannot be carried out.
-/

namespace TickBound

namespace Thing

namespace Kind

/-- What a kind keeps, in the order in which it is shown. -/
def entries : Kind → List Entry
  | text => Entry.textEntries
  | number => Entry.numberEntries
  | truth => Entry.truthEntries
  | nothing => Entry.nothingEntries
  | tuple => Entry.tupleEntries
  | dictionary => Entry.dictionaryEntries
  | tableView => Entry.tableViewEntries
  | kind => Entry.kindEntries
  | base => Entry.baseEntries
  | operation => Entry.operationEntries
  | tiedSpecial => Entry.tiedSpecialEntries
  | openOperation => Entry.openOperationEntries
  | openSpecial => Entry.openSpecialEntries
  | computedEntry => Entry.computedEntryEntries
  | heldEntry => Entry.heldEntryEntries
  | kindOperation => Entry.kindOperationEntries
  | freeOperation => Entry.freeOperationEntries
  | applied => Entry.appliedEntries

/-- The entry that the kind itself keeps under a name. -/
def entry? (k : Kind) (name : String) : Option Entry :=
  k.entries.find? (·.name = name)

/-- The entry that counts for a name, and the kind that keeps it. -/
def find? (k : Kind) (name : String) : Option (Kind × Entry) :=
  k.ancestry.findSome? fun owner => (owner.entry? name).map (owner, ·)

/-- An argument can be given to the kind. -/
def takesArgument (k : Kind) : Bool :=
  k = kind || (k.find? "__class_getitem__").isSome

end Kind

/-- What stands between brackets behind a thing. -/
inductive Key where
  | number (value : Nat)
  | name (value : List Char)
  deriving DecidableEq

end Thing

open Thing (Kind Entry Key)

inductive Thing where
  | text (value : List Char)
  | number (value : Nat)
  | truth (value : Bool)
  | nothing
  | kind (k : Kind)
  | kinds (ks : List Kind)
  | keys (keys : List Key)
  /-- The dictionary that a free operation has of its own. -/
  | emptyDictionary
  /-- Everything that a kind keeps. -/
  | table (k : Kind)
  /-- An entry as its kind keeps it. -/
  | kept (owner : Kind) (entry : Entry)
  /-- An operation of a thing. -/
  | tied (owner : Kind) (entry : Entry) (self : Thing)
  /-- A kind with an argument. -/
  | applied (origin : Kind) (argument : Key)

namespace Thing

def ofString (s : String) : Thing :=
  .text s.toList

/-- A text, or the absent thing. -/
def ofString? (s : Option String) : Thing :=
  match s with
  | some s => ofString s
  | none => .nothing

def Key.thing : Key → Thing
  | number n => .number n
  | name cs => .text cs

/-- The kind of an entry that is kept as it is. -/
def Role.kindOf : Role → Kind
  | special => .openSpecial
  | ordinary => .openOperation
  | ofKind => .kindOperation
  | free => .freeOperation
  | maker => .operation
  | computed => .computedEntry
  | held => .heldEntry
  | description => .text
  | absent => .nothing

def kindOf : Thing → Kind
  | text _ => .text
  | number _ => .number
  | truth _ => .truth
  | nothing => .nothing
  | kind _ => .kind
  | kinds _ => .tuple
  | keys _ => .tuple
  | emptyDictionary => .dictionary
  | table _ => .tableView
  | kept _ entry => entry.role.kindOf
  | tied _ entry _ => if entry.role = .special then .tiedSpecial else .operation
  | applied _ _ => .applied

/-- What a kind keeps under the name of an entry. -/
def raw (owner : Kind) (entry : Entry) : Thing :=
  match entry.role with
  | .description => ofString? entry.wording
  | .absent => .nothing
  | .maker => .tied owner entry (.kind owner)
  | _ => .kept owner entry

/-! ## Showing -/

/-- A list between two marks. -/
def between (opening closing : String) (parts : List String) : String :=
  opening ++ ", ".intercalate parts ++ closing

/-- Parts between parentheses; a single one has a comma behind it. -/
def tupleText : List String → String
  | [part] => "(" ++ part ++ ",)"
  | parts => between "(" ")" parts

/-- Where a thing stands in memory. Nothing is said of the place. -/
def place : String := " at 0x7f0000000000"

def Key.quoted : Key → String
  | number n => Number.decimal n
  | name cs => String.ofList (Text.quote cs)

def Kind.quoted (k : Kind) : String :=
  "<class '" ++ k.title ++ "'>"

/-- An operation of a thing of kind `k`. -/
def quotedTied (entry : Entry) (k : Kind) : String :=
  if entry.role = .special then
    "<method-wrapper '" ++ entry.name ++ "' of " ++ k.title ++ " object" ++ place ++ ">"
  else "<built-in method " ++ entry.name ++ " of " ++ k.title ++ " object" ++ place ++ ">"

/-- An entry, by the word for its role. -/
def quotedAs (word : String) (owner : Kind) (entry : Entry) : String :=
  "<" ++ word ++ " '" ++ entry.name ++ "' of '" ++ owner.title ++ "' objects>"

/-- What a kind keeps under the name of an entry. -/
def quotedKept (owner : Kind) (entry : Entry) : String :=
  match entry.role with
  | .special => quotedAs "slot wrapper" owner entry
  | .ordinary => quotedAs "method" owner entry
  | .ofKind => quotedAs "method" owner entry
  | .free => "<staticmethod(" ++ quotedTied entry .kind ++ ")>"
  | .maker => quotedTied entry .kind
  | .computed => quotedAs "attribute" owner entry
  | .held => quotedAs "member" owner entry
  | .description =>
      match entry.wording with
      | some words => Text.quoted words
      | none => "None"
  | .absent => "None"

/-- Everything that a kind keeps, by name. -/
def tableText (k : Kind) : String :=
  between "\x7b" "\x7d"
    (k.entries.map fun entry => Text.quoted entry.name ++ ": " ++ quotedKept k entry)

def quoted : Thing → String
  | text value => String.ofList (Text.quote value)
  | number n => Number.decimal n
  | truth true => "True"
  | truth false => "False"
  | nothing => "None"
  | kind k => k.quoted
  | kinds ks => tupleText (ks.map Kind.quoted)
  | keys ks => tupleText (ks.map Key.quoted)
  | emptyDictionary => between "\x7b" "\x7d" []
  | table k => "mappingproxy(" ++ tableText k ++ ")"
  | kept owner entry => quotedKept owner entry
  | tied _ entry self => quotedTied entry self.kindOf
  | applied origin argument => origin.title ++ "[" ++ argument.quoted ++ "]"

/-- A thing as it is put into a word. -/
def shown : Thing → List Char
  | text value => value
  | table k => (tableText k).toList
  | other => other.quoted.toList

/-- The quoted form with every character beyond ASCII escaped. -/
def quotedAscii (thing : Thing) : List Char :=
  Text.escapeBeyondAscii thing.quoted.toList

end Thing

end TickBound
