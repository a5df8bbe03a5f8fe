import TickBound.Command.NumberLayout
import TickBound.Command.Words
import TickBound.Thing.Attribute

/-!
# Command templates

A template is split into words first, and then the fields of each word are replaced, so that a value
is never split again. A field is a name between braces; it may go on to items and attributes of the
value, ask for the quoted form and describe a layout, in which fields are replaced once more. Braces of
the word itself are written twice.
-/

namespace TickBound

namespace Command

inductive TemplateFault where
  | word (fault : WordFault)
  | loneOpening
  | loneClosing
  | unclosedField
  | openingInName
  | conversionMissing
  | colonExpected
  | unclosedLayout
  | tooDeep
  | unknownConversion (c : Char)
  | noPosition (index : Nat)
  | unknownName (name : String)
  | numberTooLong
  | emptyAccess
  | unclosedIndex
  | strayAfterIndex
  | unknownAttribute
  | item (fault : Thing.ItemFault)
  /-- Only texts and numbers can be laid out. -/
  | notLaidOut
  | layout (fault : LayoutFault)
  deriving DecidableEq

/-- One part of a word. -/
inductive Segment where
  | char (c : Char)
  | field (name : List Char) (conversion : Option Char) (layout : List Char)
  | broken (fault : TemplateFault)

/-- Where the reader of a word stands. Inside of a field it keeps what it has read, last character
first. -/
inductive Reading where
  | text
  | name (read : List Char) (inIndex : Bool)
  | conversion (name : List Char)
  | afterConversion (name : List Char) (conversion : Char)
  | layout (name : List Char) (conversion : Option Char) (read : List Char) (depth : Nat)

/-- The parts of the rest of a word. The first fault ends them. -/
def segmentsFrom : Reading → List Char → List Segment
  | .text, [] => []
  | .text, '\x7b' :: '\x7b' :: rest => .char '\x7b' :: segmentsFrom .text rest
  | .text, '\x7d' :: '\x7d' :: rest => .char '\x7d' :: segmentsFrom .text rest
  | .text, ['\x7b'] => [.broken .loneOpening]
  | .text, c :: rest =>
      if c = '\x7d' then [.broken .loneClosing]
      else if c = '\x7b' then segmentsFrom (.name [] false) rest
      else .char c :: segmentsFrom .text rest
  | .name _ _, [] => [.broken .unclosedField]
  | .name read inIndex, c :: rest =>
      if inIndex then segmentsFrom (.name (c :: read) (c ≠ ']')) rest
      else if c = '\x7b' then [.broken .openingInName]
      else if c = '\x7d' then .field read.reverse none [] :: segmentsFrom .text rest
      else if c = ':' then segmentsFrom (.layout read.reverse none [] 1) rest
      else if c = '!' then segmentsFrom (.conversion read.reverse) rest
      else segmentsFrom (.name (c :: read) (c = '[')) rest
  | .conversion _, [] => [.broken .conversionMissing]
  | .conversion name, c :: rest => segmentsFrom (.afterConversion name c) rest
  | .afterConversion _ _, [] => [.broken .unclosedLayout]
  | .afterConversion name conversion, c :: rest =>
      if c = '\x7d' then .field name (some conversion) [] :: segmentsFrom .text rest
      else if c = ':' then segmentsFrom (.layout name (some conversion) [] 1) rest
      else [.broken .colonExpected]
  | .layout _ _ _ _, [] => [.broken .unclosedLayout]
  | .layout name conversion read depth, c :: rest =>
      if c = '\x7b' then segmentsFrom (.layout name conversion (c :: read) (depth + 1)) rest
      else if c = '\x7d' then
        if depth = 1 then .field name conversion read.reverse :: segmentsFrom .text rest
        else segmentsFrom (.layout name conversion (c :: read) (depth - 1)) rest
      else segmentsFrom (.layout name conversion (c :: read) depth) rest

def segments (word : List Char) : List Segment :=
  segmentsFrom .text word

/-- The values that fields are replaced by. -/
abbrev Values := List (String × String)

/-- The number that a text of digits stands for; `none` if another character comes before the digits
grow too many. -/
def wholeNumber? (cs : List Char) : Except TemplateFault (Option Nat) :=
  match takeNumber cs with
  | .error _ => .error .numberTooLong
  | .ok (n, []) => .ok n
  | .ok (_, _ :: _) => .ok none

/-- The characters up to the next access. -/
def isAccess (c : Char) : Bool :=
  c = '.' || c = '['

/-- What stands between brackets: a number, or else a name. -/
def keyOf (cs : List Char) : Except TemplateFault Thing.Key := do
  match ← wholeNumber? cs with
  | some n => .ok (.number n)
  | none => .ok (.name cs)

/-- Follows the accesses behind a name: to attributes and to items. The budget is the number of
characters, of which every access takes one or more. -/
def follow : Nat → Thing → List Char → Except TemplateFault Thing
  | 0, thing, _ => .ok thing
  | _ + 1, thing, [] => .ok thing
  | budget + 1, thing, c :: rest =>
      if c = '.' then
        let name := rest.takeWhile (!isAccess ·)
        if name.isEmpty then .error .emptyAccess
        else
          match thing.attribute? (String.ofList name) with
          | some value => follow budget value (rest.dropWhile (!isAccess ·))
          | none => .error .unknownAttribute
      else if c = '[' then
        match rest.dropWhile (· ≠ ']') with
        | [] => .error .unclosedIndex
        | _ :: after => do
            let index := rest.takeWhile (· ≠ ']')
            let key ← keyOf index
            if index.isEmpty then .error .emptyAccess
            else follow budget (← (thing.item key).mapError .item) after
      else .error .strayAfterIndex

/-- What a field names. -/
def lookUp (values : Values) (field : List Char) : Except TemplateFault Thing := do
  let base := field.takeWhile (!isAccess ·)
  let rest := field.dropWhile (!isAccess ·)
  match ← wholeNumber? base with
  | some index => .error (.noPosition index)
  | none =>
      if base.isEmpty then .error (.noPosition 0)
      else
        match values.lookup (String.ofList base) with
        | some value => follow rest.length (Thing.ofString value) rest
        | none => .error (.unknownName (String.ofList base))

/-- The form of a thing that a conversion letter asks for. -/
def convert (conversion : Option Char) (thing : Thing) : Except TemplateFault Thing :=
  match conversion with
  | none => .ok thing
  | some 'r' => .ok (.ofString thing.quoted)
  | some 'a' => .ok (.text thing.quotedAscii)
  | some 's' => .ok (.text thing.shown)
  | some '\x00' => .ok thing
  | some c => .error (.unknownConversion c)

/-- A thing as a layout asks for it. -/
def present (description : List Char) (thing : Thing) : Except TemplateFault (List Char) :=
  match thing with
  | .text value => (layOut description value).mapError .layout
  | other =>
      if description.isEmpty then .ok other.shown
      else match other with
        | .number n => (layOutNumber "int" description n).mapError .layout
        | .truth b => (layOutNumber "bool" description b.toNat).mapError .layout
        | _ => .error .notLaidOut

/-- Replaces the fields of a word, from left to right; `nested` expands the layouts that hold fields. -/
def replaceFields (nested : List Char → Except TemplateFault (List Char)) (values : Values) :
    List Segment → Except TemplateFault (List Char)
  | [] => .ok []
  | .char c :: rest => do
      let more ← replaceFields nested values rest
      .ok (c :: more)
  | .broken fault :: _ => .error fault
  | .field name conversion layout :: rest => do
      let thing ← lookUp values name
      let converted ← convert conversion thing
      let description ← if layout.contains '\x7b' then nested layout else .ok layout
      let shown ← present description converted
      let more ← replaceFields nested values rest
      .ok (shown ++ more)

/-- Expands a word whose layouts may hold fields `depth - 1` levels deep. -/
def expandWord (values : Values) : Nat → List Char → Except TemplateFault (List Char)
  | 0, _ => .error .tooDeep
  | depth + 1, word => replaceFields (expandWord values depth) values (segments word)

/-- The arguments that a template stands for. -/
def expand (template : String) (values : Values) : Except TemplateFault (List String) := do
  let ws ← (words template.toList).mapError .word
  ws.mapM fun word => (expandWord values 2 word).map String.ofList

def TemplateFault.message : TemplateFault → String
  | word fault => fault.message
  | loneOpening => "Single '\x7b' encountered in format string"
  | loneClosing => "Single '\x7d' encountered in format string"
  | unclosedField => "expected '\x7d' before end of string"
  | openingInName => "unexpected '\x7b' in field name"
  | conversionMissing => "end of string while looking for conversion specifier"
  | colonExpected => "expected ':' after conversion specifier"
  | unclosedLayout => "unmatched '\x7b' in format spec"
  | tooDeep => "Max string recursion exceeded"
  | unknownConversion c => "Unknown conversion specifier " ++ visible 127 c
  | noPosition index =>
      "Replacement index " ++ Number.decimal index ++ " out of range for positional args tuple"
  | unknownName name => Text.quoted name
  | numberTooLong => "Too many decimal digits in format string"
  | emptyAccess => "Empty attribute in format string"
  | unclosedIndex => "Missing ']' in format string"
  | strayAfterIndex => "Only '.' or '[' may follow ']' in format field specifier"
  | unknownAttribute => ""
  | item fault => fault.message
  | notLaidOut => ""
  | layout fault => fault.message

end Command

end TickBound
