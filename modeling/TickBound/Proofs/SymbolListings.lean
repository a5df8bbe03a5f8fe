import TickBound.Proofs.EngineOutput
import TickBound.Proofs.Fields
import TickBound.Proofs.Programs

/-!
# Listings of symbols

A listing has a line for each symbol: its address, the letter of its type and its name, or only letter and
name where it is defined elsewhere. Looked up in a listing, a name has the address of the first entry that
defines it as a symbol of code. Letters and names may look like addresses and are never taken for one, as
a line has its three fields in one order.
-/

namespace TickBound

/-! ## Addresses -/

namespace Number

/-- The characters are the hexadecimal digits of the number, each in either case, behind any number of
zeros. -/
def HexSpelling (cs : List Char) (n : Nat) : Prop :=
  ∃ width, List.Forall₂ (fun c d => c = digitChar d ∨ c = smallDigitChar d) cs (paddedDigits 16 width n)

theorem digitIn?_digitChar : ∀ d < 16, digitIn? 16 (digitChar d) = some d := by
  decide

theorem isHexDigit_digitChar :
    ∀ d < 16, SymbolLine.isHexDigit (digitChar d) = true ∧
      SymbolLine.isHexDigit (smallDigitChar d) = true := by
  decide

theorem isBlank_digitChar :
    ∀ d < 16, Text.isBlank (digitChar d) = false ∧ Text.isBlank (smallDigitChar d) = false := by
  decide

namespace HexSpelling

variable {cs : List Char} {n : Nat}

theorem digit (h : HexSpelling cs n) {c : Char} (mem : c ∈ cs) :
    ∃ d < 16, c = digitChar d ∨ c = smallDigitChar d := by
  obtain ⟨width, spelled⟩ := h
  have below {d : Nat} (mem : d ∈ paddedDigits 16 width n) : d < 16 :=
    paddedDigits_lt (by decide) mem
  generalize paddedDigits 16 width n = ds at spelled below
  induction spelled with
  | nil => cases mem
  | @cons own d cs ds same rest ih =>
      rcases List.mem_cons.mp mem with rfl | mem
      · exact ⟨d, below List.mem_cons_self, same⟩
      · exact ih mem fun mem => below (List.mem_cons_of_mem _ mem)

theorem isHexDigit (h : HexSpelling cs n) : cs.all SymbolLine.isHexDigit = true := by
  rw [List.all_eq_true]
  intro c mem
  obtain ⟨d, small, rfl | rfl⟩ := h.digit mem
  · exact (isHexDigit_digitChar d small).1
  · exact (isHexDigit_digitChar d small).2

theorem isWord (h : HexSpelling cs n) : Text.IsWord Text.isBlank cs := by
  constructor
  · intro empty
    subst empty
    obtain ⟨width, spelled⟩ := h
    have none := List.forall₂_nil_left_iff.mp spelled
    exact digits_ne_nil (by decide) n (List.append_eq_nil_iff.mp none).2
  · intro c mem
    obtain ⟨d, small, rfl | rfl⟩ := h.digit mem
    · exact (isBlank_digitChar d small).1
    · exact (isBlank_digitChar d small).2

/-- The number is read back from its digits. -/
theorem ofDigits (h : HexSpelling cs n) : Number.ofDigits 16 (cs.filterMap (digitIn? 16)) = n := by
  obtain ⟨width, spelled⟩ := h
  have below {d : Nat} (mem : d ∈ paddedDigits 16 width n) : d < 16 :=
    paddedDigits_lt (by decide) mem
  have values : cs.filterMap (digitIn? 16) = paddedDigits 16 width n := by
    generalize paddedDigits 16 width n = ds at spelled below
    induction spelled with
    | nil => rfl
    | @cons c d cs ds same rest ih =>
        have small : d < 16 := below List.mem_cons_self
        have digit : digitIn? 16 c = some d := by
          rcases same with rfl | rfl
          · exact digitIn?_digitChar d small
          · exact digitIn?_smallDigitChar d small
        rw [List.filterMap_cons_some digit, ih fun mem => below (List.mem_cons_of_mem _ mem)]
  rw [values, ofDigits_paddedDigits (by decide)]

end HexSpelling

end Number

/-! ## Lines -/

namespace SymbolLine

/-- The line has, between blanks, an address of hexadecimal digits, the letter of a symbol of code, and a
name. -/
inductive LineText : List Char → SymbolLine → Prop
  | between {before address gap gap' name after : List Char} {kind : Char}
      (ahead : ∀ c ∈ before, Text.isBlank c = true) (behind : ∀ c ∈ after, Text.isBlank c = true)
      (apart : gap ≠ [] ∧ ∀ c ∈ gap, Text.isBlank c = true)
      (apart' : gap' ≠ [] ∧ ∀ c ∈ gap', Text.isBlank c = true)
      (digits : address ≠ [] ∧ ∀ c ∈ address, isHexDigit c = true)
      (code : kind ∈ ['T', 't', 'W', 'w']) (named : Text.IsWord Text.isBlank name) :
      LineText (before ++ (address ++ (gap ++ ([kind] ++ (gap' ++ (name ++ after))))))
        ⟨address, kind, name⟩

theorem isCode_iff {kind : Char} : isCode kind = true ↔ kind ∈ ['T', 't', 'W', 'w'] := by
  simp [isCode, or_assoc]

theorem isBlank_of_isHexDigit {c : Char} (h : isHexDigit c = true) : Text.isBlank c = false := by
  simp only [isHexDigit, Bool.or_eq_true, Bool.and_eq_true, decide_eq_true_eq, Char.le_def,
    UInt32.le_iff_toNat_le] at h
  simp only [Text.isBlank, Bool.or_eq_false_iff, Bool.and_eq_false_iff, decide_eq_false_iff_not,
    beq_eq_false_iff_ne, Char.toNat]
  have bounds : ('0' : Char).val.toNat = 0x30 ∧ ('9' : Char).val.toNat = 0x39 ∧
      ('a' : Char).val.toNat = 0x61 ∧ ('f' : Char).val.toNat = 0x66 ∧
      ('A' : Char).val.toNat = 0x41 ∧ ('F' : Char).val.toNat = 0x46 := by decide
  omega

theorem isBlank_of_isCode {kind : Char} (h : kind ∈ ['T', 't', 'W', 'w']) :
    Text.isBlank kind = false := by
  have letters : ∀ kind ∈ ['T', 't', 'W', 'w'], Text.isBlank kind = false := by decide
  exact letters kind h

/-- A line is read by its fields. -/
theorem read?_eq_some_iff_fields {line : List Char} {symbol : SymbolLine} :
    read? line = some symbol ↔
      Text.fields line = [symbol.address, [symbol.kind], symbol.name] ∧
        (∀ c ∈ symbol.address, isHexDigit c = true) ∧ symbol.kind ∈ ['T', 't', 'W', 'w'] := by
  unfold read?
  split
  · next address kind name fields =>
      simp only [fields, Option.ite_none_right_eq_some, Bool.and_eq_true, List.all_eq_true, isCode_iff]
      constructor
      · intro h
        obtain ⟨fine, same⟩ := h
        cases same
        exact ⟨rfl, fine⟩
      · intro h
        obtain ⟨own, letter, text⟩ := symbol
        obtain ⟨same, fine⟩ := h
        cases same
        exact ⟨fine, rfl⟩
  · next other =>
      simp only [reduceCtorEq, false_iff, not_and]
      exact fun fields => absurd fields (other _ _ _)

/-- Blanks stand in front of a word if they do in front of what begins with a blank. -/
theorem gap_ne_nil {gap word rest : List Char} (isWord : Text.IsWord Text.isBlank word)
    (ended : ∀ c ∈ (gap ++ (word ++ rest)).head?, Text.isBlank c = true) : gap ≠ [] := by
  intro none
  subst none
  obtain ⟨c, cs, rfl⟩ := List.exists_cons_of_ne_nil isWord.1
  have blank : Text.isBlank c = true := ended c (by simp)
  rw [isWord.2 c List.mem_cons_self] at blank
  cases blank

/-- The lines that are read are those of the grammar. -/
theorem read?_eq_some {line : List Char} {symbol : SymbolLine} :
    read? line = some symbol ↔ LineText line symbol := by
  rw [read?_eq_some_iff_fields]
  constructor
  · intro h
    obtain ⟨fields, digits, code⟩ := h
    obtain ⟨address, kind, name⟩ := symbol
    obtain ⟨before, rest, rfl, ahead, word, ended, fields⟩ := Text.fieldsBy_eq_cons.mp fields
    obtain ⟨gap, rest, rfl, blank, letter, ended', fields⟩ := Text.fieldsBy_eq_cons.mp fields
    obtain ⟨gap', after, rfl, blank', named, -, none⟩ := Text.fieldsBy_eq_cons.mp fields
    exact .between ahead (Text.fieldsBy_eq_nil.mp none) ⟨gap_ne_nil letter ended, blank⟩
      ⟨gap_ne_nil named ended', blank'⟩ ⟨word.1, digits⟩ code named
  · intro text
    cases text with
    | @between before address gap gap' name after kind ahead behind apart apart' digits code named =>
        refine ⟨?_, digits.2, code⟩
        have word : Text.IsWord Text.isBlank address :=
          ⟨digits.1, fun c mem => isBlank_of_isHexDigit (digits.2 c mem)⟩
        have letter : Text.IsWord Text.isBlank [kind] :=
          ⟨by simp, by simpa using isBlank_of_isCode code⟩
        have first (gap rest : List Char) (apart : gap ≠ [] ∧ ∀ c ∈ gap, Text.isBlank c = true) :
            ∀ c ∈ (gap ++ rest).head?, Text.isBlank c = true := by
          obtain ⟨d, gap, rfl⟩ := List.exists_cons_of_ne_nil apart.1
          simpa using apart.2 d List.mem_cons_self
        have last : ∀ c ∈ after.head?, Text.isBlank c = true :=
          fun c mem => behind c (List.mem_of_mem_head? mem)
        rw [Text.fields, Text.fieldsBy_gap ahead, Text.fieldsBy_word word (first _ _ apart),
          Text.fieldsBy_gap apart.2, Text.fieldsBy_word letter (first _ _ apart'),
          Text.fieldsBy_gap apart'.2, Text.fieldsBy_word named last, Text.fieldsBy_eq_nil.mpr behind]

def Has (listing symbol : List Char) : Prop :=
  ∃ line ∈ Text.lines listing, ∃ address kind, LineText line ⟨address, kind, symbol⟩

theorem exists_find? {listing symbol : List Char} :
    (∃ address, find? listing symbol = some address) ↔ Has listing symbol := by
  simp only [find?, Option.map_eq_some_iff, exists_comm (α := Nat), exists_and_left, exists_eq',
    and_true, ← Option.isSome_iff_exists, List.find?_isSome, List.mem_filterMap, read?_eq_some,
    decide_eq_true_eq, Has]
  constructor
  · intro h
    obtain ⟨symbol, ⟨line, mem, text⟩, rfl⟩ := h
    exact ⟨line, mem, _, _, text⟩
  · intro h
    obtain ⟨line, mem, address, kind, text⟩ := h
    exact ⟨_, ⟨line, mem, text⟩, rfl⟩

end SymbolLine

/-! ## Entries -/

structure DefinedSymbol where
  address : Nat
  digits : List Char
  kind : Char
  name : List Char
  spelled : Number.HexSpelling digits address
  letter : Text.isBlank kind = false
  named : Text.IsWord Text.isBlank name

/-- What a listing says of a symbol that is defined elsewhere: a margin stands in the place of its
address. -/
structure UndefinedSymbol where
  margin : List Char
  kind : Char
  name : List Char
  blank : ∀ c ∈ margin, Engine.IsInnerBlank c
  letter : Text.isBlank kind = false
  solid : ∀ c ∈ name, Text.isBlank c = false

inductive SymbolEntry where
  | defined (symbol : DefinedSymbol)
  | undefined (symbol : UndefinedSymbol)

namespace SymbolEntry

def line : SymbolEntry → List Char
  | defined symbol => symbol.digits ++ ' ' :: symbol.kind :: ' ' :: symbol.name
  | undefined symbol => symbol.margin ++ ' ' :: symbol.kind :: ' ' :: symbol.name

def Defines (name : List Char) : SymbolEntry → Prop
  | defined symbol => symbol.kind ∈ ['T', 't', 'W', 'w'] ∧ symbol.name = name
  | undefined _ => False

instance (name : List Char) : DecidablePred (Defines name) := fun entry =>
  match entry with
  | defined symbol => inferInstanceAs (Decidable (symbol.kind ∈ ['T', 't', 'W', 'w'] ∧ symbol.name = name))
  | undefined _ => inferInstanceAs (Decidable False)

/-- Behind an address or a margin stand a letter and a name. -/
theorem fields_letter {kind : Char} (letter : Text.isBlank kind = false) (name : List Char) :
    Text.fieldsBy Text.isBlank (kind :: ' ' :: name) = [kind] :: Text.fields name := by
  have isWord : Text.IsWord Text.isBlank [kind] := ⟨by simp, by simpa using letter⟩
  exact Text.fieldsBy_word_cons isWord (by decide) name

theorem fields_defined (symbol : DefinedSymbol) :
    Text.fields (defined symbol).line = [symbol.digits, [symbol.kind], symbol.name] := by
  have space : Text.isBlank ' ' = true := by decide
  rw [Text.fields, line, Text.fieldsBy_word_cons symbol.spelled.isWord space,
    fields_letter symbol.letter, Text.fields, Text.fieldsBy_singleton symbol.named]

/-- An entry without an address has at most two fields. -/
theorem fields_undefined (symbol : UndefinedSymbol) :
    Text.fields (undefined symbol).line = [symbol.kind] :: Text.fields symbol.name ∧
      (Text.fields symbol.name).length ≤ 1 := by
  have space : Text.isBlank ' ' = true := by decide
  constructor
  · rw [Text.fields, line, Text.fieldsBy_gap fun c mem => (symbol.blank c mem).1,
      Text.fieldsBy_blank space, fields_letter symbol.letter]
  · by_cases nameless : symbol.name = []
    · rw [nameless]
      exact Nat.zero_le 1
    · rw [Text.fields, Text.fieldsBy_singleton ⟨nameless, symbol.solid⟩]
      exact Nat.le_refl 1

theorem read?_defined (symbol : DefinedSymbol) {own : SymbolLine} :
    SymbolLine.read? (defined symbol).line = some own ↔
      symbol.kind ∈ ['T', 't', 'W', 'w'] ∧ own = ⟨symbol.digits, symbol.kind, symbol.name⟩ := by
  have digits := List.all_eq_true.mp symbol.spelled.isHexDigit
  rw [SymbolLine.read?_eq_some_iff_fields, fields_defined]
  constructor
  · intro h
    obtain ⟨same, -, code⟩ := h
    obtain ⟨address, kind, name⟩ := own
    cases same
    exact ⟨code, rfl⟩
  · intro h
    obtain ⟨code, rfl⟩ := h
    exact ⟨rfl, digits, code⟩

theorem read?_undefined (symbol : UndefinedSymbol) :
    SymbolLine.read? (undefined symbol).line = none := by
  rw [Option.eq_none_iff_forall_ne_some]
  intro own read
  obtain ⟨fields, few⟩ := fields_undefined symbol
  obtain ⟨three, -⟩ := SymbolLine.read?_eq_some_iff_fields.mp read
  have count := congrArg List.length (fields.symm.trans three)
  simp only [List.length_cons, List.length_nil] at count
  omega

/-- An entry is found under a name just where it defines it. -/
theorem any_read? (entry : SymbolEntry) (name : List Char) :
    ((SymbolLine.read? entry.line).any fun own => own.name = name) = decide (entry.Defines name) := by
  rw [Bool.eq_iff_iff, Option.any_eq_true, decide_eq_true_iff]
  cases entry with
  | undefined symbol => simp [read?_undefined, Defines]
  | defined symbol =>
      simp only [read?_defined, decide_eq_true_eq, Defines]
      constructor
      · intro h
        obtain ⟨own, ⟨code, rfl⟩, same⟩ := h
        exact ⟨code, same⟩
      · intro h
        exact ⟨_, ⟨h.1, rfl⟩, h.2⟩

end SymbolEntry

/-! ## Look-up -/

namespace SymbolLine

variable {entries : List SymbolEntry} {listing name : List Char}

/-- What is found in a listing is told by the first entry that defines the name. -/
theorem find?_eq (printed : Text.Lined (entries.map SymbolEntry.line) listing) (name : List Char) :
    find? listing name =
      ((entries.find? fun entry => entry.Defines name).bind fun entry => read? entry.line).map value := by
  have blank : read? [] = none := rfl
  have same (entry : SymbolEntry) :
      ((read? entry.line).any fun own => own.name = name) = decide (entry.Defines name) :=
    entry.any_read? name
  rw [find?, printed.filterMap_lines blank, List.filterMap_map, List.find?_filterMap]
  simp only [Function.comp_def, same]

theorem find?_eq_some_iff (printed : Text.Lined (entries.map SymbolEntry.line) listing)
    {address : Nat} :
    find? listing name = some address ↔
      ∃ before symbol after, entries = before ++ .defined symbol :: after ∧
        (SymbolEntry.defined symbol).Defines name ∧ symbol.address = address ∧
        ∀ other ∈ before, ¬ other.Defines name := by
  have told (symbol : DefinedSymbol) (defines : (SymbolEntry.defined symbol).Defines name) :
      (read? (SymbolEntry.defined symbol).line).map value = some symbol.address := by
    rw [(SymbolEntry.read?_defined symbol).mpr ⟨defines.1, rfl⟩, Option.map_some, value,
      symbol.spelled.ofDigits]
  rw [find?_eq printed, Option.map_bind]
  simp only [Option.bind_eq_some_iff, List.find?_eq_some_iff_append, decide_eq_true_eq,
    Bool.not_eq_true', decide_eq_false_iff_not]
  constructor
  · intro h
    obtain ⟨entry, ⟨defines, before, after, rfl, first⟩, found⟩ := h
    cases entry with
    | undefined symbol => exact defines.elim
    | defined symbol =>
        rw [Function.comp_apply, told symbol defines, Option.some.injEq] at found
        exact ⟨before, symbol, after, rfl, defines, found, first⟩
  · intro h
    obtain ⟨before, symbol, after, rfl, defines, rfl, first⟩ := h
    exact ⟨_, ⟨defines, before, after, rfl, first⟩, told symbol defines⟩

theorem find?_eq_none_iff (printed : Text.Lined (entries.map SymbolEntry.line) listing) :
    find? listing name = none ↔ ∀ entry ∈ entries, ¬ entry.Defines name := by
  constructor
  · intro absent entry mem defines
    have found : (entries.find? fun entry => entry.Defines name).isSome = true := by
      rw [List.find?_isSome]
      exact ⟨entry, mem, decide_eq_true defines⟩
    obtain ⟨own, first⟩ := Option.isSome_iff_exists.mp found
    obtain ⟨fits, before, after, split, others⟩ := List.find?_eq_some_iff_append.mp first
    have fits : own.Defines name := of_decide_eq_true fits
    cases own with
    | undefined symbol => exact fits
    | defined symbol =>
        have told : find? listing name = some symbol.address :=
          (find?_eq_some_iff printed).mpr
            ⟨before, symbol, after, split, fits, rfl, by simpa using others⟩
        rw [absent] at told
        cases told
  · intro others
    have absent : (entries.find? fun entry => entry.Defines name) = none :=
      List.find?_eq_none.mpr (by simpa using others)
    rw [find?_eq printed, absent]
    rfl

end SymbolLine

namespace Image

variable {host : Host} {listing errors : String}

/-- A listing that succeeds is looked up in. -/
theorem symbolAddress_of_listing (ran : host.toolOutcome symbolTool = .ended 0 listing errors)
    (path symbol : String) :
    ((symbolAddress path symbol).run host).result =
      .ok (SymbolLine.find? listing.toList symbol.toList) :=
  Host.reading_eq_ok.mpr ⟨listing, errors, ran, rfl⟩

/-- Looking a symbol up in a listing gives the address of the first entry that defines it: one with the
letter of a symbol of code, and with just this name. There is none to give exactly if no entry does, so it
is for a name that is empty or has a blank in it, which no entry has. -/
theorem address_of_first_definition {entries : List SymbolEntry}
    (printed : Text.Lined (entries.map SymbolEntry.line) listing.toList)
    (ran : host.toolOutcome symbolTool = .ended 0 listing errors) (path symbol : String) :
    let result := ((symbolAddress path symbol).run host).result
    (∀ address, result = .ok (some address) ↔
      ∃ before own after, entries = before ++ .defined own :: after ∧
        (own.kind ∈ ['T', 't', 'W', 'w'] ∧ own.name = symbol.toList) ∧ own.address = address ∧
        ∀ other ∈ before, ¬ other.Defines symbol.toList) ∧
    (result = .ok none ↔ ∀ entry ∈ entries, ¬ entry.Defines symbol.toList) ∧
    (symbol = "" ∨ (∃ c ∈ symbol.toList, Text.isBlank c = true) → result = .ok none) := by
  intro result
  have looked : result = .ok (SymbolLine.find? listing.toList symbol.toList) :=
    symbolAddress_of_listing ran path symbol
  simp only [looked, Except.ok.injEq]
  refine ⟨fun address => SymbolLine.find?_eq_some_iff printed,
    SymbolLine.find?_eq_none_iff printed, fun unnamed => ?_⟩
  rw [SymbolLine.find?_eq_none_iff printed]
  intro entry mem defines
  cases entry with
  | undefined symbol => exact defines
  | defined own =>
      obtain ⟨some, solid⟩ := own.named
      rw [defines.2] at some solid
      rcases unnamed with rfl | ⟨c, inside, blank⟩
      · exact some rfl
      · rw [solid c inside] at blank
        cases blank

/-- Entries that look like one of `add`: it is used as a weak symbol, it names data, it is an address and
begins a name. The last one defines it. -/
def lookalikes : List SymbolEntry :=
  let add := ['a', 'd', 'd']
  [.undefined
      { margin := [' ', ' '], kind := 'w', name := add
        blank := fun c mem => by
          obtain rfl : c = ' ' := by simpa using mem
          exact ⟨rfl, rfl⟩
        letter := rfl, solid := by decide },
    .defined
      { address := 0xF00, digits := ['F', '0', '0'], kind := 'D', name := add
        spelled := ⟨3, .cons (.inl rfl) (.cons (.inl rfl) (.cons (.inl rfl) .nil))⟩
        letter := rfl, named := ⟨by simp, by decide⟩ },
    .defined
      { address := 0xADD, digits := add, kind := 'T', name := add ++ ['s']
        spelled := ⟨3, .cons (.inr rfl) (.cons (.inr rfl) (.cons (.inr rfl) .nil))⟩
        letter := rfl, named := ⟨by simp, by decide⟩ },
    .defined
      { address := 0x1A, digits := ['0', '1', 'a'], kind := 't', name := add
        spelled := ⟨3, .cons (.inl rfl) (.cons (.inl rfl) (.cons (.inr rfl) .nil))⟩
        letter := rfl, named := ⟨by simp, by decide⟩ }]

theorem address_of_first_definition_lookalikes :
    let listing := "   w add\r\nF00 D add\nadd T adds\u202801a t add"
    let host : Host := ⟨[.ended 0 listing ""], [], .empty⟩
    Text.Lined (lookalikes.map SymbolEntry.line) listing.toList ∧
      host.toolOutcome symbolTool = .ended 0 listing "" ∧
      ((symbolAddress "a.elf" "add").run host).result = .ok (some 0x1A) := by
  intro listing host
  have printed : Text.Lined (lookalikes.map SymbolEntry.line) listing.toList := by
    have same : listing.toList = "   w add".toList ++ (['\r', '\n'] ++ ("F00 D add".toList ++
        (['\n'] ++ ("add T adds".toList ++ (['\u2028'] ++ "01a t add".toList))))) := by decide +kernel
    rw [same]
    exact .line (by decide) .both (.line (by decide) (.single rfl) (.line (by decide) (.single rfl)
      (.last (by decide))))
  have ran : host.toolOutcome symbolTool = .ended 0 listing "" := rfl
  have looked := address_of_first_definition printed ran "a.elf" "add"
  refine ⟨printed, ran, (looked.1 0x1A).mpr ?_⟩
  refine ⟨lookalikes.take 3, _, [], rfl, ⟨by decide, rfl⟩, rfl, by decide⟩

end Image

end TickBound
