import TickBound.Proofs.OutputLines
import TickBound.Proofs.Spelling

/-!
# Spellings of strings

A character of a string can stand for itself or be escaped by its code units. Texts that differ in
nothing else hold the same values: outside of strings they are the same characters, and so are the lines
and the blanks that are cut off, as long as no string contains the end of a line.
-/

namespace TickBound

namespace Json

def IsUnbroken (cs : List Char) : Prop :=
  ∀ c ∈ cs, Text.isLineEnd c = false

/-- The texts differ only in how their strings are spelled, and no string contains the end of a line. -/
inductive Respelled : List Char → List Char → Prop
  | nil : Respelled [] []
  | same {c : Char} {cs ds : List Char} : c ≠ '"' → Respelled cs ds → Respelled (c :: cs) (c :: ds)
  | string {s s' cs ds : List Char} {text : DataText} :
      StringText s text → StringText s' text → IsUnbroken s → IsUnbroken s' → Respelled cs ds →
        Respelled (s ++ cs) (s' ++ ds)

/-! ## Raw and escaped strings -/

instance (cs : List Char) : Decidable (IsUnbroken cs) :=
  inferInstanceAs (Decidable (∀ c ∈ cs, Text.isLineEnd c = false))

def IsVerbatim (c : Char) : Prop :=
  0x20 ≤ c.toNat ∧ c ≠ '"' ∧ c ≠ '\\'

instance : DecidablePred IsVerbatim :=
  fun c => inferInstanceAs (Decidable (0x20 ≤ c.toNat ∧ c ≠ '"' ∧ c ≠ '\\'))

def raw (s : String) : List Char :=
  '"' :: (s.toList ++ ['"'])

theorem marksText_raw {cs : List Char} (verbatim : ∀ c ∈ cs, IsVerbatim c) :
    MarksText cs (cs.map .char) := by
  induction cs with
  | nil => exact .nil
  | cons c more ih =>
      rw [List.forall_mem_cons] at verbatim
      obtain ⟨shown, quote, slash⟩ := verbatim.1
      exact .cons (.plain shown quote slash) (ih verbatim.2)

theorem stringText_raw {s : String} (verbatim : ∀ c ∈ s.toList, IsVerbatim c) :
    StringText (raw s) s := by
  have quoted := StringText.quoted (marksText_raw verbatim)
  rwa [join_map_char] at quoted

theorem stringText_escaped (s : String) : StringText (writtenString s) s := by
  have isText := stringText_written (DataText.isSound_ofChars s.toList)
  rwa [DataText.reread_ofChars] at isText

theorem Respelled.behind {before cs ds : List Char} (plain : '"' ∉ before) (h : Respelled cs ds) :
    Respelled (before ++ cs) (before ++ ds) := by
  induction before with
  | nil => exact h
  | cons c before ih =>
      rw [List.mem_cons, not_or] at plain
      exact .same (Ne.symm plain.1) (ih plain.2)

/-! ## Values -/

def IsNumeral (c : Char) : Prop :=
  Number.isPlainDigit c = true ∨ c ∈ ['+', '-', '.', 'e', 'E']

theorem IsDigits.numerals {cs : List Char} (h : IsDigits cs) : ∀ c ∈ cs, IsNumeral c :=
  fun c mem => .inl (h.2 c mem)

theorem IsWhole.numerals {cs : List Char} (h : IsWhole cs) : ∀ c ∈ cs, IsNumeral c := by
  rcases h with rfl | ⟨digits, -⟩
  · exact List.forall_mem_singleton.mpr (.inl (by decide))
  · exact digits.numerals

theorem FractionText.numerals {cs digits : List Char} (h : FractionText cs digits) :
    ∀ c ∈ cs, IsNumeral c := by
  cases h with
  | none => exact List.forall_mem_nil _
  | digits isDigits => exact List.forall_mem_cons.mpr ⟨.inr (by decide), isDigits.numerals⟩

theorem ExponentText.numerals {cs : List Char} {power : Option Int} (h : ExponentText cs power) :
    ∀ c ∈ cs, IsNumeral c := by
  cases h with
  | none => exact List.forall_mem_nil _
  | power isE isSign isDigits =>
      refine List.forall_mem_cons.mpr ⟨.inr ?_, List.forall_mem_append.mpr ⟨?_, isDigits.numerals⟩⟩
      · rcases isE with rfl | rfl <;> decide
      · cases isSign with
        | none => exact List.forall_mem_nil _
        | plus | minus => exact List.forall_mem_singleton.mpr (.inr (by decide))

theorem UnsignedText.numerals {negative : Bool} {cs : List Char} {value : Json}
    (h : UnsignedText negative cs value) : ∀ c ∈ cs, IsNumeral c := by
  cases h with
  | int isWhole => exact isWhole.numerals
  | real isWhole isFraction isExponent =>
      simp only [List.forall_mem_append]
      exact ⟨isWhole.numerals, isFraction.numerals, isExponent.numerals⟩

theorem NumberText.numerals {cs : List Char} {value : Json} (h : NumberText cs value) :
    ∀ c ∈ cs, IsNumeral c := by
  cases h with
  | positive unsigned => exact unsigned.numerals
  | negative unsigned => exact List.forall_mem_cons.mpr ⟨.inr (by decide), unsigned.numerals⟩

theorem quote_notMem_number {cs : List Char} {value : Json} (h : NumberText cs value) : '"' ∉ cs :=
  fun mem => absurd (h.numerals _ mem) (by unfold IsNumeral; decide)

theorem quote_notMem_word {cs : List Char} {value : Json} (h : (cs, value) ∈ words) : '"' ∉ cs := by
  simp only [words, List.mem_cons, Prod.mk.injEq, List.not_mem_nil, or_false] at h
  rcases h with ⟨rfl, -⟩ | ⟨rfl, -⟩ | ⟨rfl, -⟩ | ⟨rfl, -⟩ | ⟨rfl, -⟩ | ⟨rfl, -⟩ <;> decide

theorem quote_notMem_spaces {cs : List Char} (h : IsSpaces cs) : '"' ∉ cs :=
  fun mem => absurd (h _ mem) (by decide)

namespace Respelled

variable {cs ds rest : List Char}

theorem symm (h : Respelled cs ds) : Respelled ds cs := by
  induction h with
  | nil => exact .nil
  | same other _ ih => exact .same other ih
  | string isText isText' unbroken unbroken' _ ih => exact .string isText' isText unbroken' unbroken ih

theorem eq_nil (h : Respelled [] ds) : ds = [] := by
  generalize none : ([] : List Char) = cs at h
  cases h with
  | nil => rfl
  | same => cases none
  | string isText =>
      obtain ⟨more, rfl⟩ := isText.head
      cases none

/-- A character outside of strings is the same in both texts. -/
theorem of_cons {c : Char} (other : c ≠ '"') (h : Respelled (c :: cs) ds) :
    ∃ rest, ds = c :: rest ∧ Respelled cs rest := by
  generalize begun : c :: cs = whole at h
  cases h with
  | nil => cases begun
  | same _ behind =>
      cases begun
      exact ⟨_, rfl, behind⟩
  | string isText =>
      obtain ⟨more, rfl⟩ := isText.head
      exact absurd (List.cons.inj begun).1 other

/-- So are characters among which there is no quote. -/
theorem of_plain {before : List Char} (plain : '"' ∉ before) (h : Respelled (before ++ rest) ds) :
    ∃ rest', ds = before ++ rest' ∧ Respelled rest rest' := by
  induction before generalizing ds with
  | nil => exact ⟨ds, rfl, h⟩
  | cons c before ih =>
      rw [List.mem_cons, not_or] at plain
      obtain ⟨behind, rfl, others⟩ := h.of_cons (Ne.symm plain.1)
      obtain ⟨rest', rfl, respelled⟩ := ih plain.2 others
      exact ⟨rest', rfl, respelled⟩

theorem eq_of_plain (plain : '"' ∉ cs) (h : Respelled cs ds) : ds = cs := by
  rw [← List.append_nil cs] at h
  obtain ⟨rest, rfl, none⟩ := h.of_plain plain
  rw [none.eq_nil, List.append_nil]

/-- A string is another spelling of the same string, up to the same place. -/
theorem of_string {s : List Char} {text : DataText} (isText : StringText s text)
    (h : Respelled (s ++ rest) ds) :
    ∃ s' rest', ds = s' ++ rest' ∧ StringText s' text ∧ Respelled rest rest' := by
  generalize begun : s ++ rest = whole at h
  cases h with
  | nil =>
      obtain ⟨more, rfl⟩ := isText.head
      cases begun
  | same other =>
      obtain ⟨more, rfl⟩ := isText.head
      exact absurd (List.cons.inj begun).1.symm other
  | string isText' isSpelled _ _ behind =>
      -- the reader takes one string off the front, so both have the same end
      have taken := takeString_text isText rest
      rw [begun, takeString_text isText'] at taken
      cases taken
      exact ⟨_, _, rfl, isSpelled, behind⟩

/-- Parts with commas between them are respelled part by part. -/
theorem of_commas {α β : Type} {text : α → List Char} {fine : α → Prop} {f : α → β} {parts : List α}
    {close : Char} (other : close ≠ '"') (some : parts ≠ [])
    (each : ∀ x ∈ parts, ∀ {rest ds}, Respelled (text x ++ rest) ds →
      ∃ x' rest', ds = text x' ++ rest' ∧ fine x' ∧ f x' = f x ∧ Respelled rest rest')
    (h : Respelled (commas (parts.map text) ++ close :: rest) ds) :
    ∃ parts' rest', ds = commas (parts'.map text) ++ close :: rest' ∧ parts' ≠ [] ∧
      (∀ x ∈ parts', fine x) ∧ parts'.map f = parts.map f ∧ Respelled rest rest' := by
  induction parts generalizing ds with
  | nil => exact absurd rfl some
  | cons x more ih =>
      rw [List.forall_mem_cons] at each
      cases more with
      | nil =>
          rw [List.map_singleton, commas_singleton] at h
          obtain ⟨x', behind, rfl, fine, same, closed⟩ := each.1 h
          obtain ⟨rest', rfl, respelled⟩ := closed.of_cons other
          exact ⟨[x'], rest', by simp, by simp, by simpa using fine, by simpa using same, respelled⟩
      | cons next more =>
          rw [List.map_cons, List.map_cons, commas_cons_cons, List.append_assoc] at h
          obtain ⟨x', behind, rfl, fine, same, comma⟩ := each.1 h
          obtain ⟨behind, rfl, others⟩ := comma.of_cons (by decide)
          obtain ⟨parts', rest', rfl, some', fine', same', respelled⟩ := ih (by simp) each.2 others
          obtain ⟨next', more', rfl⟩ := List.exists_cons_of_ne_nil some'
          refine ⟨x' :: next' :: more', rest', by simp, by simp, ?_, ?_, respelled⟩
          · exact List.forall_mem_cons.mpr ⟨fine, fine'⟩
          · rw [List.map_cons, same, same']
            rfl

end Respelled

/-- In whatever way its strings are spelled, the text is of this value. -/
def Survives (text : List Char) (value : Json) : Prop :=
  ∀ rest ds : List Char, Respelled (text ++ rest) ds →
    ∃ text' rest', ds = text' ++ rest' ∧ ValueText text' value ∧ Respelled rest rest'

theorem survives_of_plain {text : List Char} {value : Json} (plain : '"' ∉ text)
    (isText : ValueText text value) : Survives text value := by
  intro rest ds h
  obtain ⟨rest', same, respelled⟩ := h.of_plain plain
  exact ⟨text, rest', same, isText, respelled⟩

theorem Inner.respelled {item : Inner} (spaced : item.IsSpaced)
    (survives : Survives item.spelled item.value) {rest ds : List Char}
    (h : Respelled (item.text ++ rest) ds) :
    ∃ (item' : Inner) (rest' : List Char), ds = item'.text ++ rest' ∧
      (item'.IsSpaced ∧ ValueText item'.spelled item'.value) ∧ item'.value = item.value ∧
        Respelled rest rest' := by
  rw [Inner.text, List.append_assoc, List.append_assoc] at h
  obtain ⟨_, rfl, inside⟩ := h.of_plain (quote_notMem_spaces spaced.1)
  obtain ⟨spelled, _, rfl, isText, behind⟩ := survives _ _ inside
  obtain ⟨rest', rfl, respelled⟩ := behind.of_plain (quote_notMem_spaces spaced.2)
  exact ⟨⟨item.before, spelled, item.after, item.value⟩, rest', by simp [Inner.text],
    ⟨spaced, isText⟩, rfl, respelled⟩

theorem Named.respelled {member : Named} (spelled : member.IsSpelled)
    (survives : Survives member.spelled member.value) {rest ds : List Char}
    (h : Respelled (member.text ++ rest) ds) :
    ∃ (member' : Named) (rest' : List Char), ds = member'.text ++ rest' ∧
      (member'.IsSpelled ∧ ValueText member'.spelled member'.value) ∧ member'.pair = member.pair ∧
        Respelled rest rest' := by
  obtain ⟨ahead, isName, behind, spaced⟩ := spelled
  simp only [Named.text, List.append_assoc, List.cons_append] at h
  obtain ⟨_, rfl, named⟩ := h.of_plain (quote_notMem_spaces ahead)
  obtain ⟨name, _, rfl, isName', gap⟩ := named.of_string isName
  obtain ⟨_, rfl, colon⟩ := gap.of_plain (quote_notMem_spaces behind)
  obtain ⟨_, rfl, valued⟩ := colon.of_cons (by decide)
  obtain ⟨item, rest', rfl, ⟨spaced', isText⟩, same, respelled⟩ :=
    Inner.respelled spaced survives valued
  refine ⟨⟨item, member.beforeName, name, member.afterName, member.name⟩, rest', by simp [Named.text],
    ⟨⟨ahead, isName', behind, spaced'⟩, isText⟩, ?_, respelled⟩
  rw [Named.pair, same]
  rfl

/-- The texts of a value stay texts of this value. -/
theorem ValueText.survives {text : List Char} {value : Json} (isText : ValueText text value) :
    Survives text value := by
  induction isText with
  | word isWord => exact survives_of_plain (quote_notMem_word isWord) (.word isWord)
  | number isNumber => exact survives_of_plain (quote_notMem_number isNumber) (.number isNumber)
  | string isString =>
      intro rest ds h
      obtain ⟨s', rest', rfl, isString', respelled⟩ := h.of_string isString
      exact ⟨s', rest', rfl, .string isString', respelled⟩
  | emptyArray spaces =>
      have none := quote_notMem_spaces spaces
      exact survives_of_plain (by simp [none]) (.emptyArray spaces)
  | array some spaced texts survives =>
      intro rest ds h
      simp only [List.cons_append, List.append_assoc, List.nil_append] at h
      obtain ⟨_, rfl, inside⟩ := h.of_cons (by decide)
      obtain ⟨items', rest', rfl, some', fine, same, respelled⟩ :=
        inside.of_commas (by decide) some fun item mem =>
          Inner.respelled (spaced item mem) (survives item mem)
      refine ⟨'[' :: (commas (items'.map Inner.text) ++ [']']), rest', by simp, ?_, respelled⟩
      rw [← same]
      exact .array some' (fun item mem => (fine item mem).1) fun item mem => (fine item mem).2
  | emptyObject spaces =>
      have none := quote_notMem_spaces spaces
      exact survives_of_plain (by simp [none]) (.emptyObject spaces)
  | object some spelled texts survives =>
      intro rest ds h
      simp only [List.cons_append, List.append_assoc, List.nil_append] at h
      obtain ⟨_, rfl, inside⟩ := h.of_cons (by decide)
      obtain ⟨members', rest', rfl, some', fine, same, respelled⟩ :=
        inside.of_commas (by decide) some fun member mem =>
          Named.respelled (spelled member mem) (survives member mem)
      refine ⟨'\x7b' :: (commas (members'.map Named.text) ++ ['\x7d']), rest', by simp, ?_, respelled⟩
      rw [← same]
      exact .object some' (fun member mem => (fine member mem).1) fun member mem => (fine member mem).2

theorem Respelled.document {cs ds : List Char} {value : Json} (h : Respelled cs ds)
    (document : Document (String.ofList cs) value) : Document (String.ofList ds) value := by
  obtain ⟨same, isBefore, isAfter, isText⟩ := document
  rw [String.toList_ofList] at same
  rw [same] at h
  obtain ⟨_, rfl, inside⟩ := h.of_plain (quote_notMem_spaces isBefore)
  obtain ⟨spelled, after, rfl, isText', behind⟩ := isText.survives _ _ inside
  rw [behind.eq_of_plain (quote_notMem_spaces isAfter)]
  exact .spaced (String.toList_ofList) isBefore isAfter isText'

/-- Whatever is read from one text is read from the other. -/
theorem Respelled.read {cs ds : List Char} {value : Json} (h : Respelled cs ds)
    (read : Json.read (String.ofList cs) = .ok value) : Json.read (String.ofList ds) = .ok value :=
  read_eq_ok.mpr (h.document (read_eq_ok.mp read))

/-! ## Lines and blanks -/

namespace Respelled

open List (Forall₂)

variable {cs ds : List Char}

theorem forall_consLine {c : Char} (other : c ≠ '"') {ls ls' : List (List Char)}
    (h : Forall₂ Respelled ls ls') : Forall₂ Respelled (Text.consLine c ls) (Text.consLine c ls') := by
  cases h with
  | nil => exact .cons (.same other .nil) .nil
  | cons line more => exact .cons (.same other line) more

theorem foldr_consLine_nil {s : List Char} {text : DataText} (isText : StringText s text)
    (unbroken : IsUnbroken s) : s.foldr Text.consLine [] = [s] := by
  have whole := Text.lines_of_inside unbroken
  have split := Text.lines_append unbroken []
  obtain ⟨more, rfl⟩ := isText.head
  rw [List.append_nil, whole] at split
  exact split.symm

theorem forall_foldr {s s' : List Char} {text : DataText} (isText : StringText s text)
    (isText' : StringText s' text) (unbroken : IsUnbroken s) (unbroken' : IsUnbroken s')
    {ls ls' : List (List Char)} (h : Forall₂ Respelled ls ls') :
    Forall₂ Respelled (s.foldr Text.consLine ls) (s'.foldr Text.consLine ls') := by
  cases h with
  | nil =>
      have alone := Respelled.string isText isText' unbroken unbroken' .nil
      rw [List.append_nil, List.append_nil] at alone
      rw [foldr_consLine_nil isText unbroken, foldr_consLine_nil isText' unbroken']
      exact .cons alone .nil
  | cons line more =>
      rw [Text.foldr_consLine, Text.foldr_consLine]
      exact .cons (.string isText isText' unbroken unbroken' line) more

/-- The lines of both texts differ only in how strings are spelled: they end outside of strings. -/
theorem lines (h : Respelled cs ds) : Forall₂ Respelled (Text.lines cs) (Text.lines ds) := by
  induction h with
  | nil => exact .nil
  | @same c cs ds other behind ih =>
      by_cases merges : c = '\r' ∧ ∃ more, cs = '\n' :: more
      · -- both together end the line that the line feed ends alone
        obtain ⟨rfl, more, rfl⟩ := merges
        obtain ⟨more', rfl, -⟩ := behind.of_cons (by decide)
        exact ih
      · have apart : ∀ more, c = '\r' → cs ≠ '\n' :: more :=
          fun more same feed => merges ⟨same, more, feed⟩
        have apart' : ∀ more, c = '\r' → ds ≠ '\n' :: more := by
          rintro more same rfl
          obtain ⟨more', feed, -⟩ := behind.symm.of_cons (by decide)
          exact apart more' same feed
        rw [Text.lines_cons apart, Text.lines_cons apart']
        by_cases ends : Text.isLineEnd c = true
        · rw [if_pos ends, if_pos ends]
          exact .cons .nil ih
        · rw [if_neg ends, if_neg ends]
          exact forall_consLine other ih
  | string isText isText' unbroken unbroken' behind ih =>
      rw [Text.lines_append unbroken, Text.lines_append unbroken']
      exact forall_foldr isText isText' unbroken unbroken' ih

section

variable {p : Char → Bool} (quote : p '"' = false)

include quote

theorem dropWhile (h : Respelled cs ds) : Respelled (cs.dropWhile p) (ds.dropWhile p) := by
  induction h with
  | nil => exact .nil
  | @same c cs ds other behind ih =>
      rw [List.dropWhile_cons, List.dropWhile_cons]
      split
      · exact ih
      · exact .same other behind
  | @string s s' cs ds text isText isText' unbroken unbroken' behind ih =>
      have stays {s rest : List Char} (isText : StringText s text) :
          (s ++ rest).dropWhile p = s ++ rest := by
        obtain ⟨more, rfl⟩ := isText.head
        exact Text.dropWhile_of_head (by simpa using quote)
      rw [stays isText, stays isText']
      exact .string isText isText' unbroken unbroken' behind

theorem stays_append {s kept : List Char} {text : DataText} (isText : StringText s text)
    (last : ∀ c ∈ kept.getLast?, p c = false) : ∀ c ∈ (s ++ kept).getLast?, p c = false := by
  have close : s.getLast? = some '"' := by
    cases isText
    rw [← List.cons_append, List.getLast?_concat]
  rw [List.getLast?_append, close]
  cases h : kept.getLast? with
  | none => simpa using quote
  | some c => simpa using last c h

/-- What is dropped at the end stands outside of strings, so it is the same in both texts. -/
theorem exists_kept (h : Respelled cs ds) :
    ∃ kept kept' after, cs = kept ++ after ∧ ds = kept' ++ after ∧ Respelled kept kept' ∧
      (∀ c ∈ after, p c = true) ∧ (∀ c ∈ kept.getLast?, p c = false) ∧
        ∀ c ∈ kept'.getLast?, p c = false := by
  induction h with
  | nil => exact ⟨[], [], [], rfl, rfl, .nil, by simp, by simp, by simp⟩
  | @same c cs ds other behind ih =>
      obtain ⟨kept, kept', after, rfl, rfl, respelled, dropped, last, last'⟩ := ih
      cases kept with
      | nil =>
          obtain rfl := respelled.eq_nil
          by_cases blank : p c = true
          · exact ⟨[], [], c :: after, rfl, rfl, .nil, List.forall_mem_cons.mpr ⟨blank, dropped⟩,
              by simp, by simp⟩
          · exact ⟨[c], [c], after, rfl, rfl, .same other .nil, dropped, by simpa using blank,
              by simpa using blank⟩
      | cons d kept =>
          cases kept' with
          | nil => cases respelled.symm.eq_nil
          | cons d' kept' =>
              refine ⟨c :: d :: kept, c :: d' :: kept', after, rfl, rfl, .same other respelled, dropped,
                ?_, ?_⟩
              · rwa [List.getLast?_cons_cons]
              · rwa [List.getLast?_cons_cons]
  | @string s s' cs ds text isText isText' unbroken unbroken' behind ih =>
      obtain ⟨kept, kept', after, rfl, rfl, respelled, dropped, last, last'⟩ := ih
      exact ⟨s ++ kept, s' ++ kept', after, by simp, by simp,
        .string isText isText' unbroken unbroken' respelled, dropped, stays_append quote isText last,
        stays_append quote isText' last'⟩

end

theorem trim (h : Respelled cs ds) : Respelled (Text.trim cs) (Text.trim ds) := by
  have quote : Text.isBlank '"' = false := by decide
  obtain ⟨kept, kept', after, same, same', respelled, dropped, last, last'⟩ :=
    (h.dropWhile quote).exists_kept quote
  rw [Text.trim, Text.trim, Text.trimBy, Text.trimBy, same, same',
    Text.dropBehind_append dropped last, Text.dropBehind_append dropped last']
  exact respelled

end Respelled

end Json

namespace Bounds

open Json (Respelled)
open List (Forall₂)

variable {line line' : List Char}

theorem Tells.respelled {value : Json} (h : Tells line value) (respelled : Respelled line line') :
    Tells line' value := by
  obtain ⟨members, read, named⟩ := tells_iff.mp h
  exact tells_iff.mpr ⟨members, respelled.trim.read read, named⟩

theorem isBlankLine_respelled (h : Text.IsBlankLine line) (respelled : Respelled line line') :
    Text.IsBlankLine line' := by
  have trimmed := respelled.trim
  rw [Text.trim_eq_nil.mpr h] at trimmed
  exact Text.trim_eq_nil.mp trimmed.eq_nil

theorem Lists.respelled {ls ls' : List (List Char)} {bounds : List Nat} (h : Lists ls bounds)
    (respelled : Forall₂ Respelled ls ls') : Lists ls' bounds := by
  induction h generalizing ls' with
  | nil =>
      cases respelled
      exact .nil
  | blank blank rest ih =>
      cases respelled with
      | cons line more => exact .blank (isBlankLine_respelled blank line) (ih more)
  | told told rest ih =>
      cases respelled with
      | cons line more => exact .told (told.respelled line) (ih more)

/-- Outputs that differ only in how strings are spelled have the same bounds. -/
theorem parse_respelled {output output' : String}
    (respelled : Respelled output.toList output'.toList) (bounds : List Nat) :
    parse output = .ok bounds ↔ parse output' = .ok bounds := by
  rw [parse_eq_ok, parse_eq_ok]
  constructor
  · exact fun lists => lists.respelled respelled.lines
  · exact fun lists => lists.respelled respelled.symm.lines

end Bounds

end TickBound
