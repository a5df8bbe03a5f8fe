import Mathlib.Data.List.TakeWhile
import TickBound.Settings.Basic

/-!
# Templates for given arguments

Every list of arguments, each made of literal texts and places for values, has a template. In it the
braces of literals are written twice, and every argument stands between single quotes. The template
splits into one word for each argument and stands for the arguments with the values in their places,
whatever characters literals and values have.
-/

namespace TickBound

namespace Command

/-! ## Writing templates -/

inductive Piece where
  | literal (text : String)
  | image
  | entry
  deriving DecidableEq

/-- A character of a literal; braces are written twice. -/
def literalChar (c : Char) : List Char :=
  if c = '\x7b' || c = '\x7d' then [c, c] else [c]

def Piece.written : Piece → List Char
  | literal text => text.toList.flatMap literalChar
  | image => ['\x7b', 'i', 'm', 'a', 'g', 'e', '\x7d']
  | entry => ['\x7b', 'e', 'n', 't', 'r', 'y', '\x7d']

def Piece.filled (image entry : String) : Piece → String
  | literal text => text
  | .image => image
  | .entry => entry

def filledArgument (image entry : String) (pieces : List Piece) : String :=
  String.join (pieces.map (Piece.filled image entry))

/-- A character between single quotes. A single quote closes them, stands between double quotes, and
opens them again. -/
def quotedChar (c : Char) : List Char :=
  if c = '\'' then ['\'', '"', '\'', '"', '\''] else [c]

def quotedWord (word : List Char) : List Char :=
  '\'' :: (word.flatMap quotedChar ++ ['\''])

def quotedLine (ws : List (List Char)) : List Char :=
  List.intercalate [' '] (ws.map quotedWord)

def templateOf (arguments : List (List Piece)) : String :=
  String.ofList (quotedLine (arguments.map fun pieces => pieces.flatMap Piece.written))

/-! ## Words -/

theorem foldr_consWord (cs word : List Char) (more : List (List Char)) :
    cs.foldr consWord (word :: more) = (cs ++ word) :: more := by
  induction cs with
  | nil => rfl
  | cons c cs ih => rw [List.foldr_cons, ih, consWord, List.cons_append]

/-- Between single quotes the splitter takes back the characters that were quoted. -/
theorem wordsFrom_single (cs rest : List Char) :
    wordsFrom .single (cs.flatMap quotedChar ++ '\'' :: rest) =
      (wordsFrom .bare rest).map (cs.foldr consWord) := by
  induction cs with
  | nil => cases h : wordsFrom .bare rest <;> simp [wordsFrom, h, Except.map]
  | cons c cs ih =>
      have step : wordsFrom .single ((c :: cs).flatMap quotedChar ++ '\'' :: rest) =
          (wordsFrom .single (cs.flatMap quotedChar ++ '\'' :: rest)).map (consWord c) := by
        by_cases quote : c = '\''
        · subst quote
          simp [quotedChar, wordsFrom, isSeparator]
        · simp [quotedChar, quote, wordsFrom]
      rw [step, ih]
      cases wordsFrom .bare rest <;> rfl

theorem wordsFrom_quotedWord (word rest : List Char) :
    wordsFrom .between (quotedWord word ++ rest) =
      (wordsFrom .bare rest).map (word.foldr consWord) := by
  rw [quotedWord, List.cons_append, List.append_assoc, List.singleton_append, ← wordsFrom_single]
  rfl

/-- A line of quoted words splits into just these words. -/
theorem words_quotedLine (ws : List (List Char)) : words (quotedLine ws) = .ok ws := by
  induction ws with
  | nil => rfl
  | cons word more ih =>
      cases more with
      | nil =>
          have one : quotedLine [word] = quotedWord word ++ [] := by simp [quotedLine]
          rw [words, one, wordsFrom_quotedWord, wordsFrom, Except.map, foldr_consWord, List.append_nil]
      | cons next more =>
          have line : quotedLine (word :: next :: more) =
              quotedWord word ++ ' ' :: quotedLine (next :: more) := by
            simp [quotedLine, List.intercalate]
          have parted : wordsFrom .bare (' ' :: quotedLine (next :: more)) =
              .ok ([] :: next :: more) := by
            rw [words] at ih
            simp [wordsFrom, isSeparator, ih, Except.map]
          rw [words, line, wordsFrom_quotedWord, parted, Except.map, foldr_consWord, List.append_nil]

/-! ## Segments -/

theorem segmentsFrom_literal (cs rest : List Char) :
    segmentsFrom .text (cs.flatMap literalChar ++ rest) =
      cs.map .char ++ segmentsFrom .text rest := by
  induction cs with
  | nil => rfl
  | cons c cs ih =>
      rw [List.flatMap_cons, List.append_assoc, List.map_cons, List.cons_append, ← ih]
      by_cases opening : c = '\x7b'
      · subst opening
        simp [literalChar, segmentsFrom]
      · by_cases closing : c = '\x7d'
        · subst closing
          simp [literalChar, segmentsFrom]
        · simp [literalChar, opening, closing, segmentsFrom]

def Piece.segments : Piece → List Segment
  | literal text => text.toList.map .char
  | image => [.field ['i', 'm', 'a', 'g', 'e'] none []]
  | entry => [.field ['e', 'n', 't', 'r', 'y'] none []]

theorem segmentsFrom_written (piece : Piece) (rest : List Char) :
    segmentsFrom .text (piece.written ++ rest) = piece.segments ++ segmentsFrom .text rest := by
  cases piece with
  | literal text => exact segmentsFrom_literal text.toList rest
  | image => simp [Piece.written, Piece.segments, segmentsFrom]
  | entry => simp [Piece.written, Piece.segments, segmentsFrom]

theorem segments_written (pieces : List Piece) :
    segments (pieces.flatMap Piece.written) = pieces.flatMap Piece.segments := by
  induction pieces with
  | nil => rfl
  | cons piece more ih =>
      rw [segments] at ih ⊢
      rw [List.flatMap_cons, segmentsFrom_written, ih, List.flatMap_cons]

/-! ## Fields -/

def Piece.name? : Piece → Option String
  | literal _ => none
  | image => some "image"
  | entry => some "entry"

variable {values : Values} {nested : List Char → Except TemplateFault (List Char)}

theorem replaceFields_chars (cs : List Char) (rest : List Segment) :
    replaceFields nested values (cs.map .char ++ rest) =
      (replaceFields nested values rest).map (cs ++ ·) := by
  induction cs with
  | nil => cases h : replaceFields nested values rest <;> simp [h, Except.map]
  | cons c cs ih =>
      rw [List.map_cons, List.cons_append, replaceFields, ih]
      cases replaceFields nested values rest <;> rfl

/-- A field without conversion and layout is replaced by the characters of its value. -/
theorem replaceFields_field {name : List Char} {value : String}
    (found : lookUp values name = .ok (Thing.ofString value)) (rest : List Segment) :
    replaceFields nested values (.field name none [] :: rest) =
      (replaceFields nested values rest).map (value.toList ++ ·) := by
  have shown : present [] (Thing.ofString value) = .ok value.toList := rfl
  simp only [replaceFields, found, convert, List.contains_nil, shown, bind, Except.bind]
  cases replaceFields nested values rest <;> rfl

/-- A name that is no number and goes on to no item or attribute has its value. -/
theorem lookUp_name {name : List Char} {value : String} (plain : name.any isAccess = false)
    (number : wholeNumber? name = .ok none) (nonempty : name ≠ [])
    (known : values.lookup (String.ofList name) = some value) :
    lookUp values name = .ok (Thing.ofString value) := by
  rw [List.any_eq_false] at plain
  have base : name.takeWhile (!isAccess ·) = name :=
    List.takeWhile_eq_self_iff.mpr fun c mem => by simp [plain c mem]
  have rest : name.dropWhile (!isAccess ·) = [] :=
    List.dropWhile_eq_nil_iff.mpr fun c mem => by simp [plain c mem]
  simp [lookUp, base, rest, number, nonempty, known, follow, bind, Except.bind]

def Piece.IsKnown (values : Values) (image entry : String) (piece : Piece) : Prop :=
  ∀ name, piece.name? = some name → values.lookup name = some (piece.filled image entry)

variable {image entry : String}

theorem replaceFields_piece {piece : Piece} (known : piece.IsKnown values image entry)
    (rest : List Segment) :
    replaceFields nested values (piece.segments ++ rest) =
      (replaceFields nested values rest).map ((piece.filled image entry).toList ++ ·) := by
  cases piece with
  | literal text => exact replaceFields_chars text.toList rest
  | image =>
      exact replaceFields_field (lookUp_name (by decide) rfl (by decide) (known "image" rfl)) rest
  | entry =>
      exact replaceFields_field (lookUp_name (by decide) rfl (by decide) (known "entry" rfl)) rest

theorem expandWord_written {pieces : List Piece}
    (known : ∀ piece ∈ pieces, piece.IsKnown values image entry) (depth : Nat) :
    expandWord values (depth + 1) (pieces.flatMap Piece.written) =
      .ok (filledArgument image entry pieces).toList := by
  rw [expandWord, segments_written]
  induction pieces with
  | nil => rfl
  | cons piece more ih =>
      rw [List.forall_mem_cons] at known
      rw [List.flatMap_cons, replaceFields_piece known.1, ih known.2]
      simp [filledArgument, Except.map, String.join_cons]

/-- A template stands for the arguments that it was written for. -/
theorem expand_templateOf {arguments : List (List Piece)}
    (known : ∀ pieces ∈ arguments, ∀ piece ∈ pieces, piece.IsKnown values image entry) :
    expand (templateOf arguments) values = .ok (arguments.map (filledArgument image entry)) := by
  rw [expand, templateOf, String.toList_ofList, words_quotedLine]
  show (arguments.map fun pieces => pieces.flatMap Piece.written).mapM _ = _
  induction arguments with
  | nil => rfl
  | cons pieces more ih =>
      rw [List.forall_mem_cons] at known
      rw [List.map_cons, List.mapM_cons, expandWord_written known.1, ih known.2]
      simp [Except.map, bind, Except.bind, pure, Except.pure]

end Command

namespace Settings

open Command

/-- Every list of arguments can be written as a template, and a value is never split or read again. The
command that writes an image has no place for an entry symbol. -/
theorem arguments_of_template (settings : Settings) (arguments : List (List Piece))
    (image entry : String) :
    { settings with exploreCommand := templateOf arguments }.exploreArguments image entry =
        .ok (arguments.map (filledArgument image entry)) ∧
      ((∀ pieces ∈ arguments, .entry ∉ pieces) →
        { settings with flashCommand := templateOf arguments }.flashArguments image =
          .ok (arguments.map (filledArgument image entry))) := by
  constructor
  · apply expand_templateOf
    rintro pieces - (text | _ | _) - name ⟨⟩ <;> rfl
  · intro without
    apply expand_templateOf
    intro pieces mem piece part name named
    cases piece with
    | literal text => cases named
    | image =>
        cases named
        rfl
    | entry => exact absurd part (without pieces mem)

/-- An argument of a literal with a quote, a blank and braces, and one of a value with a blank. -/
theorem arguments_of_template_quoted :
    let settings : Settings := {
      probe := "192.168.4.1"
      flashCommand := "'load' '\x7b\x7bit'\"'\"'s\x7d\x7d it' '\x7bimage\x7d'" }
    settings.flashArguments "bins/a b" = .ok ["load", "\x7bit's\x7d it", "bins/a b"] := by
  intro settings
  have template : templateOf [[.literal "load"], [.literal "\x7bit's\x7d it"], [.image]] =
      settings.flashCommand := by
    decide +kernel
  have filled := (arguments_of_template settings [[.literal "load"], [.literal "\x7bit's\x7d it"],
    [.image]] "bins/a b" "").2 (by decide)
  rw [template] at filled
  exact filled

end Settings

end TickBound
