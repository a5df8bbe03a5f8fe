import TickBound.Proofs.Respelling

/-!
# Separators in strings

A string may contain every character but controls, and so it may contain a next line, a line separator
or a paragraph separator. An output is cut there, in the middle of a string, although the data value goes
on. Outputs without them are understood in every spelling, and any other one is refused.
-/

namespace TickBound

namespace Json

/-! ## Characters of values -/

def IsShown (c : Char) : Prop :=
  0x20 ≤ c.toNat ∨ isSpace c = true

theorem IsSpaces.shown {cs : List Char} (h : IsSpaces cs) : ∀ c ∈ cs, IsShown c :=
  fun c mem => .inr (h c mem)

theorem isShown_numeral {c : Char} (h : IsNumeral c) : IsShown c := by
  rcases h with digit | sign
  · simp only [Number.isPlainDigit, Bool.and_eq_true, decide_eq_true_eq] at digit
    exact .inl (Nat.le_trans (by decide) (show '0'.toNat ≤ c.toNat from digit.1))
  · simp only [List.mem_cons, List.not_mem_nil, or_false] at sign
    rcases sign with rfl | rfl | rfl | rfl | rfl <;> exact .inl (by decide)

theorem isShown_digit {c : Char} {base d : Nat} (h : Number.digitIn? base c = some d) : IsShown c := by
  refine .inl ?_
  by_contra control
  have none : Number.digitIn? base c = none := by
    simp only [Number.digitIn?, Bool.and_eq_true, decide_eq_true_eq]
    rw [if_neg (by omega), if_neg (by omega), if_neg (by omega)]
    rfl
  rw [none] at h
  cases h

theorem isShown_codeUnit {a b c d : Char} {n : Nat} (h : codeUnit? a b c d = some n) :
    ∀ e ∈ [a, b, c, d], IsShown e := by
  simp only [codeUnit?, List.mapM_cons, List.mapM_nil, bind, Option.bind_eq_some_iff] at h
  obtain ⟨_, ⟨_, ha, _, ⟨_, hb, _, ⟨_, hc, _, ⟨_, hd, -⟩, -⟩, -⟩, -⟩, -⟩ := h
  simp only [List.forall_mem_cons]
  exact ⟨isShown_digit ha, isShown_digit hb, isShown_digit hc, isShown_digit hd, List.forall_mem_nil _⟩

theorem isShown_escaped {e c : Char} (h : escaped? e = some c) : IsShown e := by
  unfold escaped? at h
  split at h
  case h_9 => cases h
  all_goals exact .inl (by decide)

theorem MarkText.shown {cs : List Char} {mark : Mark} (h : MarkText cs mark) : ∀ c ∈ cs, IsShown c := by
  have escape : IsShown '\\' ∧ IsShown 'u' := ⟨.inl (by decide), .inl (by decide)⟩
  cases h with
  | plain shown => exact List.forall_mem_singleton.mpr (.inl shown)
  | letter letter =>
      exact List.forall_mem_cons.mpr ⟨escape.1, List.forall_mem_singleton.mpr (isShown_escaped letter)⟩
  | unit value | half value =>
      exact List.forall_mem_cons.mpr ⟨escape.1,
        List.forall_mem_cons.mpr ⟨escape.2, isShown_codeUnit value⟩⟩

theorem MarksText.shown {cs : List Char} {marks : List Mark} (h : MarksText cs marks) :
    ∀ c ∈ cs, IsShown c := by
  induction h with
  | nil => exact List.forall_mem_nil _
  | cons mark _ ih => exact List.forall_mem_append.mpr ⟨mark.shown, ih⟩

theorem StringText.shown {cs : List Char} {text : DataText} (h : StringText cs text) :
    ∀ c ∈ cs, IsShown c := by
  have quote : IsShown '"' := .inl (by decide)
  cases h with
  | quoted marks =>
      exact List.forall_mem_cons.mpr ⟨quote,
        List.forall_mem_append.mpr ⟨marks.shown, List.forall_mem_singleton.mpr quote⟩⟩

theorem commas_shown {texts : List (List Char)} (h : ∀ text ∈ texts, ∀ c ∈ text, IsShown c) :
    ∀ c ∈ commas texts, IsShown c := by
  induction texts with
  | nil => exact List.forall_mem_nil _
  | cons text more ih =>
      rw [List.forall_mem_cons] at h
      cases more with
      | nil =>
          rw [commas_singleton]
          exact h.1
      | cons next more =>
          rw [commas_cons_cons, List.forall_mem_append, List.forall_mem_cons]
          exact ⟨h.1, .inl (by decide), ih h.2⟩

theorem Inner.shown {item : Inner} (spaced : item.IsSpaced) (spelled : ∀ c ∈ item.spelled, IsShown c) :
    ∀ c ∈ item.text, IsShown c := by
  rw [Inner.text, List.forall_mem_append, List.forall_mem_append]
  exact ⟨spaced.1.shown, spelled, spaced.2.shown⟩

theorem Named.shown {member : Named} (named : member.IsSpelled)
    (spelled : ∀ c ∈ member.spelled, IsShown c) : ∀ c ∈ member.text, IsShown c := by
  obtain ⟨ahead, isName, behind, spaced⟩ := named
  rw [Named.text, List.forall_mem_append, List.forall_mem_append, List.forall_mem_append,
    List.forall_mem_cons]
  exact ⟨ahead.shown, isName.shown, behind.shown, .inl (by decide), Inner.shown spaced spelled⟩

theorem enclosed_shown {first last : Char} {cs : List Char} (opens : IsShown first)
    (closes : IsShown last) (inside : ∀ c ∈ cs, IsShown c) :
    ∀ c ∈ first :: (cs ++ [last]), IsShown c :=
  List.forall_mem_cons.mpr ⟨opens,
    List.forall_mem_append.mpr ⟨inside, List.forall_mem_singleton.mpr closes⟩⟩

/-- No control stands in a value but the spaces. -/
theorem ValueText.shown {cs : List Char} {value : Json} (h : ValueText cs value) :
    ∀ c ∈ cs, IsShown c := by
  induction h with
  | word isWord =>
      simp only [words, List.mem_cons, Prod.mk.injEq, List.not_mem_nil, or_false] at isWord
      rcases isWord with ⟨rfl, -⟩ | ⟨rfl, -⟩ | ⟨rfl, -⟩ | ⟨rfl, -⟩ | ⟨rfl, -⟩ | ⟨rfl, -⟩ <;>
        exact fun c mem => .inl (by revert c; decide)
  | number isNumber => exact fun c mem => isShown_numeral (isNumber.numerals c mem)
  | string isString => exact isString.shown
  | emptyArray spaces | emptyObject spaces =>
      exact enclosed_shown (.inl (by decide)) (.inl (by decide)) spaces.shown
  | array some spaced texts ih =>
      refine enclosed_shown (.inl (by decide)) (.inl (by decide)) (commas_shown ?_)
      exact List.forall_mem_map.mpr fun item mem => Inner.shown (spaced item mem) (ih item mem)
  | object some spelled texts ih =>
      refine enclosed_shown (.inl (by decide)) (.inl (by decide)) (commas_shown ?_)
      exact List.forall_mem_map.mpr fun member mem => Named.shown (spelled member mem) (ih member mem)

/-! ## Objects on a line -/

/-- What ends a line within a string: a next line, a line separator or a paragraph separator. -/
def IsSeparator (c : Char) : Prop :=
  c = '\u0085' ∨ c = '\u2028' ∨ c = '\u2029'

instance : DecidablePred IsSeparator :=
  fun c => inferInstanceAs (Decidable (c = '\u0085' ∨ c = '\u2028' ∨ c = '\u2029'))

theorem feed_or_return {c : Char} (space : isSpace c = true) (ends : Text.isLineEnd c = true) :
    c = '\n' ∨ c = '\r' := by
  simp only [isSpace, Bool.or_eq_true, decide_eq_true_eq] at space
  rcases space with ((rfl | rfl) | rfl) | rfl
  · cases ends
  · cases ends
  · exact .inl rfl
  · exact .inr rfl

theorem isSeparator_of_shown {c : Char} (shown : IsShown c) (ends : Text.isLineEnd c = true)
    (feed : c ≠ '\n') (ret : c ≠ '\r') : IsSeparator c := by
  have valued {d : Char} (same : c.toNat = d.toNat) : c = d := Char.toNat_inj.mp same
  rcases shown with graphic | space
  · simp only [Text.isLineEnd, Bool.or_eq_true, Bool.and_eq_true, decide_eq_true_eq, beq_iff_eq] at ends
    rcases ends with (((low | low) | next) | line) | paragraph
    · omega
    · omega
    · exact .inl (valued next)
    · exact .inr (.inl (valued line))
    · exact .inr (.inr (valued paragraph))
  · rcases feed_or_return space ends with isFeed | isReturn
    · exact absurd isFeed feed
    · exact absurd isReturn ret

/-- An object stands between spaces. -/
theorem ObjectText.parts {text : String} {pairs : List (DataText × Json)} (h : ObjectText text pairs) :
    ∃ before inner after, text.toList = before ++ ('\x7b' :: (inner ++ ['\x7d']) ++ after) ∧
      IsSpaces before ∧ IsSpaces after ∧
        ∃ value, ValueText ('\x7b' :: (inner ++ ['\x7d'])) value := by
  cases h with
  | @empty before inside after same isBefore isInside isAfter =>
      exact ⟨before, inside, after, same, isBefore, isAfter, _, .emptyObject isInside⟩
  | @members before after members same isBefore isAfter some spelled values =>
      exact ⟨before, _, after, same, isBefore, isAfter, _, .object some spelled values⟩

theorem isBlank_of_isSpace {c : Char} (h : isSpace c = true) : Text.isBlank c = true := by
  simp only [isSpace, Bool.or_eq_true, decide_eq_true_eq] at h
  rcases h with ((rfl | rfl) | rfl) | rfl <;> decide

theorem IsSpaces.blank {cs : List Char} (h : IsSpaces cs) : ∀ c ∈ cs, Text.isBlank c = true :=
  fun c mem => isBlank_of_isSpace (h c mem)

/-- Trimming leaves the object. -/
theorem trim_object {before inner after : List Char} (isBefore : IsSpaces before)
    (isAfter : IsSpaces after) :
    Text.trim (before ++ ('\x7b' :: (inner ++ ['\x7d']) ++ after)) = '\x7b' :: (inner ++ ['\x7d']) := by
  rw [← List.append_assoc]
  refine Text.trimBy_between isBefore.blank isAfter.blank ?_ ?_
  · rintro c ⟨⟩
    decide
  · rw [← List.cons_append, List.getLast?_concat]
    rintro c ⟨⟩
    decide

theorem ObjectText.trimmed {line : List Char} {pairs : List (DataText × Json)}
    (h : ObjectText (String.ofList line) pairs) : ObjectText (String.ofList (Text.trim line)) pairs := by
  have none : IsSpaces [] := List.forall_mem_nil _
  cases h with
  | empty same isBefore isInside isAfter =>
      rw [String.toList_ofList] at same
      rw [same, trim_object isBefore isAfter]
      exact .empty (by simp) none isInside none
  | members same isBefore isAfter some spelled values =>
      rw [String.toList_ofList] at same
      rw [same, trim_object isBefore isAfter]
      exact .members (by simp) none none some spelled values

theorem ObjectText.shown {line : List Char} {pairs : List (DataText × Json)}
    (h : ObjectText (String.ofList line) pairs) : ∀ c ∈ line, IsShown c := by
  obtain ⟨before, inner, after, same, isBefore, isAfter, value, isText⟩ := h.parts
  rw [String.toList_ofList] at same
  rw [same, List.forall_mem_append, List.forall_mem_append]
  exact ⟨isBefore.shown, isText.shown, isAfter.shown⟩

/-- Blanks do not go on with a number. -/
theorem endsNumber_of_blank {cs : List Char} (blank : ∀ c ∈ cs.head?, Text.isBlank c = true) :
    EndsNumber cs := by
  intro c mem
  have own := blank c mem
  refine ⟨?_, ?_, ?_, ?_⟩
  · by_contra digit
    simp only [Bool.not_eq_false, Number.isPlainDigit, Bool.and_eq_true, decide_eq_true_eq] at digit
    have low : '0'.toNat ≤ c.toNat := digit.1
    have high : c.toNat ≤ '9'.toNat := digit.2
    have bounds : '0'.toNat = 48 ∧ '9'.toNat = 57 := by decide
    simp only [Text.isBlank, Bool.or_eq_true, Bool.and_eq_true, decide_eq_true_eq, beq_iff_eq] at own
    omega
  all_goals
    rintro rfl
    cases own

/-- A text has at most one object at its front. -/
theorem object_rest_unique {first second rest rest' : List Char} {value value' : Json}
    (isText : ValueText first value) (isText' : ValueText second value')
    (ends : EndsNumber rest) (ends' : EndsNumber rest') (same : first ++ rest = second ++ rest') :
    rest = rest' := by
  have taken := isText.readsAs ends (Nat.lt_succ_self _)
  rw [same, isText'.readsAs ends' (Nat.lt_succ_self _)] at taken
  cases taken
  rfl

end Json

namespace Bounds

open Json (IsUnbroken IsSeparator)
open List (Forall₂)

variable {line : List Char} {lines : List (List Char)} {bound : Nat} {bounds : List Nat}

/-- The line is an object, in which the member that stands last under `max_cycles` is the bound. -/
structure HoldsBound (line : List Char) (bound : Nat) : Prop where
  unfed : '\n' ∉ line
  unreturned : '\r' ∉ line
  object : ∃ pairs, Json.ObjectText (String.ofList line) pairs ∧
    Json.last? pairs "max_cycles" = some (.int bound)

def fed (lines : List (List Char)) : List Char :=
  lines.flatMap (· ++ ['\n'])

theorem fed_cons (line : List Char) (more : List (List Char)) :
    fed (line :: more) = line ++ '\n' :: fed more := by
  simp [fed]

theorem HoldsBound.tells (h : HoldsBound line bound) : Tells line (.int bound) := by
  obtain ⟨pairs, isObject, last⟩ := h.object
  exact ⟨pairs, isObject.trimmed, last⟩

theorem HoldsBound.unbroken (h : HoldsBound line bound) (none : ∀ c ∈ line, ¬ IsSeparator c) :
    IsUnbroken line := by
  intro c mem
  obtain ⟨pairs, isObject, -⟩ := h.object
  by_contra ends
  have feed : c ≠ '\n' := fun same => h.unfed (same ▸ mem)
  have ret : c ≠ '\r' := fun same => h.unreturned (same ▸ mem)
  exact none c mem (Json.isSeparator_of_shown (isObject.shown c mem) (by simpa using ends) feed ret)

/-! ## Lines without separators -/

theorem lines_fed (unbroken : ∀ line ∈ lines, IsUnbroken line) : Text.lines (fed lines) = lines := by
  induction lines with
  | nil => rfl
  | cons line more ih =>
      rw [List.forall_mem_cons] at unbroken
      have ended : Text.lines ('\n' :: fed more) = [] :: Text.lines (fed more) :=
        Text.lines_cons fun more same => absurd same (by decide)
      rw [fed_cons, Text.lines_append unbroken.1, ended, Text.foldr_consLine, List.append_nil,
        ih unbroken.2]

theorem lists_of_holds (held : Forall₂ HoldsBound lines bounds) : Lists lines bounds := by
  induction held with
  | nil => exact .nil
  | cons holds _ ih => exact .told holds.tells ih

/-! ## Lines with separators -/

/-- A line with an end in it is cut there. -/
theorem exists_cut (broken : ¬ IsUnbroken line) (ret : '\r' ∉ line) :
    ∃ ahead c behind, line = ahead ++ c :: behind ∧ Text.isLineEnd c = true ∧
      Text.lines line = ahead :: Text.lines behind := by
  induction line with
  | nil => exact absurd (List.forall_mem_nil _) broken
  | cons c more ih =>
      rw [List.mem_cons, not_or] at ret
      have apart : ∀ rest, c = '\r' → more ≠ '\n' :: rest := fun rest same => absurd same.symm ret.1
      by_cases ends : Text.isLineEnd c = true
      · refine ⟨[], c, more, rfl, ends, ?_⟩
        rw [Text.lines_cons apart, if_pos ends]
      · have later : ¬ IsUnbroken more := fun unbroken =>
          broken (List.forall_mem_cons.mpr ⟨by simpa using ends, unbroken⟩)
        obtain ⟨ahead, d, behind, same, ends', cut⟩ := ih later ret.2
        refine ⟨c :: ahead, d, behind, by rw [same]; rfl, ends', ?_⟩
        rw [Text.lines_cons apart, if_neg ends, cut]
        rfl

theorem isBlank_of_isLineEnd {c : Char} (h : Text.isLineEnd c = true) : Text.isBlank c = true := by
  simp only [Text.isLineEnd, Bool.or_eq_true, Bool.and_eq_true, decide_eq_true_eq, beq_iff_eq] at h
  simp only [Text.isBlank, Bool.or_eq_true, Bool.and_eq_true, decide_eq_true_eq, beq_iff_eq]
  omega

/-- The end of a line that holds a bound stands inside of the object. -/
theorem opened_ahead {ahead behind before inside : List Char} {c : Char}
    (same : ahead ++ c :: behind = before ++ '\x7b' :: inside) (isBefore : Json.IsSpaces before)
    (other : Json.isSpace c = false) (ends : Text.isLineEnd c = true) :
    ∃ x, ahead = before ++ '\x7b' :: x ∧ inside = x ++ c :: behind := by
  have brace : c ≠ '\x7b' := by
    rintro rfl
    cases ends
  rcases List.append_eq_append_iff.mp same with ⟨gap, rfl, rest⟩ | ⟨front, rfl, rest⟩
  · cases gap with
    | nil => exact absurd (List.cons.inj rest).1 brace
    | cons d gap =>
        obtain ⟨rfl, -⟩ := List.cons.inj rest
        cases other.symm.trans (isBefore c (by simp))
  · cases front with
    | nil => exact absurd (List.cons.inj rest).1.symm brace
    | cons d x =>
        obtain ⟨rfl, split⟩ := List.cons.inj rest
        exact ⟨x, rfl, split⟩

/-- A line that tells a value has nothing but blanks behind its object. -/
theorem Tells.exists_object {before x : List Char} {value : Json}
    (h : Tells (before ++ '\x7b' :: x) value) (isBefore : Json.IsSpaces before) :
    ∃ spelled blanks document, '\x7b' :: x = spelled ++ blanks ∧ Json.ValueText spelled document ∧
      ∀ c ∈ blanks, Text.isBlank c = true := by
  obtain ⟨pairs, isObject, -⟩ := h
  obtain ⟨front, inner, after, same, isFront, isAfter, document, isText⟩ := isObject.parts
  obtain ⟨ahead, behind, whole, isAhead, isBehind⟩ :=
    Text.exists_trimBy Text.isBlank (before ++ '\x7b' :: x)
  have trimmed : Text.trimBy Text.isBlank (before ++ '\x7b' :: x) =
      front ++ ('\x7b' :: (inner ++ ['\x7d']) ++ after) := by
    rw [← same, content, String.toList_ofList, Text.trim]
  have blank : ∀ c ∈ ahead ++ front, Text.isBlank c = true :=
    List.forall_mem_append.mpr ⟨isAhead, isFront.blank⟩
  have parts : before ++ '\x7b' :: x =
      (ahead ++ front) ++ ('\x7b' :: (inner ++ ['\x7d']) ++ (after ++ behind)) := by
    rw [trimmed] at whole
    simpa using whole
  -- both sides are dropped up to the brace
  have dropped := congrArg (List.dropWhile Text.isBlank) parts
  rw [List.dropWhile_append_of_pos isBefore.blank, List.dropWhile_append_of_pos blank,
    Text.dropWhile_of_head (by rintro c ⟨⟩; decide), Text.dropWhile_of_head (by rintro c ⟨⟩; decide)]
    at dropped
  exact ⟨_, after ++ behind, document, dropped, isText,
    List.forall_mem_append.mpr ⟨isAfter.blank, isBehind⟩⟩

/-- What stands ahead of the cut is not blank and no object: an object that ended there would be followed
by the separator, but the one on the line is followed by spaces only. -/
theorem not_readable_ahead {ahead behind : List Char} {c : Char}
    (held : HoldsBound (ahead ++ c :: behind) bound) (ends : Text.isLineEnd c = true) :
    ¬ IsReadable ahead := by
  obtain ⟨pairs, isObject, -⟩ := held.object
  obtain ⟨before, inner, after, same, isBefore, isAfter, document, isText⟩ := isObject.parts
  rw [String.toList_ofList] at same
  have other : Json.isSpace c = false := by
    by_contra space
    rcases Json.feed_or_return (by simpa using space) ends with rfl | rfl
    · exact held.unfed (by simp)
    · exact held.unreturned (by simp)
  obtain ⟨x, rfl, inside⟩ := opened_ahead same isBefore other ends
  rintro (blank | ⟨told, tells⟩)
  · have brace := blank '\x7b' (by simp)
    cases brace
  · obtain ⟨spelled, blanks, document', split, isText', areBlank⟩ := tells.exists_object isBefore
    have whole : '\x7b' :: (inner ++ ['\x7d']) ++ after = spelled ++ (blanks ++ c :: behind) := by
      rw [← List.append_assoc, ← split]
      exact congrArg (List.cons '\x7b') inside
    have behindSpaces : Json.EndsNumber after :=
      Json.endsNumber_of_blank fun d mem => isAfter.blank d (List.mem_of_mem_head? mem)
    have behindBlanks : Json.EndsNumber (blanks ++ c :: behind) := by
      apply Json.endsNumber_of_blank
      cases blanks with
      | nil =>
          rintro d ⟨⟩
          exact isBlank_of_isLineEnd ends
      | cons d blanks =>
          rintro e ⟨⟩
          exact areBlank d List.mem_cons_self
    have rest := Json.object_rest_unique isText isText' behindSpaces behindBlanks whole
    have space := isAfter c (by simp [rest])
    cases other.symm.trans space

theorem not_lists_of_separator (held : HoldsBound line bound) {c : Char} (mem : c ∈ line)
    (separates : IsSeparator c) : ¬ ∃ own, Lists (Text.lines line) own := by
  have broken : ¬ IsUnbroken line := by
    intro unbroken
    have inside := unbroken c mem
    rcases separates with rfl | rfl | rfl <;> cases inside
  obtain ⟨ahead, d, behind, rfl, ends, cut⟩ := exists_cut broken held.unreturned
  rw [exists_lists, cut, List.forall_mem_cons]
  exact fun readable => not_readable_ahead held ends readable.1

/-- Lines that are fed are read one by one. -/
theorem exists_lists_of_fed (h : Lists (Text.lines (fed lines)) bounds) :
    ∀ line ∈ lines, ∃ own, Lists (Text.lines line) own := by
  induction lines generalizing bounds with
  | nil => exact List.forall_mem_nil _
  | cons line more ih =>
      rw [fed_cons, lists_join, lists_append] at h
      obtain ⟨own, others, lists, rest, -⟩ := h
      exact List.forall_mem_cons.mpr ⟨⟨own, lists⟩, ih rest⟩

/-! ## One note -/

def noted (spelled : List Char) : List Char :=
  '\x7b' :: (Json.raw "note" ++ ':' :: ' ' :: (spelled ++
    ',' :: ' ' :: (Json.raw "max_cycles" ++ [':', ' ', '7', '\x7d'])))

theorem holdsBound_noted {spelled : List Char} {text : DataText} (isText : Json.StringText spelled text)
    (unfed : '\n' ∉ spelled) (unreturned : '\r' ∉ spelled) : HoldsBound (noted spelled) 7 := by
  have none : Json.IsSpaces [] := List.forall_mem_nil _
  have one : Json.IsSpaces [' '] := List.forall_mem_singleton.mpr (by decide)
  let note : Json.Named := ⟨⟨[' '], spelled, [], .string text⟩, [], Json.raw "note", [], "note"⟩
  let seven : Json.Named := ⟨⟨[' '], ['7'], [], .int 7⟩, [' '], Json.raw "max_cycles", [], "max_cycles"⟩
  have whole : (String.ofList (noted spelled)).toList =
      [] ++ ('\x7b' :: (Json.commas ([note, seven].map Json.Named.text) ++ ['\x7d']) ++ []) := by
    simp [noted, note, seven, Json.Named.text, Json.Inner.text]
  have last : Json.last? ([note, seven].map Json.Named.pair) "max_cycles" = some (.int 7) := by
    simp [Json.last?, Json.Named.pair, seven]
  have isSeven : Json.ValueText ['7'] (.int 7) :=
    .number (.positive (.int (.inr ⟨⟨by decide, by decide⟩, by decide⟩) (by decide)))
  have others : ∀ c ∈ ['\n', '\r'], c ∉ Json.raw "note" ∧ c ∉ Json.raw "max_cycles" := by decide
  refine ⟨?_, ?_, _, .members whole none none (by simp) ?_ ?_, last⟩
  · simp [noted, unfed, others '\n' (by simp)]
  · simp [noted, unreturned, others '\r' (by simp)]
  · simp only [List.forall_mem_cons]
    exact ⟨⟨none, Json.stringText_raw (by decide), none, one, none⟩,
      ⟨one, Json.stringText_raw (by decide), none, one, none⟩, List.forall_mem_nil _⟩
  · simp only [List.forall_mem_cons]
    exact ⟨.string isText, isSeven, List.forall_mem_nil _⟩

theorem respelled_noted {spelled spelled' : List Char} {text : DataText}
    (isText : Json.StringText spelled text) (isText' : Json.StringText spelled' text)
    (unbroken : IsUnbroken spelled) (unbroken' : IsUnbroken spelled') :
    Json.Respelled (fed [noted spelled]) (fed [noted spelled']) := by
  have fed_noted (cs : List Char) : fed [noted cs] =
      ['\x7b'] ++ (Json.raw "note" ++ ([':', ' '] ++ (cs ++
        ([',', ' '] ++ (Json.raw "max_cycles" ++ ([':', ' ', '7', '\x7d', '\n'] ++ [])))))) := by
    simp [fed, noted]
  have isNote : Json.StringText (Json.raw "note") "note" := Json.stringText_raw (by decide)
  have isName : Json.StringText (Json.raw "max_cycles") "max_cycles" := Json.stringText_raw (by decide)
  rw [fed_noted, fed_noted]
  refine .behind (by decide) (.string isNote isNote (by decide) (by decide) (.behind (by decide) ?_))
  refine .string isText isText' unbroken unbroken' (.behind (by decide) ?_)
  exact .string isName isName (by decide) (by decide) (.behind (by decide) .nil)

/-! ## Outputs -/

theorem exists_bound (held : Forall₂ HoldsBound lines bounds) :
    ∀ line ∈ lines, ∃ bound, HoldsBound line bound := by
  induction held with
  | nil => exact List.forall_mem_nil _
  | cons holds _ ih => exact List.forall_mem_cons.mpr ⟨⟨_, holds⟩, ih⟩

/-- Objects on lines of their own are understood with any characters in their strings, raw or escaped, but
for separators: an output with one of them raw is refused, whichever bounds its objects hold. Outputs that
differ only in how their strings are spelled have the same bounds, if they have any, whatever else stands
in them. -/
theorem bounds_in_any_spelling (output : String) :
    (∀ lines bounds, output.toList = fed lines → Forall₂ HoldsBound lines bounds →
      ((∀ line ∈ lines, ∀ c ∈ line, ¬ IsSeparator c) → parse output = .ok bounds) ∧
      ((∃ line ∈ lines, ∃ c ∈ line, IsSeparator c) → ∃ fault, parse output = .error fault)) ∧
    ∀ output' : String, Json.Respelled output.toList output'.toList →
      ∀ bounds, parse output = .ok bounds ↔ parse output' = .ok bounds := by
  refine ⟨fun lines bounds written held => ⟨fun none => ?_, ?_⟩, fun _ => parse_respelled⟩
  · have unbroken : ∀ line ∈ lines, IsUnbroken line := by
      intro line mem
      obtain ⟨bound, holds⟩ := exists_bound held line mem
      exact holds.unbroken (none line mem)
    rw [parse_eq_ok, written, lines_fed unbroken]
    exact lists_of_holds held
  · rintro ⟨line, mem, c, inside, separates⟩
    obtain ⟨bound, holds⟩ := exists_bound held line mem
    cases read : parse output with
    | error fault => exact ⟨fault, rfl⟩
    | ok own =>
        rw [parse_eq_ok, written] at read
        exact absurd (exists_lists_of_fed read line mem) (not_lists_of_separator holds inside separates)

/-- A note with characters of two and of four bytes, raw and escaped, and one with a line separator. -/
theorem bounds_in_any_spelling_crab :
    let crab := Json.raw "naïve 🦀"
    let escaped := "\"na\\u00efve \\ud83e\\udd80\"".toList
    let separated := Json.raw "a\u2028b"
    (HoldsBound (noted crab) 7 ∧ (∀ c ∈ noted crab, ¬ IsSeparator c) ∧
        parse (String.ofList (fed [noted crab])) = .ok [7]) ∧
      (Json.Respelled (fed [noted crab]) (fed [noted escaped]) ∧
        parse (String.ofList (fed [noted escaped])) = .ok [7]) ∧
      HoldsBound (noted separated) 7 ∧ (∃ c ∈ noted separated, IsSeparator c) ∧
        ∃ fault, parse (String.ofList (fed [noted separated])) = .error fault := by
  intro crab escaped separated
  have isCrab : Json.StringText crab "naïve 🦀" := Json.stringText_raw (by decide)
  have isEscaped : Json.StringText escaped "naïve 🦀" := by
    have written : escaped = Json.writtenString "naïve 🦀" := by decide
    exact written ▸ Json.stringText_escaped _
  have isSeparated : Json.StringText separated "a\u2028b" := Json.stringText_raw (by decide)
  have held : HoldsBound (noted crab) 7 := holdsBound_noted isCrab (by decide) (by decide)
  have held' : HoldsBound (noted separated) 7 := holdsBound_noted isSeparated (by decide) (by decide)
  have plain : ∀ c ∈ noted crab, ¬ IsSeparator c := by decide
  have respelled : Json.Respelled (fed [noted crab]) (fed [noted escaped]) :=
    respelled_noted isCrab isEscaped (by decide) (by decide)
  have separates : ∃ c ∈ noted separated, IsSeparator c := ⟨'\u2028', by decide, by decide⟩
  have read : parse (String.ofList (fed [noted crab])) = .ok [7] :=
    ((bounds_in_any_spelling _).1 _ _ String.toList_ofList (.cons held .nil)).1 (by simpa using plain)
  have same := (bounds_in_any_spelling (String.ofList (fed [noted crab]))).2
    (String.ofList (fed [noted escaped])) (by simpa only [String.toList_ofList] using respelled) [7]
  have refused : ∃ fault, parse (String.ofList (fed [noted separated])) = .error fault :=
    ((bounds_in_any_spelling _).1 _ _ String.toList_ofList (.cons held' .nil)).2
      ⟨_, List.mem_singleton_self _, separates⟩
  exact ⟨⟨held, plain, read⟩, ⟨respelled, same.mp read⟩, held', separates, refused⟩

/-- One string in two spellings: raw, a line separator in it ends the line, and the object is refused. -/
theorem separator_ends_line :
    let separated := Json.raw "a\u2028b"
    let escaped := "\"a\\u2028b\"".toList
    (∃ text, Json.StringText separated text ∧ Json.StringText escaped text) ∧
      HoldsBound (noted separated) 7 ∧ HoldsBound (noted escaped) 7 ∧
      parse (String.ofList (fed [noted escaped])) = .ok [7] ∧
      ∃ fault, parse (String.ofList (fed [noted separated])) = .error fault ∧
        fault.message = "Bad engine output on line 1: '\x7b\"note\": \"a'" := by
  intro separated escaped
  have isSeparated : Json.StringText separated "a\u2028b" := Json.stringText_raw (by decide)
  have isEscaped : Json.StringText escaped "a\u2028b" := by
    have written : escaped = Json.writtenString "a\u2028b" := by decide
    exact written ▸ Json.stringText_escaped _
  have held : HoldsBound (noted separated) 7 := holdsBound_noted isSeparated (by decide) (by decide)
  have held' : HoldsBound (noted escaped) 7 := holdsBound_noted isEscaped (by decide) (by decide)
  have read : parse (String.ofList (fed [noted escaped])) = .ok [7] := by
    have unbroken : ∀ line ∈ [noted escaped], IsUnbroken line := by decide
    rw [parse_eq_ok, String.toList_ofList, lines_fed unbroken]
    exact lists_of_holds (.cons held' .nil)
  refine ⟨⟨_, isSeparated, isEscaped⟩, held, held', read, ?_⟩
  have refused : (match parse (String.ofList (fed [noted separated])) with
      | .error fault => fault.message
      | .ok _ => "") = "Bad engine output on line 1: '\x7b\"note\": \"a'" := by decide +kernel
  cases answer : parse (String.ofList (fed [noted separated])) with
  | error fault =>
      rw [answer] at refused
      exact ⟨fault, rfl, refused⟩
  | ok bounds =>
      rw [answer] at refused
      have other : "" ≠ "Bad engine output on line 1: '\x7b\"note\": \"a'" := by decide
      exact absurd refused other

end Bounds

end TickBound
