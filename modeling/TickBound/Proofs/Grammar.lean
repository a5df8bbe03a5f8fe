import Mathlib.Data.List.TakeWhile
import TickBound.Json.Progress
import TickBound.Proofs.Numerals
import TickBound.Proofs.Rounding

/-!
# The grammar of data values

Which texts are a data value, and which value it is. The parts that contain no other values are read
here: spaces, strings, numbers and the values that are written as words.
-/

namespace TickBound

/-- Joins the halves that stand right beside each other. -/
def Mark.join : List Mark → List Mark
  | .half high :: .half low :: rest =>
      if Json.isHighSurrogate high && Json.isLowSurrogate low then
        Json.pairedUnits high low :: join rest
      else .half high :: join (.half low :: rest)
  | mark :: rest => mark :: join rest
  | [] => []

namespace Json

/-! ## Spaces -/

def IsSpaces (cs : List Char) : Prop :=
  ∀ c ∈ cs, isSpace c = true

theorem skipSpace_cons {c : Char} (h : isSpace c = false) (rest : List Char) :
    skipSpace (c :: rest) = c :: rest := by
  simp [skipSpace, h]

theorem skipSpace_append {before : List Char} (spaces : IsSpaces before) (cs : List Char) :
    skipSpace (before ++ cs) = skipSpace cs :=
  List.dropWhile_append_of_pos spaces

theorem exists_spaces (cs : List Char) :
    ∃ before, cs = before ++ skipSpace cs ∧ IsSpaces before :=
  ⟨cs.takeWhile isSpace, List.takeWhile_append_dropWhile.symm, fun _ mem => List.mem_takeWhile_imp mem⟩

/-! ## Strings -/

inductive MarkText : List Char → Mark → Prop
  | plain {c : Char} : 0x20 ≤ c.toNat → c ≠ '"' → c ≠ '\\' → MarkText [c] (.char c)
  | letter {e c : Char} : escaped? e = some c → MarkText ['\\', e] (.char c)
  | unit {a b c d : Char} {n : Nat} :
      codeUnit? a b c d = some n → isHighSurrogate n = false → isLowSurrogate n = false →
        MarkText ['\\', 'u', a, b, c, d] (.char (Char.ofNat n))
  | half {a b c d : Char} {n : Nat} :
      codeUnit? a b c d = some n → isHighSurrogate n = true ∨ isLowSurrogate n = true →
        MarkText ['\\', 'u', a, b, c, d] (.half n)

inductive MarksText : List Char → List Mark → Prop
  | nil : MarksText [] []
  | cons {cs rest : List Char} {mark : Mark} {marks : List Mark} :
      MarkText cs mark → MarksText rest marks → MarksText (cs ++ rest) (mark :: marks)

/-- The text of a string. Halves of pairs that stand right beside each other are one character. -/
inductive StringText : List Char → DataText → Prop
  | quoted {cs : List Char} {marks : List Mark} :
      MarksText cs marks → StringText ('"' :: (cs ++ ['"'])) ⟨Mark.join marks⟩

theorem isLowSurrogate_iff {n : Nat} : isLowSurrogate n = true ↔ 0xDC00 ≤ n ∧ n < 0xE000 := by
  simp [isLowSurrogate]

theorem isHighSurrogate_iff {n : Nat} : isHighSurrogate n = true ↔ 0xD800 ≤ n ∧ n < 0xDC00 := by
  simp [isHighSurrogate]

theorem isLowSurrogate_of_high {n : Nat} (high : isHighSurrogate n = true) :
    isLowSurrogate n = false := by
  rw [isHighSurrogate_iff] at high
  rw [Bool.eq_false_iff, Ne, isLowSurrogate_iff]
  omega

theorem loneUnit_of_half {n : Nat} (half : isHighSurrogate n = true ∨ isLowSurrogate n = true) :
    loneUnit n = .half n := by
  rcases half with half | half <;> simp [loneUnit, half]

theorem loneUnit_of_char {n : Nat} (high : isHighSurrogate n = false)
    (low : isLowSurrogate n = false) : loneUnit n = .char (Char.ofNat n) := by
  simp [loneUnit, high, low]

/-- No letter that stands for a character begins a code unit. -/
theorem ne_u_of_escaped {e c : Char} (h : escaped? e = some c) : e ≠ 'u' := by
  rintro rfl
  cases h

/-- The text of a second half is taken for one. -/
theorem lowHalf?_low {cs tail : List Char} {n : Nat} (text : MarkText cs (.half n))
    (low : isLowSurrogate n = true) (more : tail ≠ []) :
    lowHalf? (cs ++ tail) = some (.ok (n, tail)) := by
  obtain ⟨next, rest, rfl⟩ := List.exists_cons_of_ne_nil more
  cases text with
  | half value => simp [lowHalf?, value, low]

/-- The text of any other mark is not. -/
theorem lowHalf?_other {cs tail : List Char} {mark : Mark} (text : MarkText cs mark)
    (other : ∀ n, mark = .half n → isLowSurrogate n = false) : lowHalf? (cs ++ tail) = none := by
  have unit {a b c d : Char} {n : Nat} (value : codeUnit? a b c d = some n)
      (high : isLowSurrogate n = false) : lowHalf? (['\\', 'u', a, b, c, d] ++ tail) = none := by
    cases tail with
    | nil => rfl
    | cons next rest => simp [lowHalf?, value, high]
  cases text with
  | plain _ _ backslash => simp [lowHalf?, backslash]
  | letter escape => simp [lowHalf?, ne_u_of_escaped escape]
  | unit value _ low => exact unit value low
  | half value => exact unit value (other _ rfl)

/-- The text of a mark is read as this mark, unless it is the first half of a pair. -/
theorem nextPiece_alone {cs tail : List Char} {mark : Mark} (text : MarkText cs mark)
    (opening : List Char) (more : tail ≠ [])
    (alone : ∀ n, mark = .half n → isHighSurrogate n = true → lowHalf? tail = none) :
    nextPiece opening (cs ++ tail) = .mark mark tail := by
  obtain ⟨next, rest, rfl⟩ := List.exists_cons_of_ne_nil more
  cases text with
  | plain shown quote backslash => simp [nextPiece, backslash, Nat.not_lt.mpr shown]
  | letter escape => simp [nextPiece, escape, ne_u_of_escaped escape]
  | unit value high low =>
      simp [nextPiece, codePiece, value, high, loneUnit_of_char high low]
  | @half a b c d n value half =>
      cases high : isHighSurrogate n with
      | false => simp [nextPiece, codePiece, value, high, loneUnit_of_half half]
      | true => simp [nextPiece, codePiece, value, high, loneUnit_of_half half, alone n rfl high]

/-- A first half and a second one are read as the character that they stand for. -/
theorem nextPiece_pair {cs tail after : List Char} {high low : Nat}
    (text : MarkText cs (.half high)) (isHigh : isHighSurrogate high = true) (opening : List Char)
    (half : lowHalf? tail = some (.ok (low, after))) :
    nextPiece opening (cs ++ tail) = .mark (pairedUnits high low) after := by
  cases tail with
  | nil => cases half
  | cons next rest =>
      cases text with
      | half value => simp [nextPiece, codePiece, value, isHigh, half]

theorem lowHalf?_marks {cs : List Char} {marks : List Mark} (text : MarksText cs marks)
    (other : ∀ n more, marks = .half n :: more → isLowSurrogate n = false) (rest : List Char) :
    lowHalf? (cs ++ '"' :: rest) = none := by
  cases text with
  | nil => rfl
  | @cons first cs mark marks isMark isMarks =>
      rw [List.append_assoc]
      refine lowHalf?_other isMark fun n same => other n marks (by rw [same])

theorem MarkText.length_pos {cs : List Char} {mark : Mark} (text : MarkText cs mark) :
    0 < cs.length := by
  cases text <;> simp

section TakeMarks

variable {opening cs tail rest : List Char} {mark : Mark} {marks joined : List Mark} {budget : Nat}

theorem takeMarks_mark (first : nextPiece opening cs = .mark mark tail)
    (others : takeMarks opening budget tail = .ok (marks, rest)) :
    takeMarks opening (budget + 1) cs = .ok (mark :: marks, rest) := by
  rw [takeMarks, first]
  simp only [others]

/-- One mark is read that is not joined with the next one. -/
theorem takeMarks_alone (text : MarksText cs (mark :: marks))
    (alone : ∀ high, mark = .half high → isHighSurrogate high = true →
      ∀ low more, marks = .half low :: more → isLowSurrogate low = false)
    (others : ∀ {ds budget}, MarksText ds marks → ds.length < budget →
      takeMarks opening budget (ds ++ '"' :: rest) = .ok (joined, rest))
    (enough : cs.length < budget) :
    takeMarks opening budget (cs ++ '"' :: rest) = .ok (mark :: joined, rest) := by
  cases text with
  | @cons first cs _ _ isMark isMarks =>
      have pos := isMark.length_pos
      rw [List.length_append] at enough
      obtain ⟨budget, rfl⟩ : ∃ less, budget = less + 1 := ⟨budget - 1, by omega⟩
      have one : nextPiece opening (first ++ (cs ++ '"' :: rest)) = .mark mark (cs ++ '"' :: rest) :=
        nextPiece_alone isMark opening (by simp) fun high same isHigh =>
          lowHalf?_marks isMarks (alone high same isHigh) rest
      rw [List.append_assoc]
      exact takeMarks_mark one (others isMarks (by omega))

/-- Two halves that stand right beside each other are read as one mark. -/
theorem takeMarks_pair {high low : Nat} (text : MarksText cs (.half high :: .half low :: marks))
    (isHigh : isHighSurrogate high = true) (isLow : isLowSurrogate low = true)
    (others : ∀ {ds budget}, MarksText ds marks → ds.length < budget →
      takeMarks opening budget (ds ++ '"' :: rest) = .ok (joined, rest))
    (enough : cs.length < budget) :
    takeMarks opening budget (cs ++ '"' :: rest) = .ok (pairedUnits high low :: joined, rest) := by
  cases text with
  | @cons first cs _ _ isFirst text =>
      cases text with
      | @cons second cs _ _ isSecond isMarks =>
          have pos := isFirst.length_pos
          simp only [List.length_append] at enough
          obtain ⟨budget, rfl⟩ : ∃ less, budget = less + 1 := ⟨budget - 1, by omega⟩
          have half : lowHalf? (second ++ (cs ++ '"' :: rest)) = some (.ok (low, cs ++ '"' :: rest)) :=
            lowHalf?_low isSecond isLow (by simp)
          have one := nextPiece_pair isFirst isHigh opening half
          rw [List.append_assoc, List.append_assoc]
          exact takeMarks_mark one (others isMarks (by omega))

/-- The marks of a string are read from their texts up to the quote, and halves are joined. -/
theorem takeMarks_text (text : MarksText cs marks) (opening rest : List Char)
    (enough : cs.length < budget) :
    takeMarks opening budget (cs ++ '"' :: rest) = .ok (Mark.join marks, rest) := by
  fun_induction Mark.join marks generalizing cs budget with
  | case1 high low more joined ih =>
      rw [Bool.and_eq_true] at joined
      exact takeMarks_pair text joined.1 joined.2 ih enough
  | case2 high low more apart ih =>
      refine takeMarks_alone text (fun n same isHigh m others next => ?_) ih enough
      cases same
      cases next
      simpa [isHigh] using apart
  | case3 mark more other ih =>
      refine takeMarks_alone text (fun n same _ m others next => ?_) ih enough
      exact (other n m others same next).elim
  | case4 =>
      cases text with
      | nil =>
          obtain ⟨budget, rfl⟩ := Nat.exists_eq_add_of_lt enough
          rfl

end TakeMarks

/-! ### What is taken for a string -/

theorem lowHalf?_sound {cs tail : List Char} {n : Nat} (h : lowHalf? cs = some (.ok (n, tail))) :
    ∃ text, cs = text ++ tail ∧ MarkText text (.half n) ∧ isLowSurrogate n = true := by
  unfold lowHalf? at h
  split at h
  · next a b c d next rest =>
      split at h
      · cases h
      · next unit value =>
          split at h
          · next low =>
              cases h
              exact ⟨['\\', 'u', a, b, c, d], rfl, .half value (.inr low), low⟩
          · cases h
  · cases h

/-- What is taken for one mark is its text, or the texts of two halves. -/
inductive PieceText : List Char → Mark → List Char → Prop
  | alone {text tail : List Char} {mark : Mark} : MarkText text mark →
      (∀ n, mark = .half n → isHighSurrogate n = true → lowHalf? tail = none) →
        PieceText (text ++ tail) mark tail
  | pair {first second tail : List Char} {high low : Nat} : MarkText first (.half high) →
      isHighSurrogate high = true → MarkText second (.half low) → isLowSurrogate low = true →
        PieceText (first ++ (second ++ tail)) (pairedUnits high low) tail

theorem codePiece_sound {start cs tail : List Char} {mark : Mark}
    (h : codePiece start cs = .mark mark tail) : PieceText ('\\' :: 'u' :: cs) mark tail := by
  unfold codePiece at h
  split at h
  · next a b c d next rest =>
      split at h
      · cases h
      · next n value =>
          split at h
          · next high =>
              have first : MarkText ['\\', 'u', a, b, c, d] (.half n) := .half value (.inl high)
              split at h
              · next low after half =>
                  cases h
                  obtain ⟨second, same, isSecond, isLow⟩ := lowHalf?_sound half
                  rw [same]
                  exact .pair first high isSecond isLow
              · cases h
              · next none =>
                  cases h
                  rw [loneUnit_of_half (.inl high)]
                  exact .alone first fun _ _ _ => none
          · next high =>
              cases h
              have high := Bool.eq_false_iff.mpr high
              cases low : isLowSurrogate n with
              | true =>
                  rw [loneUnit_of_half (.inr low)]
                  have text : MarkText ['\\', 'u', a, b, c, d] (.half n) := .half value (.inr low)
                  refine .alone text fun m same isHigh => ?_
                  cases same
                  cases high.symm.trans isHigh
              | false =>
                  rw [loneUnit_of_char high low]
                  have text := MarkText.unit value high low
                  exact .alone text nofun
  · cases h

theorem nextPiece_sound {opening cs tail : List Char} {mark : Mark}
    (h : nextPiece opening cs = .mark mark tail) : PieceText cs mark tail := by
  unfold nextPiece at h
  split at h
  · cases h
  · cases h
  · cases h
  · exact codePiece_sound h
  · next c _ _ =>
      split at h
      · next escape =>
          cases h
          have text := MarkText.letter escape
          exact .alone text nofun
      · cases h
  · next c rest quote last _ escape =>
      split at h
      · cases h
      · next shown =>
          cases h
          have plain : c ≠ '\\' := by
            intro same
            cases tail with
            | nil => exact last same rfl
            | cons next rest => exact escape next rest same rfl
          have text := MarkText.plain (Nat.le_of_not_lt shown) quote plain
          exact .alone text nofun

theorem eq_quote_of_close {opening cs rest : List Char}
    (h : nextPiece opening cs = .close rest) : cs = '"' :: rest := by
  unfold nextPiece at h
  split at h
  · cases h
  · cases h
    rfl
  · cases h
  · exact absurd h codePiece_close
  · split at h <;> cases h
  · split at h <;> cases h

theorem join_cons {mark : Mark} {marks : List Mark}
    (alone : ∀ high, mark = .half high → isHighSurrogate high = true →
      ∀ low more, marks = .half low :: more → isLowSurrogate low = false) :
    Mark.join (mark :: marks) = mark :: Mark.join marks := by
  by_cases halves : ∃ high low more, mark = .half high ∧ marks = .half low :: more
  · obtain ⟨high, low, more, rfl, rfl⟩ := halves
    have apart : ¬ (isHighSurrogate high && isLowSurrogate low) = true := by
      intro joined
      rw [Bool.and_eq_true] at joined
      cases joined.2.symm.trans (alone high rfl joined.1 low more rfl)
    rw [Mark.join, if_neg apart]
  · rw [Mark.join]
    intro high low more isHalf isNext
    exact halves ⟨high, low, more, isHalf, isNext⟩

theorem join_char (c : Char) (marks : List Mark) :
    Mark.join (.char c :: marks) = .char c :: Mark.join marks := by
  apply join_cons
  intro high same
  cases same

theorem join_pair {high low : Nat} (isHigh : isHighSurrogate high = true)
    (isLow : isLowSurrogate low = true) (marks : List Mark) :
    Mark.join (.half high :: .half low :: marks) = pairedUnits high low :: Mark.join marks := by
  rw [Mark.join, isHigh, isLow]
  rfl

theorem isLowSurrogate_of_apart {cs rest : List Char} {low : Nat} {more : List Mark}
    (text : MarksText cs (.half low :: more)) (apart : lowHalf? (cs ++ '"' :: rest) = none) :
    isLowSurrogate low = false := by
  cases text with
  | @cons second cs _ _ isSecond isMarks =>
      rw [List.append_assoc] at apart
      by_contra isLow
      rw [lowHalf?_low isSecond (by simpa using isLow) (by simp)] at apart
      cases apart

/-- What the marks of a string are taken from. -/
theorem takeMarks_sound {opening cs rest : List Char} {budget : Nat} {joined : List Mark}
    (h : takeMarks opening budget cs = .ok (joined, rest)) :
    ∃ inner marks, cs = inner ++ '"' :: rest ∧ MarksText inner marks ∧ joined = Mark.join marks := by
  induction budget generalizing cs joined with
  | zero => cases h
  | succ budget ih =>
      rw [takeMarks] at h
      split at h
      · next closes =>
          cases h
          exact ⟨[], [], eq_quote_of_close closes, .nil, rfl⟩
      · cases h
      · next mark tail piece =>
          split at h
          · next more after others =>
              cases h
              obtain ⟨inner, marks, rfl, isMarks, rfl⟩ := ih others
              cases nextPiece_sound piece with
              | @alone text _ _ isMark alone =>
                  refine ⟨text ++ inner, mark :: marks, by simp, .cons isMark isMarks, ?_⟩
                  refine (join_cons fun high isHalf isHigh low more next => ?_).symm
                  exact isLowSurrogate_of_apart (next ▸ isMarks) (alone high isHalf isHigh)
              | @pair first second _ high low isFirst isHigh isSecond isLow =>
                  refine ⟨first ++ (second ++ inner), .half high :: .half low :: marks, by simp,
                    .cons isFirst (.cons isSecond isMarks), ?_⟩
                  exact (join_pair isHigh isLow marks).symm
          · cases h

theorem takeString_sound {cs rest : List Char} {s : DataText}
    (h : takeString ('"' :: cs) = .ok (s, rest)) :
    ∃ text, '"' :: cs = text ++ rest ∧ StringText text s := by
  unfold takeString at h
  split at h
  · next taken =>
      cases h
      obtain ⟨inner, marks, same, isMarks, rfl⟩ := takeMarks_sound taken
      rw [List.drop_one, List.tail_cons] at same
      exact ⟨'"' :: (inner ++ ['"']), by simp [same], .quoted isMarks⟩
  · cases h

theorem takeString_text {cs : List Char} {s : DataText} (text : StringText cs s) (rest : List Char) :
    takeString (cs ++ rest) = .ok (s, rest) := by
  cases text with
  | @quoted cs marks isMarks =>
      have whole : '"' :: (cs ++ ['"']) ++ rest = '"' :: (cs ++ '"' :: rest) := by simp
      have short : cs.length < ('"' :: (cs ++ '"' :: rest)).length + 1 := by
        simp only [List.length_cons, List.length_append]
        omega
      rw [whole, takeString, List.drop_one, List.tail_cons, takeMarks_text isMarks _ rest short]

/-! ## Numbers -/

def IsDigits (cs : List Char) : Prop :=
  cs ≠ [] ∧ ∀ c ∈ cs, Number.isPlainDigit c = true

/-- Digits before the point: there is a leading zero only alone. -/
def IsWhole (cs : List Char) : Prop :=
  cs = ['0'] ∨ IsDigits cs ∧ cs.head? ≠ some '0'

inductive FractionText : List Char → List Char → Prop
  | none : FractionText [] []
  | digits {ds : List Char} : IsDigits ds → FractionText ('.' :: ds) ds

inductive ExponentText : List Char → Option Int → Prop
  | none : ExponentText [] none
  | power {e : Char} {sign ds : List Char} {negative : Bool} :
      e = 'e' ∨ e = 'E' → Number.SignText sign negative → IsDigits ds →
        ExponentText (e :: (sign ++ ds)) (some (Number.signed negative (Number.plainDigits ds)))

/-- A number without its sign: an integer within the limit of digits, or with a fraction or an exponent
the nearest real number. -/
inductive UnsignedText (negative : Bool) : List Char → Json → Prop
  | int {whole : List Char} : IsWhole whole → whole.length ≤ Number.decimalLimit →
      UnsignedText negative whole (.int (Number.signed negative (Number.plainDigits whole)))
  | real {whole fraction digits exponent : List Char} {power : Option Int} {bits : Nat} :
      IsWhole whole → FractionText fraction digits → ExponentText exponent power →
        (digits = [] → power ≠ none) →
          Number.IsNearest (Number.plainDigits (whole ++ digits) *
            10 ^ (power.getD 0 - (digits.length : Int))) bits →
          UnsignedText negative (whole ++ (fraction ++ exponent)) (.real (Number.ofMagnitude negative bits))

inductive NumberText : List Char → Json → Prop
  | positive {cs : List Char} {value : Json} : UnsignedText false cs value → NumberText cs value
  | negative {cs : List Char} {value : Json} : UnsignedText true cs value → NumberText ('-' :: cs) value

def EndsNumber (rest : List Char) : Prop :=
  ∀ c ∈ rest.head?, Number.isPlainDigit c = false ∧ c ≠ '.' ∧ c ≠ 'e' ∧ c ≠ 'E'

theorem takeDigits_append {ds rest : List Char} (digits : ∀ c ∈ ds, Number.isPlainDigit c = true)
    (ends : ∀ c ∈ rest.head?, Number.isPlainDigit c = false) :
    (ds ++ rest).takeWhile Number.isPlainDigit = ds ∧
      (ds ++ rest).dropWhile Number.isPlainDigit = rest := by
  have none : rest.takeWhile Number.isPlainDigit = [] ∧
      rest.dropWhile Number.isPlainDigit = rest := by
    cases rest with
    | nil => simp
    | cons c rest => simp [ends c rfl]
  rw [List.takeWhile_append_of_pos digits, List.dropWhile_append_of_pos digits, none.1, none.2,
    List.append_nil]
  exact ⟨rfl, rfl⟩

theorem takeWhole_append {whole rest : List Char} (isWhole : IsWhole whole)
    (ends : ∀ c ∈ rest.head?, Number.isPlainDigit c = false) :
    takeWhole (whole ++ rest) = (whole, rest) := by
  rcases isWhole with rfl | ⟨⟨some, digits⟩, head⟩
  · rfl
  · obtain ⟨taken, left⟩ := takeDigits_append digits ends
    unfold takeWhole
    split
    · next zero =>
        cases whole with
        | nil => exact absurd rfl some
        | cons c whole =>
            rw [List.cons_append, List.cons.injEq] at zero
            rw [zero.1] at head
            exact absurd rfl head
    · rw [taken, left]

theorem takeFraction_append {fraction digits rest : List Char} (text : FractionText fraction digits)
    (ends : ∀ c ∈ rest.head?, Number.isPlainDigit c = false ∧ c ≠ '.') :
    takeFraction (fraction ++ rest) = (digits, rest) := by
  cases text with
  | none =>
      cases rest with
      | nil => rfl
      | cons c rest =>
          have other := (ends c rfl).2
          simp [takeFraction, other]
  | digits isDigits =>
      obtain ⟨some, all⟩ := isDigits
      obtain ⟨d, ds, rfl⟩ := List.exists_cons_of_ne_nil some
      rw [List.forall_mem_cons] at all
      obtain ⟨taken, left⟩ := takeDigits_append all.2 fun c mem => (ends c mem).1
      rw [List.cons_append, List.cons_append, takeFraction, if_pos all.1, taken, left]

theorem takeExponent_append {exponent rest : List Char} {power : Option Int}
    (text : ExponentText exponent power) (ends : EndsNumber rest) :
    takeExponent (exponent ++ rest) = (power, rest) := by
  cases text with
  | none =>
      cases rest with
      | nil => rfl
      | cons c rest =>
          obtain ⟨-, -, small, capital⟩ := ends c rfl
          simp [takeExponent, small, capital]
  | @power e sign ds negative isE isSign isDigits =>
      obtain ⟨some, all⟩ := isDigits
      have first : ∀ c ∈ (ds ++ rest).head?, c ≠ '-' ∧ c ≠ '+' := by
        intro c head
        rw [List.head?_append_of_ne_nil _ some] at head
        have digit := all c (List.mem_of_mem_head? head)
        constructor <;> (rintro rfl; revert digit; decide)
      have signed := Number.takeSign_append isSign first
      obtain ⟨taken, left⟩ := takeDigits_append all fun c mem => (ends c mem).1
      rw [List.cons_append, List.append_assoc, takeExponent, signed]
      simp [taken, left, isE, some]

theorem head?_fraction {fraction digits rest : List Char} (text : FractionText fraction digits)
    (ends : ∀ c ∈ rest.head?, Number.isPlainDigit c = false) :
    ∀ c ∈ (fraction ++ rest).head?, Number.isPlainDigit c = false := by
  cases text with
  | none => exact ends
  | digits =>
      rintro c ⟨⟩
      decide

theorem head?_exponent {exponent rest : List Char} {power : Option Int}
    (text : ExponentText exponent power) (ends : EndsNumber rest) :
    ∀ c ∈ (exponent ++ rest).head?, Number.isPlainDigit c = false ∧ c ≠ '.' := by
  cases text with
  | none => exact fun c mem => ⟨(ends c mem).1, (ends c mem).2.1⟩
  | power isE =>
      rintro c ⟨⟩
      rcases isE with rfl | rfl <;> decide

theorem IsWhole.ne_nil {whole : List Char} (h : IsWhole whole) : whole ≠ [] := by
  rcases h with rfl | ⟨⟨some, -⟩, -⟩
  · simp
  · exact some

theorem takeUnsigned_text {negative : Bool} {cs rest : List Char} {value : Json}
    (text : UnsignedText negative cs value) (ends : EndsNumber rest) (start : List Char) :
    takeUnsigned start negative (cs ++ rest) = .ok (value, rest) := by
  cases text with
  | @int whole isWhole short =>
      have behind := takeWhole_append isWhole fun c mem => (ends c mem).1
      have fraction := takeFraction_append .none fun c mem => ⟨(ends c mem).1, (ends c mem).2.1⟩
      have exponent := takeExponent_append .none ends
      rw [List.nil_append] at fraction exponent
      simp [takeUnsigned, behind, fraction, exponent, isWhole.ne_nil, Nat.not_lt.mpr short]
  | @real whole fraction digits exponent power bits isWhole isFraction isExponent real nearest =>
      have third := head?_exponent isExponent ends
      have second := head?_fraction isFraction fun c mem => (third c mem).1
      have whole' : takeWhole (whole ++ (fraction ++ (exponent ++ rest))) = _ :=
        takeWhole_append isWhole second
      have point := takeFraction_append isFraction third
      have behind := takeExponent_append isExponent ends
      have shown : (digits.isEmpty && power.isNone) = false := by
        cases digits with
        | cons => rfl
        | nil =>
            cases power with
            | none => exact absurd rfl (real rfl)
            | some => rfl
      rw [nearest.unique (Number.isNearest_magnitudeBits _ _)]
      simp [takeUnsigned, whole', point, behind, isWhole.ne_nil, shown, Number.nearestReal]

theorem IsWhole.head {whole : List Char} (h : IsWhole whole) :
    ∃ c more, whole = c :: more ∧ Number.isPlainDigit c = true := by
  rcases h with rfl | ⟨⟨some, digits⟩, -⟩
  · exact ⟨'0', [], rfl, by decide⟩
  · obtain ⟨c, more, rfl⟩ := List.exists_cons_of_ne_nil some
    exact ⟨c, more, rfl, digits c List.mem_cons_self⟩

theorem UnsignedText.head {negative : Bool} {cs : List Char} {value : Json}
    (text : UnsignedText negative cs value) :
    ∃ c more, cs = c :: more ∧ Number.isPlainDigit c = true := by
  cases text with
  | int isWhole => exact isWhole.head
  | real isWhole =>
      obtain ⟨c, more, rfl, digit⟩ := isWhole.head
      exact ⟨c, _, rfl, digit⟩

/-- A number is read from its text where the text behind it does not go on with it. -/
theorem takeNumber_text {cs rest : List Char} {value : Json} (text : NumberText cs value)
    (ends : EndsNumber rest) : takeNumber (cs ++ rest) = .ok (value, rest) := by
  cases text with
  | negative text => exact takeUnsigned_text text ends _
  | positive text =>
      obtain ⟨c, more, same, digit⟩ := text.head
      have plain : ∀ other, cs ++ rest ≠ '-' :: other := by
        rintro other minus
        rw [same, List.cons_append] at minus
        rw [(List.cons.inj minus).1] at digit
        revert digit
        decide
      unfold takeNumber
      split
      · next minus => exact absurd minus (plain _)
      · exact takeUnsigned_text text ends _

/-! ### What is taken for a number -/

theorem takeWhole_of_ne {cs : List Char} (h : ∀ rest, cs ≠ '0' :: rest) :
    takeWhole cs = (cs.takeWhile Number.isPlainDigit, cs.dropWhile Number.isPlainDigit) := by
  unfold takeWhole
  split
  · exact absurd rfl (h _)
  · rfl

theorem isWhole_takeWhole {cs : List Char} (some : (takeWhole cs).1 ≠ []) :
    cs = (takeWhole cs).1 ++ (takeWhole cs).2 ∧ IsWhole (takeWhole cs).1 := by
  by_cases zero : ∃ rest, cs = '0' :: rest
  · obtain ⟨rest, rfl⟩ := zero
    exact ⟨rfl, .inl rfl⟩
  · rw [takeWhole_of_ne fun rest same => zero ⟨rest, same⟩] at some ⊢
    refine ⟨List.takeWhile_append_dropWhile.symm, .inr ⟨⟨some, ?_⟩, fun head => ?_⟩⟩
    · exact fun c mem => List.mem_takeWhile_imp mem
    · cases cs with
      | nil => cases head
      | cons c rest =>
          rw [List.takeWhile_cons] at head
          split at head
          · cases head
            exact zero ⟨rest, rfl⟩
          · cases head

theorem exists_fraction (cs : List Char) :
    ∃ fraction, cs = fraction ++ (takeFraction cs).2 ∧ FractionText fraction (takeFraction cs).1 := by
  unfold takeFraction
  split
  · next d rest =>
      split
      · next digit =>
          refine ⟨'.' :: d :: rest.takeWhile Number.isPlainDigit, ?_, .digits ⟨by simp, ?_⟩⟩
          · simp
          · exact List.forall_mem_cons.mpr ⟨digit, fun c mem => List.mem_takeWhile_imp mem⟩
      · exact ⟨[], rfl, .none⟩
  · exact ⟨[], rfl, .none⟩

theorem exists_exponent (cs : List Char) :
    ∃ exponent, cs = exponent ++ (takeExponent cs).2 ∧ ExponentText exponent (takeExponent cs).1 := by
  unfold takeExponent
  split
  · next c rest =>
      obtain ⟨sign, same, isSign⟩ := Number.exists_sign rest
      dsimp only
      split
      · next mark =>
          simp only [Bool.and_eq_true, Bool.or_eq_true, decide_eq_true_eq, Bool.not_eq_true',
            List.isEmpty_eq_false_iff] at mark
          refine ⟨c :: (sign ++ _), ?_, .power mark.1 isSign ⟨mark.2, ?_⟩⟩
          · rw [List.cons_append, List.append_assoc, List.takeWhile_append_dropWhile, ← same]
          · exact fun d mem => List.mem_takeWhile_imp mem
      · exact ⟨[], rfl, .none⟩
  · exact ⟨[], rfl, .none⟩

theorem FractionText.eq_nil {fraction : List Char} (h : FractionText fraction []) :
    fraction = [] := by
  cases h with
  | none => rfl
  | digits isDigits => exact absurd rfl isDigits.1

theorem ExponentText.eq_nil {exponent : List Char} (h : ExponentText exponent Option.none) :
    exponent = [] := by
  cases h
  rfl

theorem takeUnsigned_sound {start cs rest : List Char} {negative : Bool} {value : Json}
    (h : takeUnsigned start negative cs = .ok (value, rest)) :
    ∃ text, cs = text ++ rest ∧ UnsignedText negative text value := by
  unfold takeUnsigned at h
  dsimp only at h
  split at h
  · cases h
  · next some =>
      rw [List.isEmpty_iff] at some
      obtain ⟨whole, isWhole⟩ := isWhole_takeWhole some
      obtain ⟨fraction, behind, isFraction⟩ := exists_fraction (takeWhole cs).2
      obtain ⟨exponent, last, isExponent⟩ := exists_exponent (takeFraction (takeWhole cs).2).2
      have parts : cs = (takeWhole cs).1 ++ (fraction ++ (exponent ++
          (takeExponent (takeFraction (takeWhole cs).2).2).2)) := by
        rw [← last, ← behind, ← whole]
      generalize takeWhole cs = taken at *
      generalize takeFraction taken.2 = point at *
      generalize takeExponent point.2 = power at *
      split at h
      · next int =>
          split at h
          · cases h
          · next short =>
              cases h
              rw [Bool.and_eq_true, List.isEmpty_iff, Option.isNone_iff_eq_none] at int
              rw [int.1] at isFraction
              rw [int.2] at isExponent
              obtain rfl := isFraction.eq_nil
              obtain rfl := isExponent.eq_nil
              exact ⟨taken.1, parts, .int isWhole (Nat.le_of_not_lt short)⟩
      · next real =>
          cases h
          refine ⟨taken.1 ++ (fraction ++ exponent), by simpa using parts, ?_⟩
          have visible : point.1 = [] → power.1 ≠ Option.none := by
            intro none isNone
            exact real (by rw [none, isNone]; rfl)
          exact .real isWhole isFraction isExponent visible (Number.isNearest_magnitudeBits _ _)

theorem takeNumber_sound {cs rest : List Char} {value : Json}
    (h : takeNumber cs = .ok (value, rest)) : ∃ text, cs = text ++ rest ∧ NumberText text value := by
  unfold takeNumber at h
  split at h
  · obtain ⟨text, rfl, isText⟩ := takeUnsigned_sound h
    exact ⟨'-' :: text, rfl, .negative isText⟩
  · obtain ⟨text, rfl, isText⟩ := takeUnsigned_sound h
    exact ⟨text, rfl, .positive isText⟩

/-! ## Words -/

def words : List (List Char × Json) :=
  [("null".toList, .null), ("true".toList, .bool true), ("false".toList, .bool false),
    ("NaN".toList, .real (Float.ofBits 0x7FF8000000000000)),
    ("Infinity".toList, .real (Float.ofBits 0x7FF0000000000000)),
    ("-Infinity".toList, .real (Float.ofBits 0xFFF0000000000000))]

theorem takeWord?_text {cs : List Char} {value : Json} (word : (cs, value) ∈ words)
    (rest : List Char) : takeWord? (cs ++ rest) = some (value, rest) := by
  simp only [words, List.mem_cons, Prod.mk.injEq, List.not_mem_nil, or_false] at word
  rcases word with ⟨rfl, rfl⟩ | ⟨rfl, rfl⟩ | ⟨rfl, rfl⟩ | ⟨rfl, rfl⟩ | ⟨rfl, rfl⟩ | ⟨rfl, rfl⟩ <;> rfl

theorem takeWord?_sound {cs rest : List Char} {value : Json}
    (h : takeWord? cs = some (value, rest)) :
    ∃ text, cs = text ++ rest ∧ (text, value) ∈ words := by
  have member (i : Nat) (hi : i < words.length) : words[i] ∈ words := List.getElem_mem hi
  unfold takeWord? at h
  split at h
  · cases h
    exact ⟨_, rfl, member 0 (by decide)⟩
  · cases h
    exact ⟨_, rfl, member 1 (by decide)⟩
  · cases h
    exact ⟨_, rfl, member 2 (by decide)⟩
  · cases h
    exact ⟨_, rfl, member 3 (by decide)⟩
  · cases h
    exact ⟨_, rfl, member 4 (by decide)⟩
  · cases h
    exact ⟨_, rfl, member 5 (by decide)⟩
  · cases h

theorem takeWord?_digit {c : Char} (digit : Number.isPlainDigit c = true) (rest : List Char) :
    takeWord? (c :: rest) = none ∧ takeWord? ('-' :: c :: rest) = none := by
  have apart {other : Char} (plain : Number.isPlainDigit other = false) : c ≠ other := by
    rintro rfl
    cases digit.symm.trans plain
  constructor
  · unfold takeWord?
    split
    case h_7 => rfl
    all_goals next same => exact absurd (List.cons.inj same).1 (apart (by decide))
  · unfold takeWord?
    split
    case h_7 => rfl
    case h_6 same =>
      exact absurd (List.cons.inj (List.cons.inj same).2).1 (apart (by decide))
    all_goals next same => cases same

/-- No number begins as a word does. -/
theorem takeWord?_number {cs : List Char} {value : Json} (text : NumberText cs value)
    (rest : List Char) : takeWord? (cs ++ rest) = none := by
  cases text with
  | positive text =>
      obtain ⟨c, more, rfl, digit⟩ := text.head
      exact (takeWord?_digit digit _).1
  | negative text =>
      obtain ⟨c, more, rfl, digit⟩ := text.head
      exact (takeWord?_digit digit _).2

/-! ## Values -/

/-- A value inside of an array or an object, with the spaces around it. -/
structure Inner where
  before : List Char
  spelled : List Char
  after : List Char
  value : Json

namespace Inner

def text (inner : Inner) : List Char :=
  inner.before ++ (inner.spelled ++ inner.after)

def IsSpaced (inner : Inner) : Prop :=
  IsSpaces inner.before ∧ IsSpaces inner.after

end Inner

/-- A member of an object: a name with spaces around it, a colon and a value. -/
structure Named extends Inner where
  beforeName : List Char
  spelledName : List Char
  afterName : List Char
  name : DataText

namespace Named

def text (named : Named) : List Char :=
  named.beforeName ++ (named.spelledName ++ (named.afterName ++ ':' :: named.toInner.text))

def IsSpelled (named : Named) : Prop :=
  IsSpaces named.beforeName ∧ StringText named.spelledName named.name ∧ IsSpaces named.afterName ∧
    named.toInner.IsSpaced

def pair (named : Named) : DataText × Json :=
  (named.name, named.value)

end Named

def commas (texts : List (List Char)) : List Char :=
  List.intercalate [','] texts

/-- The text of a value. Of several members with one name the last one counts. -/
inductive ValueText : List Char → Json → Prop
  | word {cs : List Char} {value : Json} : (cs, value) ∈ words → ValueText cs value
  | number {cs : List Char} {value : Json} : NumberText cs value → ValueText cs value
  | string {cs : List Char} {s : DataText} : StringText cs s → ValueText cs (.string s)
  | emptyArray {inside : List Char} : IsSpaces inside → ValueText ('[' :: (inside ++ [']'])) (.array [])
  | array {items : List Inner} : items ≠ [] → (∀ item ∈ items, item.IsSpaced) →
      (∀ item ∈ items, ValueText item.spelled item.value) →
        ValueText ('[' :: (commas (items.map Inner.text) ++ [']'])) (.array (items.map Inner.value))
  | emptyObject {inside : List Char} :
      IsSpaces inside → ValueText ('\x7b' :: (inside ++ ['\x7d'])) (.object [])
  | object {members : List Named} : members ≠ [] → (∀ member ∈ members, member.IsSpelled) →
      (∀ member ∈ members, ValueText member.spelled member.value) →
        ValueText ('\x7b' :: (commas (members.map Named.text) ++ ['\x7d']))
          (.object (Members.ofPairs (members.map Named.pair)))

/-- A text that holds one value and nothing else but spaces. -/
inductive Document : String → Json → Prop
  | spaced {text : String} {before spelled after : List Char} {value : Json} :
      text.toList = before ++ (spelled ++ after) → IsSpaces before → IsSpaces after →
        ValueText spelled value → Document text value

end Json

end TickBound
