import TickBound.Number.Integer
import TickBound.Proofs.Numerals
import TickBound.Proofs.Trimming

/-!
# Texts of numbers

What all texts of numbers have in common: blanks around them, a sign, digits of any script and single
underscores between digits.
-/

namespace TickBound

namespace Number

variable {base : Nat}

/-! ## Characters -/

/-- The character is the digit `d` of the base: a decimal digit of any script, or from ten on a Latin
letter. -/
def DigitOf (base : Nat) (c : Char) (d : Nat) : Prop :=
  d < base ∧
    (Text.decimalDigit? c = some d ∨
      10 ≤ d ∧ d < 36 ∧ (c.toNat = 0x37 + d ∨ c.toNat = 0x57 + d))

theorem decimalDigit?_lt {c : Char} {d : Nat} (h : Text.decimalDigit? c = some d) : d < 10 := by
  unfold Text.decimalDigit? at h
  simp only at h
  split at h
  · split at h
    · next digit =>
        simp only [Option.some.injEq, Bool.and_eq_true, decide_eq_true_eq] at h digit
        omega
    · cases h
  · obtain ⟨first, found, rfl⟩ := Option.map_eq_some_iff.mp h
    have within := List.find?_some found
    simp only [Bool.and_eq_true, decide_eq_true_eq] at within
    omega

theorem decimalDigit?_of_basic {c : Char} (basic : c.toNat < 0x80) :
    Text.decimalDigit? c =
      if 0x30 ≤ c.toNat ∧ c.toNat ≤ 0x39 then some (c.toNat - 0x30) else none := by
  simp [Text.decimalDigit?, basic]

theorem plainDigit_of_digit {c : Char} {d : Nat} (h : Text.decimalDigit? c = some d) :
    plainDigit c = digitChar d := by
  rw [plainDigit, h]

theorem plainDigit_of_none {c : Char} (h : Text.decimalDigit? c = none) : plainDigit c = c := by
  rw [plainDigit, h]

/-- A character that is no digit is the plain form of itself only. -/
theorem plainDigit_eq_iff {c other : Char} (apart : ∀ d < 10, digitChar d ≠ other)
    (none : Text.decimalDigit? other = none) : plainDigit c = other ↔ c = other := by
  cases h : Text.decimalDigit? c with
  | some d =>
      rw [plainDigit_of_digit h]
      constructor
      · intro same
        exact absurd same (apart d (decimalDigit?_lt h))
      · rintro rfl
        cases h.symm.trans none
  | none => rw [plainDigit_of_none h]

/-- A zero of any script has the basic zero as its plain form. -/
theorem plainDigit_eq_zero {c : Char} : plainDigit c = '0' ↔ Text.decimalDigit? c = some 0 := by
  have chars : ∀ d < 10, digitChar d = '0' → d = 0 := by decide
  cases h : Text.decimalDigit? c with
  | some d =>
      rw [plainDigit_of_digit h]
      constructor
      · intro same
        rw [chars d (decimalDigit?_lt h) same]
      · intro same
        cases same
        rfl
  | none =>
      rw [plainDigit_of_none h]
      constructor
      · rintro rfl
        cases h
      · rintro ⟨⟩

theorem digitIn?_eq_some {c : Char} {d : Nat} :
    digitIn? base c = some d ↔
      d < base ∧ (d < 10 ∧ c.toNat = 0x30 + d ∨
        10 ≤ d ∧ d < 36 ∧ (c.toNat = 0x37 + d ∨ c.toNat = 0x57 + d)) := by
  simp only [digitIn?, Option.filter_eq_some_iff, decide_eq_true_eq, Bool.and_eq_true]
  split
  · simp only [Option.some.injEq]
    omega
  · split
    · simp only [Option.some.injEq]
      omega
    · split
      · simp only [Option.some.injEq]
        omega
      · simp only [reduceCtorEq, false_and, false_iff]
        omega

theorem toNat_digitChar_of_lt : ∀ d < 10, (digitChar d).toNat = 0x30 + d := by
  decide

/-- The plain form of a character is a digit of the basic script where the character is one of its own
script, and letters are their own plain forms. -/
theorem digitIn?_plainDigit {c : Char} {d : Nat} :
    digitIn? base (plainDigit c) = some d ↔ DigitOf base c d := by
  rw [digitIn?_eq_some, DigitOf]
  refine and_congr_right fun _ => ?_
  cases h : Text.decimalDigit? c with
  | some e =>
      have small := decimalDigit?_lt h
      have plain := toNat_digitChar_of_lt e small
      rw [plainDigit_of_digit h, plain, Option.some.injEq]
      by_cases basic : c.toNat < 0x80
      · rw [decimalDigit?_of_basic basic] at h
        split at h
        · omega
        · cases h
      · omega
  | none =>
      rw [plainDigit_of_none h]
      by_cases basic : c.toNat < 0x80
      · rw [decimalDigit?_of_basic basic] at h
        split at h
        · cases h
        · simp only [reduceCtorEq, false_or]
          omega
      · simp only [reduceCtorEq, false_or]
        omega

/-! ## Digits -/

/-- Digits in a base, with at most one underscore between two of them. -/
inductive DigitsText (base : Nat) : List Char → List Nat → Prop
  | one {c : Char} {d : Nat} : DigitOf base c d → DigitsText base [c] [d]
  | next {c : Char} {d : Nat} {cs : List Char} {ds : List Nat} :
      DigitOf base c d → DigitsText base cs ds → DigitsText base (c :: cs) (d :: ds)
  | spaced {c : Char} {d : Nat} {cs : List Char} {ds : List Nat} :
      DigitOf base c d → DigitsText base cs ds → DigitsText base (c :: '_' :: cs) (d :: ds)

theorem plainDigit_eq_underscore {c : Char} : plainDigit c = '_' ↔ c = '_' :=
  plainDigit_eq_iff (by decide) (by decide)

/-- A character that is neither a decimal digit nor a Latin letter is no digit. -/
theorem not_digitOf {c : Char} (none : Text.decimalDigit? c = none)
    (other : c.toNat < 0x41 ∨ 0x5A < c.toNat ∧ c.toNat < 0x61 ∨ 0x7A < c.toNat) {d : Nat} :
    ¬ DigitOf base c d := by
  rw [DigitOf, none]
  simp only [reduceCtorEq, false_or]
  omega

theorem not_digitOf_underscore {d : Nat} : ¬ DigitOf base '_' d :=
  not_digitOf (by decide) (by decide)

theorem DigitsText.head {cs : List Char} {ds : List Nat} (h : DigitsText base cs ds) :
    ∃ c rest d, cs = c :: rest ∧ DigitOf base c d := by
  cases h with
  | one digit | next digit | spaced digit => exact ⟨_, _, _, rfl, digit⟩

theorem DigitsText.last {cs : List Char} {ds : List Nat} (h : DigitsText base cs ds) :
    ∀ c ∈ cs.getLast?, ∃ d, DigitOf base c d := by
  induction h with
  | one digit =>
      intro c last
      obtain rfl : _ = c := by simpa using last
      exact ⟨_, digit⟩
  | next digit rest ih =>
      obtain ⟨e, more, _, rfl, -⟩ := rest.head
      exact ih
  | spaced digit rest ih =>
      obtain ⟨e, more, _, rfl, -⟩ := rest.head
      exact ih

theorem digitRun?_cons {c : Char} {cs : List Char} (more : cs ≠ []) :
    digitRun? base (c :: cs) =
      (digitIn? base c).bind fun d => (digitRun? base (afterMark cs)).map (d :: ·) := by
  simp only [Option.map_eq_bind]
  unfold afterMark
  split
  · rw [digitRun?]
    rfl
  · next plain =>
      rw [digitRun?]
      · rfl
      · exact more
      · exact plain

theorem afterMark_of_ne {cs : List Char} (h : ∀ rest, cs ≠ '_' :: rest) : afterMark cs = cs := by
  unfold afterMark
  split
  · exact absurd rfl (h _)
  · rfl

theorem not_digitsText_underscore {rest : List Char} {ds : List Nat} :
    ¬ DigitsText base ('_' :: rest) ds := by
  intro digits
  cases digits with
  | one digit | next digit | spaced digit => exact not_digitOf_underscore digit

theorem DigitsText.afterMark {cs : List Char} {ds : List Nat} (h : DigitsText base cs ds) :
    afterMark cs = cs :=
  afterMark_of_ne fun _ same => not_digitsText_underscore (same ▸ h)

theorem afterMark_plain (cs : List Char) :
    afterMark (cs.map plainDigit) = (afterMark cs).map plainDigit := by
  cases cs with
  | nil => rfl
  | cons c cs =>
      by_cases underscore : c = '_'
      · rw [underscore]
        rfl
      · have plain : plainDigit c ≠ '_' := fun same => underscore (plainDigit_eq_underscore.mp same)
        rw [List.map_cons, afterMark_of_ne (by simp [plain]), afterMark_of_ne (by simp [underscore]),
          List.map_cons]

/-- A first digit is read, and then the others behind an underscore or none. -/
theorem digitRun?_cons_plain {c : Char} {cs : List Char} (more : cs ≠ []) {ds : List Nat} :
    digitRun? base ((c :: cs).map plainDigit) = some ds ↔
      ∃ d es, DigitOf base c d ∧
        digitRun? base ((afterMark cs).map plainDigit) = some es ∧ d :: es = ds := by
  rw [List.map_cons, digitRun?_cons (by simpa using more), afterMark_plain]
  simp only [Option.bind_eq_some_iff, Option.map_eq_some_iff, digitIn?_plainDigit,
    exists_and_left]

/-- The digits of a text are read whatever script they are of. -/
theorem digitRun?_plain {cs : List Char} {ds : List Nat} :
    digitRun? base (cs.map plainDigit) = some ds ↔ DigitsText base cs ds := by
  constructor
  · intro run
    induction cs using digitRun?.induct generalizing ds with
    | case1 => cases run
    | case2 c =>
        obtain ⟨d, digit, rfl⟩ := Option.map_eq_some_iff.mp run
        exact .one (digitIn?_plainDigit.mp digit)
    | case3 c rest ih =>
        obtain ⟨d, es, digit, others, rfl⟩ := (digitRun?_cons_plain (by simp)).mp run
        exact .spaced digit (ih others)
    | case4 c rest more plain ih =>
        obtain ⟨d, es, digit, others, rfl⟩ := (digitRun?_cons_plain more).mp run
        rw [afterMark_of_ne plain] at others
        exact .next digit (ih others)
  · intro digits
    induction digits with
    | one digit =>
        rw [List.map_singleton, digitRun?, digitIn?_plainDigit.mpr digit]
        rfl
    | @next c d cs ds digit rest ih =>
        have more : cs ≠ [] := by
          obtain ⟨e, more, f, rfl, -⟩ := rest.head
          simp
        exact (digitRun?_cons_plain more).mpr ⟨d, ds, digit, by rwa [rest.afterMark], rfl⟩
    | @spaced c d cs ds digit rest ih =>
        exact (digitRun?_cons_plain (by simp)).mpr ⟨d, ds, digit, ih, rfl⟩

/-- Behind the letter of a mark the digits are read, and there may be one underscore before them. -/
theorem digitRun?_afterMark {cs : List Char} {ds : List Nat} :
    digitRun? base ((afterMark cs).map plainDigit) = some ds ↔
      DigitsText base cs ds ∨ ∃ rest, cs = '_' :: rest ∧ DigitsText base rest ds := by
  rw [digitRun?_plain]
  by_cases underscore : ∃ rest, cs = '_' :: rest
  · obtain ⟨rest, rfl⟩ := underscore
    simp [afterMark, not_digitsText_underscore]
  · simp only [not_exists] at underscore
    simp [afterMark_of_ne underscore, underscore]

/-- Behind a first digit comes another one or an underscore. -/
theorem DigitsText.second {c e : Char} {cs : List Char} {ds : List Nat}
    (h : DigitsText base (c :: e :: cs) ds) : e = '_' ∨ ∃ d, DigitOf base e d := by
  cases h with
  | next _ rest =>
      obtain ⟨e', more, d, same, digit⟩ := rest.head
      obtain ⟨rfl, -⟩ := List.cons.inj same
      exact .inr ⟨d, digit⟩
  | spaced => exact .inl rfl

/-! ## Signs -/

theorem plainDigit_eq_minus {c : Char} : plainDigit c = '-' ↔ c = '-' :=
  plainDigit_eq_iff (by decide) (by decide)

theorem plainDigit_eq_plus {c : Char} : plainDigit c = '+' ↔ c = '+' :=
  plainDigit_eq_iff (by decide) (by decide)

theorem takeSign_plain (cs : List Char) :
    takeSign (cs.map plainDigit) = ((takeSign cs).1, (takeSign cs).2.map plainDigit) := by
  cases cs with
  | nil => rfl
  | cons c cs =>
      by_cases minus : c = '-'
      · rw [minus]
        rfl
      · by_cases plus : c = '+'
        · rw [plus]
          rfl
        · rw [List.map_cons, takeSign_of_ne (mt plainDigit_eq_minus.mp minus)
            (mt plainDigit_eq_plus.mp plus), takeSign_of_ne minus plus, List.map_cons]

/-! ## Blanks -/

theorem decimalDigit?_blank {c : Char} (h : Text.isBlank c = true) :
    Text.decimalDigit? c = none := by
  have blanks : ∀ n ∈ List.range' 0x09 5 ++ List.range' 0x1C 5 ++ List.range' 0x2000 11 ++
      [0x85, 0xA0, 0x1680, 0x2028, 0x2029, 0x202F, 0x205F, 0x3000],
      Text.decimalDigit? (Char.ofNat n) = none := by
    decide
  rw [← c.ofNat_toNat]
  apply blanks
  simp only [Text.isBlank, Bool.or_eq_true, Bool.and_eq_true, decide_eq_true_eq, beq_iff_eq] at h
  simp only [List.mem_append, List.mem_range'_1, List.mem_cons, List.not_mem_nil, or_false]
  omega

theorem DigitOf.isBlank_eq_false {c : Char} {d : Nat} (h : DigitOf base c d) :
    Text.isBlank c = false := by
  cases blank : Text.isBlank c with
  | false => rfl
  | true =>
      refine absurd h (not_digitOf (decimalDigit?_blank blank) ?_)
      simp only [Text.isBlank, Bool.or_eq_true, Bool.and_eq_true, decide_eq_true_eq,
        beq_iff_eq] at blank
      omega

theorem isNumberBlank_eq_false {c : Char} (h : Text.isBlank c = false) : isNumberBlank c = false := by
  rw [isNumberBlank, h, Bool.false_and]

theorem DigitOf.not_blank {c : Char} {d : Nat} (h : DigitOf base c d) :
    isNumberBlank c = false :=
  isNumberBlank_eq_false h.isBlank_eq_false

theorem DigitOf.not_sign {c : Char} {d : Nat} (h : DigitOf base c d) : c ≠ '-' ∧ c ≠ '+' := by
  constructor
  · rintro rfl
    exact not_digitOf (by decide) (by decide) h
  · rintro rfl
    exact not_digitOf (by decide) (by decide) h

/-! ## Texts with a sign between blanks -/

structure IsCompact (cs : List Char) : Prop where
  first : ∃ c rest, cs = c :: rest ∧ Text.isBlank c = false ∧ c ≠ '-' ∧ c ≠ '+'
  last : ∀ c ∈ cs.getLast?, Text.isBlank c = false

theorem DigitsText.isCompact {cs : List Char} {ds : List Nat} (h : DigitsText base cs ds) :
    IsCompact cs where
  first := by
    obtain ⟨c, rest, d, begins, digit⟩ := h.head
    exact ⟨c, rest, begins, digit.isBlank_eq_false, digit.not_sign⟩
  last := by
    intro c ends
    obtain ⟨d, digit⟩ := h.last c ends
    exact digit.isBlank_eq_false

/-- Behind its own first character a compact text may have any other compact text. -/
theorem IsCompact.onto {cs rest : List Char} {c : Char} (h : IsCompact cs)
    (blank : Text.isBlank c = false) (sign : c ≠ '-' ∧ c ≠ '+') : IsCompact (c :: rest ++ cs) where
  first := ⟨c, rest ++ cs, rfl, blank, sign⟩
  last := by
    obtain ⟨e, more, rfl, -⟩ := h.first
    rw [List.getLast?_append_of_ne_nil _ (by simp)]
    exact h.last

theorem IsCompact.ends_of_sign {sign cs : List Char} {negative : Bool} (h : IsCompact cs)
    (isSign : SignText sign negative) :
    (∀ c ∈ (sign ++ cs).head?, Text.isBlank c = false) ∧
      ∀ c ∈ (sign ++ cs).getLast?, Text.isBlank c = false := by
  obtain ⟨e, rest, rfl, blank, -⟩ := h.first
  constructor
  · cases isSign with
    | none => simpa using blank
    | plus | minus => simp; decide
  · rw [List.getLast?_append_of_ne_nil _ (by simp)]
    exact h.last

variable {α : Type} {Body : Bool → List Char → α → Prop}

/-- The text of something with a sign, between blanks: what it stands for depends on the sign, a minus or
none, and on what follows it. -/
inductive SignedText (Body : Bool → List Char → α → Prop) : List Char → α → Prop
  | between {before sign body after : List Char} {negative : Bool} {a : α} :
      (∀ c ∈ before, isNumberBlank c = true) → (∀ c ∈ after, isNumberBlank c = true) →
        SignText sign negative → Body negative body a →
          SignedText Body (before ++ (sign ++ body) ++ after) a

/-- Trimming and taking the sign off find what the text is made of. -/
theorem signedText_iff (compact : ∀ {negative cs a}, Body negative cs a → IsCompact cs)
    {cs : List Char} {a : α} :
    SignedText Body cs a ↔
      Body (takeSign (Text.trimBy isNumberBlank cs)).1 (takeSign (Text.trimBy isNumberBlank cs)).2 a := by
  constructor
  · intro h
    cases h with
    | @between before sign body after negative _ ahead behind isSign isBody =>
        have ends := (compact isBody).ends_of_sign isSign
        rw [Text.trimBy_between ahead behind (fun c first => isNumberBlank_eq_false (ends.1 c first))
          (fun c last => isNumberBlank_eq_false (ends.2 c last))]
        obtain ⟨e, rest, rfl, -, notSign⟩ := (compact isBody).first
        rw [takeSign_append isSign (by simpa using notSign)]
        exact isBody
  · intro isBody
    obtain ⟨before, after, split, ahead, behind⟩ := Text.exists_trimBy isNumberBlank cs
    obtain ⟨sign, signs, isSign⟩ := exists_sign (Text.trimBy isNumberBlank cs)
    have whole : SignedText Body _ a := .between ahead behind isSign isBody
    rwa [← signs, ← split] at whole

end Number

end TickBound
