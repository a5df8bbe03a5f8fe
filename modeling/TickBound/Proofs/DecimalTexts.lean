import TickBound.Proofs.NumberTexts
import TickBound.Proofs.Rounding

/-!
# Texts of floating-point values

Which texts are floating-point values, and which value each of them is: a decimal number with an
optional point and exponent stands for the nearest value, and there are names for infinity and
not-a-number. The reader first drops the underscores and makes all digits plain, so each part of the
grammar is compared with what the reader does to the text that is left.
-/

namespace TickBound

namespace Number

/-! ## The grammar -/

/-- No digits, or some with single underscores between them. -/
inductive PlacesText : List Char → List Nat → Prop
  | none : PlacesText [] []
  | some {cs : List Char} {ds : List Nat} : DigitsText 10 cs ds → PlacesText cs ds

inductive FractionText : List Char → List Nat → Prop
  | none : FractionText [] []
  | point {cs : List Char} {ds : List Nat} : PlacesText cs ds → FractionText ('.' :: cs) ds

inductive ExponentText : List Char → Int → Prop
  | none : ExponentText [] 0
  | power {e : Char} {sign cs : List Char} {negative : Bool} {ds : List Nat} :
      e = 'e' ∨ e = 'E' → SignText sign negative → DigitsText 10 cs ds →
        ExponentText (e :: (sign ++ cs)) (signed negative (ofDigits 10 ds))

/-- The decimal number `n * 10 ^ power`: there are digits before the point or behind it. -/
inductive DecimalText : List Char → Nat → Int → Prop
  | parts {whole fraction exponent : List Char} {ds es : List Nat} {power : Int} :
      PlacesText whole ds → FractionText fraction es → ds ≠ [] ∨ es ≠ [] →
        ExponentText exponent power →
          DecimalText (whole ++ (fraction ++ exponent)) (ofDigits 10 (ds ++ es))
            (power - (es.length : Int))

def Spells (word : String) (cs : List Char) : Prop :=
  cs.map Char.toLower = word.toList

inductive RealBody (negative : Bool) : List Char → Float → Prop
  | decimal {cs : List Char} {n : Nat} {power : Int} {bits : Nat} :
      DecimalText cs n power → IsNearest (n * 10 ^ power) bits →
        RealBody negative cs (ofMagnitude negative bits)
  | infinity {cs : List Char} :
      Spells "inf" cs ∨ Spells "infinity" cs →
        RealBody negative cs
          (if negative then Float.ofBits 0xFFF0000000000000 else Float.ofBits 0x7FF0000000000000)
  | nan {cs : List Char} : Spells "nan" cs → RealBody negative cs (Float.ofBits 0x7FF8000000000000)

/-- The text of a floating-point value. -/
def RealText : List Char → Float → Prop :=
  SignedText RealBody

/-! ## Plain digits without underscores -/

/-- The text in plain digits and without its underscores, each of which must stand between two
digits. -/
def basicText? (cs : List Char) : Option (List Char) :=
  dropUnderscores? false (cs.map plainDigit)

theorem digitOf_ten {c : Char} {d : Nat} : DigitOf 10 c d ↔ Text.decimalDigit? c = some d := by
  constructor
  · rintro ⟨small, digit | letter⟩
    · exact digit
    · omega
  · intro digit
    exact ⟨decimalDigit?_lt digit, .inl digit⟩

theorem isPlainDigit_plainDigit (c : Char) :
    isPlainDigit (plainDigit c) = (Text.decimalDigit? c).isSome := by
  cases h : Text.decimalDigit? c with
  | some d => rw [plainDigit_of_digit h, isPlainDigit_digitChar d (decimalDigit?_lt h)]; rfl
  | none =>
      rw [plainDigit_of_none h, Option.isSome_none, ← Bool.not_eq_true]
      intro digit
      simp only [isPlainDigit, Bool.and_eq_true, decide_eq_true_eq] at digit
      have low : 0x30 ≤ c.toNat := digit.1
      have high : c.toNat ≤ 0x39 := digit.2
      rw [decimalDigit?_of_basic (by omega), if_pos ⟨low, high⟩] at h
      cases h

theorem plainDigit_underscore : plainDigit '_' = '_' :=
  plainDigit_eq_underscore.mpr rfl

theorem dropUnderscores?_cons {c : Char} (plain : c ≠ '_') (after : Bool) (cs : List Char) :
    dropUnderscores? after ((c :: cs).map plainDigit) =
      (dropUnderscores? (Text.decimalDigit? c).isSome (cs.map plainDigit)).map (plainDigit c :: ·) := by
  rw [List.map_cons, dropUnderscores?, isPlainDigit_plainDigit]
  exact mt plainDigit_eq_underscore.mp plain

theorem dropUnderscores?_digit {c : Char} {d : Nat} (h : Text.decimalDigit? c = some d)
    (after : Bool) (cs : List Char) :
    dropUnderscores? after ((c :: cs).map plainDigit) =
      (dropUnderscores? true (cs.map plainDigit)).map (digitChar d :: ·) := by
  have plain : c ≠ '_' := by
    rintro rfl
    exact not_digitOf_underscore (digitOf_ten.mpr h)
  rw [dropUnderscores?_cons plain, h, plainDigit_of_digit h]
  rfl

theorem basicText?_other {c : Char} (h : Text.decimalDigit? c = none) (plain : c ≠ '_')
    (cs : List Char) : basicText? (c :: cs) = (basicText? cs).map (c :: ·) := by
  rw [basicText?, dropUnderscores?_cons plain, h, plainDigit_of_none h]
  rfl

theorem basicText?_nil : basicText? [] = some [] :=
  rfl

theorem basicText?_underscore (cs : List Char) : basicText? ('_' :: cs) = none := by
  rw [basicText?, List.map_cons, plainDigit_underscore]
  cases cs with
  | nil => rfl
  | cons c cs => simp [dropUnderscores?]

/-- Behind a digit an underscore is dropped if another digit follows. -/
theorem dropUnderscores?_gap (c : Char) (cs : List Char) :
    dropUnderscores? true (('_' :: c :: cs).map plainDigit) =
      if (Text.decimalDigit? c).isSome then basicText? (c :: cs) else none := by
  rw [List.map_cons, plainDigit_underscore, List.map_cons, dropUnderscores?, Bool.true_and,
    isPlainDigit_plainDigit]
  rfl

/-- A digit in front matters only to an underscore. -/
theorem dropUnderscores?_eq {cs : List Char} (h : ∀ c ∈ cs.head?, c ≠ '_') (after : Bool) :
    dropUnderscores? after (cs.map plainDigit) = basicText? cs := by
  cases cs with
  | nil => rfl
  | cons c cs =>
      have plain : c ≠ '_' := h c (by simp)
      rw [basicText?, dropUnderscores?_cons plain, dropUnderscores?_cons plain]

/-- What follows a digit begins with an underscore and another digit, or is made plain by itself. -/
theorem dropUnderscores?_after {cs out : List Char}
    (h : dropUnderscores? true (cs.map plainDigit) = some out) :
    basicText? cs = some out ∨
      ∃ c rest d, cs = '_' :: c :: rest ∧ Text.decimalDigit? c = some d ∧
        basicText? (c :: rest) = some out := by
  by_cases underscore : ∃ rest, cs = '_' :: rest
  · obtain ⟨rest, rfl⟩ := underscore
    cases rest with
    | nil =>
        rw [List.map_cons, plainDigit_underscore] at h
        cases h
    | cons c rest =>
        rw [dropUnderscores?_gap] at h
        cases digit : Text.decimalDigit? c with
        | none => simp [digit] at h
        | some d =>
            rw [digit] at h
            exact .inr ⟨c, rest, d, rfl, digit, h⟩
  · refine .inl ((dropUnderscores?_eq ?_ true).symm.trans h)
    intro c first same
    obtain ⟨rest, begins⟩ := List.head?_eq_some_iff.mp first
    exact underscore ⟨rest, same ▸ begins⟩

theorem head_ne_underscore {cs out : List Char} (h : basicText? cs = some out) :
    ∀ c ∈ cs.head?, c ≠ '_' := by
  rintro c first rfl
  obtain ⟨rest, rfl⟩ := List.head?_eq_some_iff.mp first
  rw [basicText?_underscore] at h
  cases h

theorem head?_basicText? {cs out : List Char} (h : basicText? cs = some out) :
    out.head? = cs.head?.map plainDigit := by
  cases cs with
  | nil => cases h; rfl
  | cons c cs =>
      by_cases underscore : c = '_'
      · rw [underscore, basicText?_underscore] at h
        cases h
      · rw [basicText?, dropUnderscores?_cons underscore] at h
        obtain ⟨more, -, rfl⟩ := Option.map_eq_some_iff.mp h
        rfl

/-! ## Digits of a decimal number -/

theorem DigitsText.lt {base : Nat} {cs : List Char} {ds : List Nat} (h : DigitsText base cs ds) :
    ∀ d ∈ ds, d < base := by
  induction h with
  | one digit => simpa using digit.1
  | next digit _ ih | spaced digit _ ih =>
      rw [List.forall_mem_cons]
      exact ⟨digit.1, ih⟩

theorem PlacesText.lt {cs : List Char} {ds : List Nat} (h : PlacesText cs ds) : ∀ d ∈ ds, d < 10 := by
  cases h with
  | none => simp
  | some digits => exact digits.lt

theorem dropUnderscores?_digits {cs : List Char} {ds : List Nat} (h : DigitsText 10 cs ds)
    (after : Bool) (rest : List Char) :
    dropUnderscores? after ((cs ++ rest).map plainDigit) =
      (dropUnderscores? true (rest.map plainDigit)).map (ds.map digitChar ++ ·) := by
  induction h generalizing after with
  | one digit => rw [List.singleton_append, dropUnderscores?_digit (digitOf_ten.mp digit)]; rfl
  | next digit _ ih =>
      rw [List.cons_append, dropUnderscores?_digit (digitOf_ten.mp digit), ih, Option.map_map]
      rfl
  | spaced digit digits ih =>
      obtain ⟨e, more, f, rfl, digit'⟩ := digits.head
      rw [List.cons_append, dropUnderscores?_digit (digitOf_ten.mp digit), List.cons_append,
        List.cons_append, dropUnderscores?_gap, digitOf_ten.mp digit', Option.isSome_some, if_pos rfl,
        basicText?, ← List.cons_append, ih, Option.map_map]
      rfl

/-- Digits and what follows them are made plain apart from each other. -/
theorem basicText?_places {cs rest : List Char} {ds : List Nat} (h : PlacesText cs ds)
    (plain : ∀ c ∈ rest.head?, c ≠ '_') :
    basicText? (cs ++ rest) = (basicText? rest).map (ds.map digitChar ++ ·) := by
  cases h with
  | none => simp
  | some digits => rw [basicText?, dropUnderscores?_digits digits, dropUnderscores?_eq plain]

/-- A text that is made plain begins with all its digits. -/
theorem exists_places {cs out : List Char} (h : basicText? cs = some out) :
    ∃ digits rest ds more, cs = digits ++ rest ∧ PlacesText digits ds ∧ basicText? rest = some more ∧
      out = ds.map digitChar ++ more ∧ ∀ c ∈ more.head?, isPlainDigit c = false := by
  induction size : cs.length using Nat.strong_induction_on generalizing cs out with
  | _ size ih =>
  cases cs with
  | nil =>
      cases h
      exact ⟨[], [], [], [], rfl, .none, rfl, rfl, by simp⟩
  | cons c cs =>
      cases isDigit : Text.decimalDigit? c with
      | none =>
          refine ⟨[], c :: cs, [], out, rfl, .none, h, rfl, ?_⟩
          rw [head?_basicText? h]
          simp [isPlainDigit_plainDigit, isDigit]
      | some d =>
          have digit := digitOf_ten.mpr isDigit
          rw [basicText?, dropUnderscores?_digit isDigit] at h
          obtain ⟨out, run, rfl⟩ := Option.map_eq_some_iff.mp h
          rcases dropUnderscores?_after run with plain | ⟨e, cs, f, rfl, isDigit', spaced⟩
          · obtain ⟨digits, rest, ds, more, rfl, places, others, rfl, stops⟩ :=
              ih _ (by rw [← size]; simp) plain rfl
            refine ⟨c :: digits, rest, d :: ds, more, rfl, ?_, others, rfl, stops⟩
            cases places with
            | none => exact .some (.one digit)
            | some digits => exact .some (.next digit digits)
          · have first := head?_basicText? spaced
            obtain ⟨digits, rest, ds, more, split, places, others, rfl, stops⟩ :=
              ih _ (by rw [← size]; simp) spaced rfl
            rw [split]
            refine ⟨c :: '_' :: digits, rest, d :: ds, more, rfl, ?_, others, rfl, stops⟩
            cases places with
            | none =>
                -- the digit behind the underscore would be left over
                have left := stops (plainDigit e) (by simpa using first)
                rw [isPlainDigit_plainDigit, isDigit'] at left
                cases left
            | some digits => exact .some (.spaced digit digits)

theorem isPlainDigit_of_mem_map {ds : List Nat} (digits : ∀ d ∈ ds, d < 10) :
    ∀ c ∈ ds.map digitChar, isPlainDigit c = true := by
  intro c mem
  obtain ⟨d, digit, rfl⟩ := List.mem_map.mp mem
  exact isPlainDigit_digitChar d (digits d digit)

theorem takeWhile_places {ds : List Nat} (digits : ∀ d ∈ ds, d < 10) {more : List Char}
    (stops : ∀ c ∈ more.head?, isPlainDigit c = false) :
    (ds.map digitChar ++ more).takeWhile isPlainDigit = ds.map digitChar := by
  have none : more.takeWhile isPlainDigit = [] := by
    cases more with
    | nil => rfl
    | cons c more => rw [List.takeWhile_cons, stops c (by simp)]; rfl
  rw [List.takeWhile_append_of_pos (isPlainDigit_of_mem_map digits), none, List.append_nil]

theorem dropWhile_places {ds : List Nat} (digits : ∀ d ∈ ds, d < 10) {more : List Char}
    (stops : ∀ c ∈ more.head?, isPlainDigit c = false) :
    (ds.map digitChar ++ more).dropWhile isPlainDigit = more := by
  rw [List.dropWhile_append_of_pos (isPlainDigit_of_mem_map digits), Text.dropWhile_of_head stops]

theorem plainDigits_map {ds : List Nat} (digits : ∀ d ∈ ds, d < 10) :
    plainDigits (ds.map digitChar) = ofDigits 10 ds := by
  rw [plainDigits, List.map_map]
  congr 1
  apply (List.map_congr_left _).trans (List.map_id _)
  intro d digit
  exact toNat_digitChar d (digits d digit)

/-- The digits of a text are all there is to it when its plain form has nothing else. -/
theorem digitsText_of_all {cs out : List Char} (h : basicText? cs = some out) (some : out ≠ [])
    (all : ∀ c ∈ out, isPlainDigit c = true) :
    ∃ ds, DigitsText 10 cs ds ∧ out = ds.map digitChar := by
  obtain ⟨digits, rest, ds, more, rfl, places, others, rfl, stops⟩ := exists_places h
  have nothing : more = [] := by
    cases more with
    | nil => rfl
    | cons c more =>
        have digit := all c (by simp)
        rw [stops c (by simp)] at digit
        cases digit
  have first := head?_basicText? others
  rw [nothing, List.head?_nil, eq_comm, Option.map_eq_none_iff, List.head?_eq_none_iff] at first
  rw [nothing, List.append_nil] at some
  cases places with
  | none => exact absurd rfl some
  | some digits => exact ⟨ds, by rwa [first, List.append_nil], by rw [nothing, List.append_nil]⟩

/-! ## Exponents -/

theorem basicText?_takeSign (cs : List Char) :
    (basicText? cs).map takeSign =
      (basicText? (takeSign cs).2).map fun out => ((takeSign cs).1, out) := by
  cases cs with
  | nil => rfl
  | cons c cs =>
      by_cases minus : c = '-'
      · rw [minus, basicText?_other (by decide) (by decide), Option.map_map]
        rfl
      · by_cases plus : c = '+'
        · rw [plus, basicText?_other (by decide) (by decide), Option.map_map]
          rfl
        · rw [takeSign_of_ne minus plus]
          refine Option.map_congr fun out h => ?_
          obtain ⟨more, rfl⟩ := List.head?_eq_some_iff.mp (head?_basicText? h)
          exact takeSign_of_ne (mt plainDigit_eq_minus.mp minus) (mt plainDigit_eq_plus.mp plus)

/-- Underscores are no concern of the sign: it may be taken off before they are dropped. -/
theorem basicText?_bind_takeSign {α : Type} (read : Bool → List Char → Option α) (cs : List Char) :
    ((basicText? cs).bind fun out => read (takeSign out).1 (takeSign out).2) =
      (basicText? (takeSign cs).2).bind (read (takeSign cs).1) := by
  have both := congrArg (fun parts => parts.bind fun part => read part.1 part.2)
    (basicText?_takeSign cs)
  rw [Option.bind_map, Option.bind_map] at both
  exact both

theorem DigitsText.ne_nil {base : Nat} {cs : List Char} {ds : List Nat} (h : DigitsText base cs ds) :
    ds ≠ [] := by
  cases h <;> simp

theorem exponent?_eq_some {cs : List Char} {power : Int} :
    (basicText? cs).bind exponent? = some power ↔
      ∃ ds, DigitsText 10 (takeSign cs).2 ds ∧ signed (takeSign cs).1 (ofDigits 10 ds) = power := by
  have apart : (basicText? cs).bind exponent? =
      (basicText? (takeSign cs).2).bind fun ds =>
        if !ds.isEmpty && ds.all isPlainDigit then some (signed (takeSign cs).1 (plainDigits ds))
        else none :=
    basicText?_bind_takeSign (fun negative ds =>
      if !ds.isEmpty && ds.all isPlainDigit then some (signed negative (plainDigits ds))
      else none) cs
  rw [apart, Option.bind_eq_some_iff]
  constructor
  · intro h
    obtain ⟨out, plain, value⟩ := h
    split at value
    · next only =>
        simp only [Bool.and_eq_true, Bool.not_eq_true', List.isEmpty_eq_false_iff,
          List.all_eq_true] at only
        obtain ⟨ds, digits, rfl⟩ := digitsText_of_all plain only.1 only.2
        rw [plainDigits_map digits.lt, Option.some.injEq] at value
        exact ⟨ds, digits, value⟩
    · cases value
  · intro h
    obtain ⟨ds, digits, rfl⟩ := h
    have plain := basicText?_places (.some digits) (by simp : ∀ c ∈ [].head?, c ≠ '_')
    rw [List.append_nil, basicText?_nil, Option.map_some, List.append_nil] at plain
    have only : (!(ds.map digitChar).isEmpty && (ds.map digitChar).all isPlainDigit) = true := by
      simp only [Bool.and_eq_true, Bool.not_eq_true', List.isEmpty_eq_false_iff, List.all_eq_true]
      exact ⟨by simpa using digits.ne_nil, isPlainDigit_of_mem_map digits.lt⟩
    exact ⟨_, plain, by rw [if_pos only, plainDigits_map digits.lt]⟩

/-- Behind the letter of an exponent come a sign or none and its digits. -/
theorem exponentText_cons {c : Char} (isE : c = 'e' ∨ c = 'E') {cs : List Char} {power : Int} :
    ExponentText (c :: cs) power ↔
      ∃ ds, DigitsText 10 (takeSign cs).2 ds ∧ signed (takeSign cs).1 (ofDigits 10 ds) = power := by
  constructor
  · intro h
    cases h with
    | power _ isSign digits =>
        obtain ⟨e, more, d, rfl, digit⟩ := digits.head
        rw [takeSign_append isSign (by simpa using digit.not_sign)]
        exact ⟨_, digits, rfl⟩
  · intro h
    obtain ⟨ds, digits, rfl⟩ := h
    obtain ⟨sign, signs, isSign⟩ := exists_sign cs
    have text := ExponentText.power isE isSign digits
    rwa [← signs] at text

theorem bind_afterDigits?_cons {c : Char} (isE : c = 'e' ∨ c = 'E') (cs : List Char) :
    (basicText? (c :: cs)).bind afterDigits? = (basicText? cs).bind exponent? := by
  have plain : Text.decimalDigit? c = none ∧ c ≠ '_' := by
    rcases isE with rfl | rfl <;> decide
  have behind (out : List Char) : afterDigits? (c :: out) = exponent? out := by
    simp [afterDigits?, isE]
  rw [basicText?_other plain.1 plain.2, Option.bind_map]
  exact Option.bind_congr fun out _ => behind out

/-- What follows the digits of a number is an exponent or nothing. -/
theorem afterDigits?_eq_some {cs : List Char} {power : Int} :
    (basicText? cs).bind afterDigits? = some power ↔ ExponentText cs power := by
  cases cs with
  | nil =>
      constructor
      · intro h
        cases h
        exact .none
      · intro h
        cases h
        rfl
  | cons c cs =>
      by_cases isE : c = 'e' ∨ c = 'E'
      · rw [bind_afterDigits?_cons isE, exponent?_eq_some, exponentText_cons isE]
      · constructor
        · intro h
          obtain ⟨out, plain, read⟩ := Option.bind_eq_some_iff.mp h
          obtain ⟨more, rfl⟩ := List.head?_eq_some_iff.mp (head?_basicText? plain)
          have other : ¬ (plainDigit c = 'e' ∨ plainDigit c = 'E') := by
            rwa [plainDigit_eq_iff (by decide) (by decide), plainDigit_eq_iff (by decide) (by decide)]
          simp [afterDigits?, other] at read
        · intro h
          cases h with
          | power isE' => exact absurd isE' isE

/-! ## Decimal numbers -/

theorem ExponentText.head {cs : List Char} {power : Int} (h : ExponentText cs power) :
    ∀ c ∈ cs.head?, c = 'e' ∨ c = 'E' := by
  cases h with
  | none => simp
  | power isE => simpa using isE

/-- The point and the digits behind it are found, if they are there. -/
theorem exists_fraction {cs out : List Char} (h : basicText? cs = some out) :
    ∃ fraction rest es more, cs = fraction ++ rest ∧ FractionText fraction es ∧
      basicText? rest = some more ∧ fractionPart out = (es.map digitChar, more) := by
  by_cases point : ∃ rest, cs = '.' :: rest
  · obtain ⟨rest, rfl⟩ := point
    rw [basicText?_other (by decide) (by decide)] at h
    obtain ⟨out, behind, rfl⟩ := Option.map_eq_some_iff.mp h
    obtain ⟨digits, rest, es, more, rfl, places, others, rfl, stops⟩ := exists_places behind
    refine ⟨'.' :: digits, rest, es, more, rfl, .point places, others, ?_⟩
    rw [fractionPart, takeWhile_places places.lt stops, dropWhile_places places.lt stops]
  · refine ⟨[], cs, [], out, rfl, .none, h, ?_⟩
    unfold fractionPart
    split
    · next rest =>
        have first := head?_basicText? h
        rw [List.head?_cons, eq_comm, Option.map_eq_some_iff] at first
        obtain ⟨c, first, plain⟩ := first
        rw [plainDigit_eq_iff (by decide) (by decide)] at plain
        obtain ⟨more, begins⟩ := List.head?_eq_some_iff.mp first
        exact absurd ⟨more, plain ▸ begins⟩ point
    · rfl

theorem FractionText.lt {cs : List Char} {es : List Nat} (h : FractionText cs es) :
    ∀ e ∈ es, e < 10 := by
  cases h with
  | none => simp
  | point places => exact places.lt

theorem unsignedReal?_digits {ds es : List Nat} {more last : List Char} (whole : ∀ d ∈ ds, d < 10)
    (stops : ∀ c ∈ more.head?, isPlainDigit c = false)
    (part : fractionPart more = (es.map digitChar, last)) (fraction : ∀ e ∈ es, e < 10) :
    unsignedReal? (ds.map digitChar ++ more) =
      if ds = [] ∧ es = [] then none
      else (afterDigits? last).map fun e => (ofDigits 10 (ds ++ es), e - (es.length : Int)) := by
  have all : ∀ d ∈ ds ++ es, d < 10 := by
    rw [List.forall_mem_append]
    exact ⟨whole, fraction⟩
  rw [unsignedReal?, takeWhile_places whole stops, dropWhile_places whole stops, part]
  simp only [← List.map_append, plainDigits_map all, List.length_map, List.isEmpty_map,
    Bool.and_eq_true, List.isEmpty_iff]

/-- A fraction and an exponent are found in their text, which begins with no digit. -/
theorem fractionPart_text {fraction exponent : List Char} {es : List Nat} {power : Int}
    (isFraction : FractionText fraction es) (isExponent : ExponentText exponent power) :
    ∃ out last, basicText? (fraction ++ exponent) = some out ∧
      (∀ c ∈ out.head?, isPlainDigit c = false) ∧ fractionPart out = (es.map digitChar, last) ∧
      afterDigits? last = some power := by
  obtain ⟨last, plain, tail⟩ := Option.bind_eq_some_iff.mp (afterDigits?_eq_some.mpr isExponent)
  have first : ∀ c ∈ last.head?, c = 'e' ∨ c = 'E' := by
    rw [head?_basicText? plain]
    intro c begins
    obtain ⟨e, head, rfl⟩ := Option.map_eq_some_iff.mp begins
    rcases isExponent.head e head with rfl | rfl <;> decide
  have stops : ∀ c ∈ last.head?, isPlainDigit c = false := by
    intro c begins
    rcases first c begins with rfl | rfl <;> decide
  cases isFraction with
  | none =>
      refine ⟨last, last, plain, stops, ?_, tail⟩
      unfold fractionPart
      split
      · exact absurd (first '.' rfl) (by decide)
      · rfl
  | @point digits es places =>
      refine ⟨'.' :: (es.map digitChar ++ last), last, ?_, by simp; decide, ?_, tail⟩
      · rw [List.cons_append, basicText?_other (by decide) (by decide),
          basicText?_places places (head_ne_underscore plain), plain]
        rfl
      · rw [fractionPart, takeWhile_places places.lt stops, dropWhile_places places.lt stops]

/-- The numbers that are read without a sign are the decimal numbers. -/
theorem unsignedReal?_eq_some {cs : List Char} {n : Nat} {power : Int} :
    (basicText? cs).bind unsignedReal? = some (n, power) ↔ DecimalText cs n power := by
  constructor
  · intro h
    obtain ⟨out, plain, read⟩ := Option.bind_eq_some_iff.mp h
    obtain ⟨whole, rest, ds, more, rfl, places, behind, rfl, stops⟩ := exists_places plain
    obtain ⟨fraction, exponent, es, last, rfl, isFraction, others, part⟩ := exists_fraction behind
    rw [unsignedReal?_digits places.lt stops part isFraction.lt] at read
    split at read
    · cases read
    · next some =>
        obtain ⟨e, tail, value⟩ := Option.map_eq_some_iff.mp read
        cases value
        have isExponent := afterDigits?_eq_some.mp (Option.bind_eq_some_iff.mpr ⟨_, others, tail⟩)
        exact .parts places isFraction (not_and_or.mp some) isExponent
  · intro h
    cases h with
    | parts places isFraction some isExponent =>
        obtain ⟨out, last, plain, stops, part, tail⟩ := fractionPart_text isFraction isExponent
        rw [basicText?_places places (head_ne_underscore plain), plain, Option.map_some,
          Option.bind_some, unsignedReal?_digits places.lt stops part isFraction.lt,
          if_neg (not_and_or.mpr some), tail]
        rfl

/-! ## Names -/

def IsLetter (c : Char) : Prop :=
  0x41 ≤ c.toNat ∧ c.toNat ≤ 0x5A ∨ 0x61 ≤ c.toNat ∧ c.toNat ≤ 0x7A

theorem IsLetter.plain {c : Char} (h : IsLetter c) : Text.decimalDigit? c = none ∧ c ≠ '_' := by
  unfold IsLetter at h
  constructor
  · rw [decimalDigit?_of_basic (by omega), if_neg (by omega)]
  · rintro rfl
    revert h
    decide

def isSmallLetter (c : Char) : Bool :=
  0x61 ≤ c.toNat && c.toNat ≤ 0x7A

/-- Only a Latin letter has a small Latin letter as its small form. -/
theorem isLetter_of_toLower {c : Char} (h : isSmallLetter c.toLower = true) : IsLetter c := by
  simp only [isSmallLetter, Bool.and_eq_true, decide_eq_true_eq] at h
  by_cases capital : c.val ≥ 'A'.val ∧ c.val ≤ 'Z'.val
  · exact .inl capital
  · have same : c.toLower = c := dif_neg capital
    rw [same] at h
    exact .inr h

theorem Spells.isLetter {word : String} {cs : List Char} (h : Spells word cs)
    (small : word.toList.all isSmallLetter = true) : ∀ c ∈ cs, IsLetter c := by
  intro c mem
  refine isLetter_of_toLower (List.all_eq_true.mp small c.toLower ?_)
  rw [← h]
  exact List.mem_map_of_mem mem

theorem basicText?_of_letters {cs : List Char} (h : ∀ c ∈ cs, IsLetter c) :
    basicText? cs = some cs := by
  induction cs with
  | nil => rfl
  | cons c cs ih =>
      rw [List.forall_mem_cons] at h
      rw [basicText?_other h.1.plain.1 h.1.plain.2, ih h.2]
      rfl

theorem eq_of_letters {cs out : List Char} (plain : basicText? cs = some out)
    (h : ∀ c ∈ out, IsLetter c) : cs = out := by
  induction cs generalizing out with
  | nil => cases plain; rfl
  | cons c cs ih =>
      have first := head?_basicText? plain
      obtain ⟨more, rfl⟩ := List.head?_eq_some_iff.mp first
      rw [List.forall_mem_cons] at h
      have letter : Text.decimalDigit? c = none := by
        cases digit : Text.decimalDigit? c with
        | none => rfl
        | some d =>
            have plain' := h.1.plain.1
            rw [plainDigit_of_digit digit] at plain'
            have digits : ∀ d < 10, Text.decimalDigit? (digitChar d) ≠ none := by decide
            exact absurd plain' (digits d (decimalDigit?_lt digit))
      rw [basicText?_other letter (head_ne_underscore plain c rfl), plainDigit_of_none letter] at plain
      obtain ⟨out, rest, same⟩ := Option.map_eq_some_iff.mp plain
      obtain rfl := (List.cons.inj same).2
      rw [ih rest h.2, plainDigit_of_none letter]

/-- A text spells a name exactly when its plain form does. -/
theorem spells_iff {word : String} (small : word.toList.all isSmallLetter = true)
    {cs out : List Char} (plain : basicText? cs = some out) : Spells word out ↔ Spells word cs := by
  constructor
  · intro spells
    rwa [eq_of_letters plain (spells.isLetter small)]
  · intro spells
    rw [basicText?_of_letters (spells.isLetter small), Option.some.injEq] at plain
    rwa [← plain]

theorem not_nan_of_inf {cs : List Char} (h : Spells "inf" cs ∨ Spells "infinity" cs) :
    ¬ Spells "nan" cs := by
  intro nan
  cases h with
  | inl inf => exact absurd (nan.symm.trans inf) (by decide)
  | inr infinity => exact absurd (nan.symm.trans infinity) (by decide)

theorem namedReal?_eq_some {negative : Bool} {cs : List Char} {x : Float} :
    namedReal? negative cs = some x ↔
      (Spells "inf" cs ∨ Spells "infinity" cs) ∧
          (if negative then Float.ofBits 0xFFF0000000000000 else Float.ofBits 0x7FF0000000000000) = x ∨
        Spells "nan" cs ∧ Float.ofBits 0x7FF8000000000000 = x := by
  have name (word : String) : String.ofList (cs.map Char.toLower) = word ↔ Spells word cs := by
    rw [Spells, ← String.toList_inj, String.toList_ofList]
  unfold namedReal?
  dsimp only
  split
  · next infinite =>
      simp only [Bool.or_eq_true, decide_eq_true_eq, name] at infinite
      simp [infinite, not_nan_of_inf infinite]
  · next finite =>
      simp only [Bool.or_eq_true, decide_eq_true_eq, name] at finite
      split
      · next nan => simp [finite, (name _).mp nan]
      · next number => simp [finite, mt (name _).mpr number]

/-! ## What reads as a floating-point value -/

theorem DecimalText.head {cs : List Char} {n : Nat} {power : Int} (h : DecimalText cs n power) :
    ∃ c rest, cs = c :: rest ∧ (c = '.' ∨ ∃ d, DigitOf 10 c d) := by
  cases h with
  | parts places isFraction some =>
      cases places with
      | some digits =>
          obtain ⟨c, rest, d, rfl, digit⟩ := digits.head
          exact ⟨c, _, rfl, .inr ⟨d, digit⟩⟩
      | none =>
          cases isFraction with
          | none => exact absurd some (by simp)
          | point => exact ⟨'.', _, rfl, .inl rfl⟩

/-- No name is a decimal number. -/
theorem unsignedReal?_of_letters {cs : List Char} (h : ∀ c ∈ cs, IsLetter c) :
    unsignedReal? cs = none := by
  by_contra number
  obtain ⟨⟨n, power⟩, read⟩ := Option.ne_none_iff_exists'.mp number
  have text : DecimalText cs n power := by
    rw [← unsignedReal?_eq_some, basicText?_of_letters h]
    exact read
  obtain ⟨c, rest, rfl, first⟩ := text.head
  have letter := h c (by simp)
  rcases first with rfl | ⟨d, digit⟩
  · revert letter
    unfold IsLetter
    decide
  · have none := letter.plain.1
    rw [digitOf_ten.mp digit] at none
    cases none

def bodyReal? (negative : Bool) (rest : List Char) : Option Float :=
  match unsignedReal? rest with
  | some (ds, power) => some (nearestReal negative ds power)
  | none => namedReal? negative rest

theorem real?_eq_bind (cs : List Char) :
    real? cs =
      (basicText? (takeSign (Text.trimBy isNumberBlank cs)).2).bind
        (bodyReal? (takeSign (Text.trimBy isNumberBlank cs)).1) :=
  basicText?_bind_takeSign bodyReal? (Text.trimBy isNumberBlank cs)

/-- A name is its own plain form, and no decimal number. -/
theorem bind_bodyReal?_of_letters {negative : Bool} {cs : List Char} (h : ∀ c ∈ cs, IsLetter c) :
    (basicText? cs).bind (bodyReal? negative) = namedReal? negative cs := by
  rw [basicText?_of_letters h, Option.bind_some, bodyReal?, unsignedReal?_of_letters h]

theorem isLetter_of_inf {cs : List Char} (h : Spells "inf" cs ∨ Spells "infinity" cs) :
    ∀ c ∈ cs, IsLetter c := by
  rcases h with inf | infinity
  · exact inf.isLetter (by decide)
  · exact infinity.isLetter (by decide)

theorem isLetter_of_nan {cs : List Char} (h : Spells "nan" cs) : ∀ c ∈ cs, IsLetter c :=
  h.isLetter (by decide)

theorem bodyReal?_eq_some {negative : Bool} {cs : List Char} {x : Float} :
    (basicText? cs).bind (bodyReal? negative) = some x ↔ RealBody negative cs x := by
  constructor
  · intro h
    obtain ⟨out, plain, read⟩ := Option.bind_eq_some_iff.mp h
    unfold bodyReal? at read
    split at read
    · next ds power decimal =>
        cases read
        have text := unsignedReal?_eq_some.mp (Option.bind_eq_some_iff.mpr ⟨out, plain, decimal⟩)
        exact .decimal text (isNearest_magnitudeBits ds power)
    · rw [namedReal?_eq_some, spells_iff (by decide) plain, spells_iff (by decide) plain,
        spells_iff (by decide) plain] at read
      rcases read with ⟨named, rfl⟩ | ⟨named, rfl⟩
      · exact .infinity named
      · exact .nan named
  · intro h
    cases h with
    | decimal text nearest =>
        obtain ⟨out, plain, read⟩ := Option.bind_eq_some_iff.mp (unsignedReal?_eq_some.mpr text)
        rw [plain, Option.bind_some, bodyReal?, read, nearest.unique (isNearest_magnitudeBits _ _)]
        rfl
    | infinity spells =>
        rw [bind_bodyReal?_of_letters (isLetter_of_inf spells), namedReal?_eq_some]
        exact .inl ⟨spells, rfl⟩
    | nan spells =>
        rw [bind_bodyReal?_of_letters (isLetter_of_nan spells), namedReal?_eq_some]
        exact .inr ⟨spells, rfl⟩

/-! ### Blanks and signs -/

theorem IsLetter.isBlank_eq_false {c : Char} (h : IsLetter c) : Text.isBlank c = false := by
  unfold IsLetter at h
  rw [← Bool.not_eq_true]
  simp only [Text.isBlank, Bool.or_eq_true, Bool.and_eq_true, decide_eq_true_eq, beq_iff_eq]
  omega

theorem isBlank_underscore : Text.isBlank '_' = false := by
  decide

theorem DigitsText.isBlank_eq_false {base : Nat} {cs : List Char} {ds : List Nat}
    (h : DigitsText base cs ds) : ∀ c ∈ cs, Text.isBlank c = false := by
  induction h with
  | one digit => simpa using digit.isBlank_eq_false
  | next digit _ ih => simpa [digit.isBlank_eq_false] using ih
  | spaced digit _ ih => simpa [digit.isBlank_eq_false, isBlank_underscore] using ih

theorem PlacesText.isBlank_eq_false {cs : List Char} {ds : List Nat} (h : PlacesText cs ds) :
    ∀ c ∈ cs, Text.isBlank c = false := by
  cases h with
  | none => simp
  | some digits => exact digits.isBlank_eq_false

theorem FractionText.isBlank_eq_false {cs : List Char} {es : List Nat} (h : FractionText cs es) :
    ∀ c ∈ cs, Text.isBlank c = false := by
  cases h with
  | none => simp
  | point places =>
      rw [List.forall_mem_cons]
      exact ⟨by decide, places.isBlank_eq_false⟩

theorem ExponentText.isBlank_eq_false {cs : List Char} {power : Int} (h : ExponentText cs power) :
    ∀ c ∈ cs, Text.isBlank c = false := by
  cases h with
  | none => simp
  | power isE isSign digits =>
      rw [List.forall_mem_cons, List.forall_mem_append]
      refine ⟨?_, ?_, digits.isBlank_eq_false⟩
      · rcases isE with rfl | rfl <;> decide
      · cases isSign with
        | none => simp
        | plus | minus =>
            rw [List.forall_mem_singleton]
            decide

theorem isCompact_of_mem {c : Char} {rest : List Char}
    (visible : ∀ e ∈ c :: rest, Text.isBlank e = false) (sign : c ≠ '-' ∧ c ≠ '+') :
    IsCompact (c :: rest) where
  first := ⟨c, rest, rfl, visible c (by simp), sign⟩
  last := fun e last => visible e (List.mem_of_getLast? last)

theorem isCompact_of_letters {cs : List Char} (some : cs ≠ []) (h : ∀ c ∈ cs, IsLetter c) :
    IsCompact cs := by
  obtain ⟨c, rest, rfl⟩ := List.exists_cons_of_ne_nil some
  refine isCompact_of_mem (fun e mem => (h e mem).isBlank_eq_false) ?_
  have letter := h c (by simp)
  constructor
  · rintro rfl
    revert letter
    unfold IsLetter
    decide
  · rintro rfl
    revert letter
    unfold IsLetter
    decide

theorem DecimalText.isCompact {cs : List Char} {n : Nat} {power : Int} (h : DecimalText cs n power) :
    IsCompact cs := by
  have visible : ∀ c ∈ cs, Text.isBlank c = false := by
    cases h with
    | parts places isFraction some isExponent =>
        rw [List.forall_mem_append, List.forall_mem_append]
        exact ⟨places.isBlank_eq_false, isFraction.isBlank_eq_false, isExponent.isBlank_eq_false⟩
  obtain ⟨c, rest, rfl, first⟩ := h.head
  refine isCompact_of_mem visible ?_
  rcases first with rfl | ⟨d, digit⟩
  · decide
  · exact digit.not_sign

theorem RealBody.isCompact {negative : Bool} {cs : List Char} {x : Float}
    (h : RealBody negative cs x) : IsCompact cs := by
  cases h with
  | decimal text _ => exact text.isCompact
  | infinity spells =>
      have some : cs ≠ [] := by
        rintro rfl
        rcases spells with spells | spells <;> cases spells
      exact isCompact_of_letters some (isLetter_of_inf spells)
  | nan spells =>
      have some : cs ≠ [] := by
        rintro rfl
        cases spells
      exact isCompact_of_letters some (isLetter_of_nan spells)

/-- The floating-point values that are read are those of the texts of floating-point values. -/
theorem real?_eq_some {cs : List Char} {x : Float} : real? cs = some x ↔ RealText cs x := by
  rw [real?_eq_bind, bodyReal?_eq_some, RealText, signedText_iff RealBody.isCompact]

end Number

end TickBound
