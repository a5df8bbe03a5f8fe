import TickBound.Proofs.Readback
import TickBound.Proofs.Traffic
import TickBound.Proofs.WordReads

/-!
# Words on their way

A value that is written is sent as hexadecimal digits, and a read takes the low 32 bits of such digits.
So a value that comes back as it was sent is the same modulo 2^32, except that a minus sign stands among
the digits, where no reader accepts it. Addresses are written as digits, too, and different ones differently.
-/

namespace TickBound

namespace Number

/-! ## Digits that are written -/

theorem digitOf_digitChar {d : Nat} (digit : d < 16) : DigitOf 16 (digitChar d) d := by
  have plain : ∀ d < 16, digitIn? 16 (plainDigit (digitChar d)) = some d := by decide
  exact digitIn?_plainDigit.mp (plain d digit)

theorem digitsText_map {ds : List Nat} (some : ds ≠ []) (digits : ∀ d ∈ ds, d < 16) :
    DigitsText 16 (ds.map digitChar) ds := by
  induction ds with
  | nil => exact absurd rfl some
  | cons d more ih =>
      rw [List.forall_mem_cons] at digits
      have first := digitOf_digitChar digits.1
      cases more with
      | nil => exact .one first
      | cons next more => exact .next first (ih (by simp) digits.2)

theorem paddedDigits_ne_nil (width n : Nat) : paddedDigits 16 width n ≠ [] :=
  List.append_ne_nil_of_right_ne_nil _ (digits_ne_nil (by decide) n)

theorem digitsText_padded (width n : Nat) :
    DigitsText 16 ((paddedDigits 16 width n).map digitChar) (paddedDigits 16 width n) :=
  digitsText_map (paddedDigits_ne_nil width n) fun _ mem => paddedDigits_lt (by decide) mem

/-- Digits behind `0x` are read as the number that was written. -/
theorem hexInteger?_padded (width n : Nat) :
    hexInteger? ('0' :: 'x' :: (paddedDigits 16 width n).map digitChar) = some (n : Int) := by
  have zero : Text.decimalDigit? '0' = some 0 := by decide
  have text := HexText.between (List.forall_mem_nil _) (List.forall_mem_nil _) .none
    (.mark zero (.inl rfl)) (digitsText_padded width n)
  rw [ofDigits_paddedDigits (by decide)] at text
  exact hexInteger?_eq_some.mpr (by simpa [signed] using text)

/-- A minus behind `0x` is no digit, so that there is no integer. -/
theorem hexInteger?_minus (width n : Nat) :
    hexInteger? ('0' :: 'x' :: '-' :: (paddedDigits 16 width n).map digitChar) = none := by
  have digits := digitsText_padded width n
  generalize (paddedDigits 16 width n).map digitChar = cs at digits
  have zero : Text.decimalDigit? '0' = some 0 := by decide
  have first : ∀ c ∈ ('0' :: 'x' :: '-' :: cs).head?, isNumberBlank c = false := by
    rintro c ⟨⟩
    decide
  have last : ∀ c ∈ ('0' :: 'x' :: '-' :: cs).getLast?, isNumberBlank c = false := by
    intro c ends
    obtain ⟨e, more, d, rfl, -⟩ := digits.head
    obtain ⟨f, digit⟩ := digits.last c ends
    exact digit.not_blank
  have whole : Text.trimBy isNumberBlank ('0' :: 'x' :: '-' :: cs) = '0' :: 'x' :: '-' :: cs := by
    simpa using Text.trimBy_between (List.forall_mem_nil _) (List.forall_mem_nil _) first last
  have unread : digitRun? 16 (('-' :: cs).map plainDigit) = none := by
    rw [Option.eq_none_iff_forall_ne_some]
    intro ds run
    obtain ⟨c, rest, d, same, digit⟩ := (digitRun?_plain.mp run).head
    rw [← (List.cons.inj same).1] at digit
    exact digit.not_sign.1 rfl
  have marked := hexNatural?_of_marked zero (.inl rfl) ('-' :: cs)
  have behind : afterMark ('-' :: cs) = '-' :: cs := rfl
  rw [behind, unread] at marked
  rw [hexInteger?, numberText, whole, takeSign_plain]
  exact congrArg (Option.map (signed false)) marked

end Number

namespace Request

/-! ## Words that are sent -/

theorem toList_marked (cs : List Char) : ("0x" ++ String.ofList cs).toList = '0' :: 'x' :: cs := by
  simp

theorem dataText_natCast (n : Nat) :
    (dataText n).toList = '0' :: 'x' :: (Number.paddedDigits 16 8 n).map Number.digitChar := by
  rw [dataText, Number.hexPadded_natCast, toList_marked]

/-- The minus of a negative value stands behind `0x`. -/
theorem dataText_of_neg {v : Int} (neg : v < 0) :
    (dataText v).toList =
      '0' :: 'x' :: '-' :: (Number.paddedDigits 16 7 v.natAbs).map Number.digitChar := by
  rw [dataText, Number.hexPadded, Number.sign, if_pos neg, toList_marked, List.length_singleton,
    Number.padZeros_map rfl]
  rfl

theorem hexInteger?_dataText (v : Int) :
    Number.hexInteger? (dataText v).toList = if 0 ≤ v then some v else none := by
  by_cases nonneg : 0 ≤ v
  · obtain ⟨n, rfl⟩ := Int.eq_ofNat_of_zero_le nonneg
    rw [if_pos nonneg, dataText_natCast]
    exact Number.hexInteger?_padded 8 n
  · rw [if_neg nonneg, dataText_of_neg (Int.not_le.mp nonneg)]
    exact Number.hexInteger?_minus 7 v.natAbs

theorem length_dataText {v : Int} (nonneg : 0 ≤ v) (below : v < 0x100000000) :
    (dataText v).length = 10 := by
  obtain ⟨n, rfl⟩ := Int.eq_ofNat_of_zero_le nonneg
  have small : n < 16 ^ 8 := by omega
  rw [← String.length_toList, dataText_natCast]
  simp [Number.length_paddedDigits (by decide) (by decide) small]

def addressText (address : Int) : String :=
  "0x" ++ Number.hex address

theorem hexInteger?_addressText {address : Int} (nonneg : 0 ≤ address) :
    Number.hexInteger? (addressText address).toList = some address := by
  obtain ⟨n, rfl⟩ := Int.eq_ofNat_of_zero_le nonneg
  have text : (addressText n).toList =
      '0' :: 'x' :: (Number.paddedDigits 16 0 n).map Number.digitChar := by
    rw [addressText, Number.hex, Number.hexPadded_natCast, toList_marked]
  rw [text]
  exact Number.hexInteger?_padded 0 n

theorem place_eq (address value : Int) :
    place (.read address) = "/target/memory/read/" ++ addressText address ∧
      place (.write address value) = "/target/memory/write/" ++ addressText address := by
  unfold place addressText
  constructor <;> (rw [← String.toList_inj]; simp)

theorem addressText_inj {a b : Int} (nonneg : 0 ≤ a) (nonneg' : 0 ≤ b)
    (same : addressText a = addressText b) : a = b := by
  have read := hexInteger?_addressText nonneg
  rw [same, hexInteger?_addressText nonneg'] at read
  exact (Option.some.inj read).symm

theorem url_inj {base : String} {x y : Request} (same : url base x = url base y) :
    place x = place y := by
  rw [url, url, ← String.toList_inj, String.toList_append, String.toList_append] at same
  exact String.toList_inj.mp (List.append_cancel_left same)

/-- Requests go to different places for different addresses. -/
theorem url_ne {a b : Int} (nonneg : 0 ≤ a) (nonneg' : 0 ≤ b) (apart : a ≠ b) (base : String) :
    url base (.read a) ≠ url base (.read b) ∧
      ∀ v w, url base (.write a v) ≠ url base (.write b w) := by
  have cancel {front : String} (same : front ++ addressText a = front ++ addressText b) : False := by
    rw [← String.toList_inj, String.toList_append, String.toList_append] at same
    exact apart (addressText_inj nonneg nonneg' (String.toList_inj.mp (List.append_cancel_left same)))
  constructor
  · intro same
    have places := url_inj same
    rw [(place_eq a 0).1, (place_eq b 0).1] at places
    exact cancel places
  · intro v w same
    have places := url_inj same
    rw [(place_eq a v).2, (place_eq b w).2] at places
    exact cancel places

theorem dataText_inj {v w : Int} (nonneg : 0 ≤ v) (nonneg' : 0 ≤ w)
    (same : dataText v = dataText w) : v = w := by
  have read := hexInteger?_dataText v
  rw [same, hexInteger?_dataText, if_pos nonneg, if_pos nonneg'] at read
  exact (Option.some.inj read).symm

end Request

namespace Session

/-- What a read gives when a value comes back as it is sent. -/
theorem wordIn?_dataText {text : String} {v : Int}
    (spelled : Json.Document text (.object [("data", .string (Request.dataText v))])) :
    wordIn? text = if 0 ≤ v then some (BitVec.ofInt 32 v) else none := by
  have read := Json.read_eq_ok.mpr spelled
  have whole : (DataText.ofString (Request.dataText v)).whole? = some (Request.dataText v).toList :=
    DataText.whole?_ofChars _
  have value := Request.hexInteger?_dataText v
  simp only [wordIn?, read, Json.Members.get?, if_true, whole, Option.bind_some, value]
  by_cases nonneg : 0 ≤ v
  · rw [if_pos nonneg, if_pos nonneg]
    rfl
  · rw [if_neg nonneg, if_neg nonneg]
    rfl

theorem word?_dataText {reply : Reply} {text : String} {v : Int}
    (came : reply = .answered 200 text)
    (spelled : Json.Document text (.object [("data", .string (Request.dataText v))])) :
    reply.word? = if 0 ≤ v then some (BitVec.ofInt 32 v) else none := by
  rw [came, Reply.word?, if_pos rfl, wordIn?_dataText spelled]

/-- A value that comes back as it is sent is read modulo 2^32, and a negative one not at all. -/
theorem readWord_dataText {c : Connection} {text : String} {v : Int}
    (came : c.link.next.1 = .answered 200 text)
    (spelled : Json.Document text (.object [("data", .string (Request.dataText v))]))
    (address : Int) :
    (0 ≤ v → ∃ w, ((readWord address).run c).result = .ok w ∧
      (w.toNat : Int) = v % 0x100000000 ∧ (v < 0x100000000 → (w.toNat : Int) = v)) ∧
    (v < 0 → ((readWord address).run c).result = .error (.memory (.readUnusable address text))) := by
  have word := word?_dataText came spelled
  constructor
  · intro nonneg
    rw [if_pos nonneg] at word
    have value := ofInt_eq_iff.mp (rfl : BitVec.ofInt 32 v = BitVec.ofInt 32 v)
    refine ⟨BitVec.ofInt 32 v, by rw [readWord_of_word word], value, fun below => ?_⟩
    omega
  · intro neg
    rw [if_neg (Int.not_le.mpr neg)] at word
    rw [readWord_of_unread word, came]
    rfl

/-- What is sent for a word comes back as the same word modulo 2^32, in ten characters where it is one of 32
bits. An address is sent as digits that stand for it, and different addresses and values are sent
differently. -/
theorem words_come_back :
    (∀ (c : Connection) (text : String) (address v : Int), c.link.next.1 = .answered 200 text →
      Json.Document text (.object [("data", .string (Request.dataText v))]) →
        (0 ≤ v → ∃ w, ((readWord address).run c).result = .ok w ∧
          (w.toNat : Int) = v % 0x100000000 ∧ (v < 0x100000000 → (w.toNat : Int) = v)) ∧
        (v < 0 →
          ((readWord address).run c).result = .error (.memory (.readUnusable address text)))) ∧
    (∀ v : Int, 0 ≤ v → v < 0x100000000 → (Request.dataText v).length = 10) ∧
    (∀ a : Int, 0 ≤ a → ∃ digits : String, Number.hexInteger? digits.toList = some a ∧
      ∀ base v, Request.url base (.read a) = base ++ ("/target/memory/read/" ++ digits) ∧
        Request.url base (.write a v) = base ++ ("/target/memory/write/" ++ digits)) ∧
    (∀ a b : Int, 0 ≤ a → 0 ≤ b → a ≠ b → ∀ base,
      Request.url base (.read a) ≠ Request.url base (.read b) ∧
        ∀ v w, Request.url base (.write a v) ≠ Request.url base (.write b w)) ∧
    ∀ v w : Int, 0 ≤ v → 0 ≤ w → v ≠ w → ∀ a b,
      Request.body? (.write a v) ≠ Request.body? (.write b w) := by
  refine ⟨fun c text address v came spelled => readWord_dataText came spelled address,
    fun v => Request.length_dataText, fun a nonneg => ?_, fun a b => Request.url_ne, ?_⟩
  · refine ⟨Request.addressText a, Request.hexInteger?_addressText nonneg, fun base v => ?_⟩
    obtain ⟨read, write⟩ := Request.place_eq a v
    exact ⟨by rw [Request.url, read], by rw [Request.url, write]⟩
  · intro v w nonneg nonneg' apart a b same
    simp only [Request.body?, Option.some.injEq, List.cons.injEq, Prod.mk.injEq, true_and,
      and_true] at same
    exact apart (Request.dataText_inj nonneg nonneg' same)

def returning (text : String) : Connection where
  link := { answers := [⟨.answered 200 text, 0⟩] }
  session := { url := "http://192.168.4.1/api" }

def sentText (v : Int) : String :=
  Json.text (.object [("data", .string (Request.dataText v))])

theorem document_sentText (v : Int) :
    Json.Document (sentText v) (.object [("data", .string (Request.dataText v))]) := by
  have sound (s : String) : (DataText.ofString s).IsSound := DataText.isSound_ofChars s.toList
  have same (s : String) : (DataText.ofString s).reread = s := DataText.reread_ofChars s.toList
  have plain : (Json.object [("data", .string (Request.dataText v))]).IsPlain := by
    apply Json.IsPlain.object
    · exact List.forall_mem_singleton.mpr (sound _)
    · exact List.forall_mem_singleton.mpr (.string (sound _))
  have read := Json.read_eq_ok.mp (Json.read_text plain)
  rwa [Json.reread, Json.rereadMembers, Json.rereadMembers, Json.reread, same, same] at read

theorem deadbeef_comes_back :
    ((readWord 0x20000000).run (returning (sentText 0xDEADBEEF))).result = .ok 0xDEADBEEF#32 ∧
      ((readWord 0x20000000).run (returning (sentText (-1)))).result =
        .error (.memory (.readUnusable 0x20000000 (sentText (-1)))) := by
  have reads := words_come_back.1
  obtain ⟨w, ok, -, value⟩ :=
    (reads (returning (sentText 0xDEADBEEF)) _ 0x20000000 _ rfl (document_sentText _)).1 (by decide)
  have same : w = 0xDEADBEEF#32 := BitVec.eq_of_toNat_eq (by have := value (by decide); simp; omega)
  rw [same] at ok
  exact ⟨ok, (reads (returning (sentText (-1))) _ 0x20000000 _ rfl (document_sentText _)).2
    (by decide)⟩

end Session

end TickBound
