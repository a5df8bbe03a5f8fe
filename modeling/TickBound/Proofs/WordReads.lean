import TickBound.Proofs.Hexadecimal
import TickBound.Proofs.Recognition
import TickBound.Proofs.Waiting

/-!
# Reading a word of memory

A read is one request, and it brings a word exactly when the reply is an object with a hexadecimal
integer under `data`, of which the low 32 bits count. In every other case the read fails, and the session
is what it was.
-/

namespace TickBound

namespace DataText

theorem eq_map_of_wholeChars? {marks : List Mark} {cs : List Char} (h : wholeChars? marks = some cs) :
    marks = cs.map .char := by
  induction marks generalizing cs with
  | nil =>
      cases h
      rfl
  | cons mark marks ih =>
      cases mark with
      | half unit => cases h
      | char c =>
          obtain ⟨rest, others, rfl⟩ := Option.map_eq_some_iff.mp h
          rw [ih others, List.map_cons]

theorem whole?_eq_some {text : DataText} {cs : List Char} :
    text.whole? = some cs ↔ text = ofChars cs := by
  constructor
  · intro h
    exact congrArg DataText.mk (eq_map_of_wholeChars? h)
  · rintro rfl
    exact whole?_ofChars cs

end DataText

/-- The text is an object in which the member that stands last under `data` is the string `digits`. -/
def HoldsDigits (text : String) (digits : List Char) : Prop :=
  ∃ pairs, Json.ObjectText text pairs ∧
    Json.last? pairs "data" = some (.string (.ofChars digits))

namespace Session

theorem wordIn?_eq_some_iff {text : String} {w : Word} :
    wordIn? text = some w ↔
      ∃ members digits n, Json.read text = .ok (.object members) ∧
        Json.Members.get? members "data" = some (.string (.ofChars digits)) ∧
        Number.hexInteger? digits = some n ∧ BitVec.ofInt 32 n = w := by
  constructor
  · intro h
    unfold wordIn? at h
    split at h
    · next members parsed =>
        split at h
        · next digits data =>
            obtain ⟨n, found, word⟩ := Option.map_eq_some_iff.mp h
            obtain ⟨cs, whole, value⟩ := Option.bind_eq_some_iff.mp found
            rw [DataText.whole?_eq_some.mp whole] at data
            exact ⟨members, cs, n, parsed, data, value, word⟩
        · cases h
    · cases h
  · rintro ⟨members, digits, n, parsed, data, value, rfl⟩
    simp [wordIn?, parsed, data, DataText.whole?_ofChars, value]

theorem ofInt_eq_iff {n : Int} {w : Word} :
    BitVec.ofInt 32 n = w ↔ (w.toNat : Int) = n % 0x100000000 := by
  rw [← BitVec.toNat_inj, BitVec.toNat_ofInt]
  omega

/-- The word of a text is the integer of its digits, modulo 2^32. -/
theorem wordIn?_eq_some {text : String} {w : Word} :
    wordIn? text = some w ↔
      ∃ digits n, HoldsDigits text digits ∧ Number.HexText digits n ∧
        (w.toNat : Int) = n % 0x100000000 := by
  rw [wordIn?_eq_some_iff]
  constructor
  · rintro ⟨members, digits, n, parsed, data, value, word⟩
    obtain ⟨pairs, isObject, rfl⟩ := Json.document_object.mp (Json.read_eq_ok.mp parsed)
    rw [Json.Members.get?_ofPairs] at data
    exact ⟨digits, n, ⟨pairs, isObject, data⟩, Number.hexInteger?_eq_some.mp value,
      ofInt_eq_iff.mp word⟩
  · rintro ⟨digits, n, ⟨pairs, isObject, data⟩, value, word⟩
    refine ⟨Json.Members.ofPairs pairs, digits, n, ?_, ?_, Number.hexInteger?_eq_some.mpr value,
      ofInt_eq_iff.mpr word⟩
    · exact Json.read_eq_ok.mpr (Json.document_object.mpr ⟨pairs, isObject, rfl⟩)
    · rw [Json.Members.get?_ofPairs, data]

end Session

namespace Reply

theorem word?_eq_some {reply : Reply} {w : Word} :
    reply.word? = some w ↔
      ∃ text digits n, reply = .answered 200 text ∧ HoldsDigits text digits ∧
        Number.HexText digits n ∧ (w.toNat : Int) = n % 0x100000000 := by
  cases reply with
  | refused reason | broken reason => simp [word?]
  | answered status text =>
      by_cases fine : status = 200
      · simp [word?, fine, Session.wordIn?_eq_some]
      · simp [word?, fine]

end Reply

namespace Session

/-- A read is one request and leaves the session as it was, whatever the reply. It gives a word just where
the reply holds one, and fails in every other case as reads fail, unless the transport breaks down. -/
theorem readWord_exact (address : Int) (c : Connection) :
    let reply := c.link.next.1
    let course := (readWord address).run c
    course.events = [c.sent (.read address)] ∧ course.final.session = c.session ∧
    (∀ w, course.result = .ok w ↔
      ∃ text digits n, reply = .answered 200 text ∧ HoldsDigits text digits ∧
        Number.HexText digits n ∧ (w.toNat : Int) = n % 0x100000000) ∧
    ∀ fault, course.result = .error fault →
      fault.kind? = some .memory ∨
        ∃ reason, reply = .broken reason ∧ fault = .outside (.transport reason) := by
  intro reply course
  have given (w : Word) : reply.word? = some w ↔
      ∃ text digits n, reply = .answered 200 text ∧ HoldsDigits text digits ∧
        Number.HexText digits n ∧ (w.toNat : Int) = n % 0x100000000 := Reply.word?_eq_some
  cases h : reply.word? with
  | some v =>
      have run : course = ⟨.ok v, [c.sent (.read address)], c.behind⟩ := readWord_of_word h address
      rw [run]
      refine ⟨rfl, rfl, fun w => ?_, nofun⟩
      rw [← given w, h, Except.ok.injEq, Option.some.injEq]
  | none =>
      have run : course = ⟨.error (reply.readFault address), [c.sent (.read address)], c.behind⟩ :=
        readWord_of_unread h address
      rw [run]
      refine ⟨rfl, rfl, fun w => ?_, fun fault failed => ?_⟩
      · rw [← given w, h]
        exact ⟨nofun, nofun⟩
      · cases failed
        exact reply.kind?_readFault address

end Session

end TickBound
