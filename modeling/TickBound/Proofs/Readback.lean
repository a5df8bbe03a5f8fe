import TickBound.Proofs.Recognition
import TickBound.Proofs.Spelling

/-!
# Values that are written and read

What is written of a value is a text of this value, but for the halves of pairs in its texts that reading
joins. The text is one line of visible characters and spaces.
-/

namespace TickBound

namespace Json

mutual

/-- The value that comes back when the value is written and read. -/
def reread : Json → Json
  | string s => .string s.reread
  | array items => .array (rereadItems items)
  | object members => .object (Members.ofPairs (rereadMembers members))
  | null => .null
  | bool b => .bool b
  | int n => .int n
  | real x => .real x

def rereadItems : List Json → List Json
  | [] => []
  | item :: more => reread item :: rereadItems more

def rereadMembers : List (DataText × Json) → List (DataText × Json)
  | [] => []
  | (name, value) :: more => (name.reread, reread value) :: rereadMembers more

end

/-- The value has no floating-point number in it and no integer over the limit, and its texts are
sound. -/
inductive IsPlain : Json → Prop
  | null : IsPlain .null
  | bool (b : Bool) : IsPlain (.bool b)
  | int {n : Int} (fits : Number.fitsDecimal n = true) : IsPlain (.int n)
  | string {s : DataText} (sound : s.IsSound) : IsPlain (.string s)
  | array {items : List Json} (plain : ∀ item ∈ items, IsPlain item) : IsPlain (.array items)
  | object {members : Members} (sound : ∀ member ∈ members, member.1.IsSound)
      (plain : ∀ member ∈ members, IsPlain member.2) : IsPlain (.object members)

/-! ## Texts of values -/

theorem isWhole_decimal (n : Nat) : IsWhole (Number.decimalDigits n) := by
  have digits : ∀ c ∈ Number.decimalDigits n, Number.isPlainDigit c = true :=
    fun c => Number.isPlainDigit_of_mem
  obtain ⟨d, more, text, -⟩ := Number.exists_decimalDigits n
  by_cases zero : (Number.decimalDigits n).head? = some '0'
  · rw [text, List.head?_cons, Option.some.injEq] at zero
    rw [zero] at text
    obtain rfl := Number.decimalDigits_of_zero text
    exact .inl text
  · exact .inr ⟨⟨by simp [text], digits⟩, zero⟩

theorem valueText_int {n : Int} (fits : Number.fitsDecimal n = true) :
    ValueText (written (.int n)) (.int n) := by
  have short := Number.length_decimalDigits_le fits
  have unsigned (negative : Bool) :
      UnsignedText negative (Number.decimalDigits n.natAbs)
        (.int (Number.signed negative n.natAbs)) := by
    have text : UnsignedText negative (Number.decimalDigits n.natAbs)
        (.int (Number.signed negative (Number.plainDigits (Number.decimalDigits n.natAbs)))) :=
      .int (isWhole_decimal n.natAbs) short
    rwa [Number.plainDigits_decimalDigits] at text
  rw [written, Number.decimal, String.toList_ofList, Number.sign]
  by_cases negative : n < 0
  · have value : Number.signed true n.natAbs = n := by
      simp only [Number.signed, if_true]
      omega
    have text := NumberText.negative (unsigned true)
    rw [value] at text
    rw [if_pos negative]
    exact .number text
  · have value : Number.signed false n.natAbs = n := by
      simp only [Number.signed, Bool.false_eq_true, if_false]
      omega
    have text := NumberText.positive (unsigned false)
    rw [value] at text
    rw [if_neg negative]
    exact .number text

theorem isSpaces_nil : IsSpaces [] := by
  simp [IsSpaces]

theorem isSpaces_blank : IsSpaces [' '] := by
  simp [IsSpaces, isSpace]

/-! ### Arrays -/

theorem writtenItems_cons (item next : Json) (more : List Json) :
    writtenItems (item :: next :: more) =
      written item ++ ',' :: ' ' :: writtenItems (next :: more) := by
  rw [writtenItems]
  simp

def writtenInner (before : List Char) (item : Json) : Inner :=
  ⟨before, written item, [], reread item⟩

theorem writtenItems_eq (before : List Char) (item : Json) (more : List Json) :
    before ++ writtenItems (item :: more) =
      commas ((writtenInner before item :: more.map (writtenInner [' '])).map Inner.text) := by
  induction more generalizing before item with
  | nil => simp [writtenItems, writtenInner, Inner.text]
  | cons next more ih =>
      have others := ih [' '] next
      simp only [List.map_cons] at others ⊢
      rw [writtenItems_cons, commas_cons_cons, ← others]
      simp [writtenInner, Inner.text]

theorem rereadItems_eq_map (items : List Json) : rereadItems items = items.map reread := by
  induction items with
  | nil => rfl
  | cons item more ih => rw [rereadItems, ih, List.map_cons]

theorem valueText_array {items : List Json}
    (texts : ∀ item ∈ items, ValueText (written item) (reread item)) :
    ValueText (written (.array items)) (reread (.array items)) := by
  rw [written, reread]
  cases items with
  | nil => exact .emptyArray isSpaces_nil
  | cons item more =>
      rw [List.forall_mem_cons] at texts
      have spaced : ∀ inner ∈ writtenInner [] item :: more.map (writtenInner [' ']), inner.IsSpaced := by
        rw [List.forall_mem_cons]
        refine ⟨⟨isSpaces_nil, isSpaces_nil⟩, fun inner mem => ?_⟩
        obtain ⟨other, -, rfl⟩ := List.mem_map.mp mem
        exact ⟨isSpaces_blank, isSpaces_nil⟩
      have spelled : ∀ inner ∈ writtenInner [] item :: more.map (writtenInner [' ']),
          ValueText inner.spelled inner.value := by
        rw [List.forall_mem_cons]
        refine ⟨texts.1, fun inner mem => ?_⟩
        obtain ⟨other, mem', rfl⟩ := List.mem_map.mp mem
        exact texts.2 other mem'
      have values : (more.map (writtenInner [' '])).map Inner.value = rereadItems more := by
        rw [List.map_map, rereadItems_eq_map]
        rfl
      have whole := ValueText.array (List.cons_ne_nil _ _) spaced spelled
      rw [← writtenItems_eq, List.map_cons, values] at whole
      exact whole

/-! ### Objects -/

theorem writtenMembers_cons (name : DataText) (value : Json) (next : DataText × Json)
    (more : Members) :
    writtenMembers ((name, value) :: next :: more) =
      writtenString name ++ ':' :: ' ' ::
        (written value ++ ',' :: ' ' :: writtenMembers (next :: more)) := by
  rw [writtenMembers]
  simp

def writtenNamed (before : List Char) (member : DataText × Json) : Named where
  before := [' ']
  spelled := written member.2
  after := []
  value := reread member.2
  beforeName := before
  spelledName := writtenString member.1
  afterName := []
  name := member.1.reread

theorem writtenMembers_eq (before : List Char) (member : DataText × Json) (more : Members) :
    before ++ writtenMembers (member :: more) =
      commas ((writtenNamed before member :: more.map (writtenNamed [' '])).map Named.text) := by
  induction more generalizing before member with
  | nil => simp [writtenMembers, writtenNamed, Named.text, Inner.text]
  | cons next more ih =>
      have others := ih [' '] next
      simp only [List.map_cons] at others ⊢
      rw [writtenMembers_cons, commas_cons_cons, ← others]
      simp [writtenNamed, Named.text, Inner.text]

theorem rereadMembers_eq_map (members : Members) :
    rereadMembers members = members.map fun member => (member.1.reread, reread member.2) := by
  induction members with
  | nil => rfl
  | cons member more ih => rw [rereadMembers, ih, List.map_cons]

theorem isSpelled_written {before : List Char} (spaces : IsSpaces before)
    {member : DataText × Json} (sound : member.1.IsSound) : (writtenNamed before member).IsSpelled :=
  ⟨spaces, stringText_written sound, isSpaces_nil, isSpaces_blank, isSpaces_nil⟩

theorem valueText_object {members : Members} (sound : ∀ member ∈ members, member.1.IsSound)
    (texts : ∀ member ∈ members, ValueText (written member.2) (reread member.2)) :
    ValueText (written (.object members)) (reread (.object members)) := by
  rw [written, reread]
  cases members with
  | nil => exact .emptyObject isSpaces_nil
  | cons member more =>
      rw [List.forall_mem_cons] at sound texts
      have spelled : ∀ named ∈ writtenNamed [] member :: more.map (writtenNamed [' ']),
          named.IsSpelled := by
        rw [List.forall_mem_cons]
        refine ⟨isSpelled_written isSpaces_nil sound.1, fun named mem => ?_⟩
        obtain ⟨other, mem', rfl⟩ := List.mem_map.mp mem
        exact isSpelled_written isSpaces_blank (sound.2 other mem')
      have values : ∀ named ∈ writtenNamed [] member :: more.map (writtenNamed [' ']),
          ValueText named.spelled named.value := by
        rw [List.forall_mem_cons]
        refine ⟨texts.1, fun named mem => ?_⟩
        obtain ⟨other, mem', rfl⟩ := List.mem_map.mp mem
        exact texts.2 other mem'
      have pairs : (more.map (writtenNamed [' '])).map Named.pair = rereadMembers more := by
        rw [List.map_map, rereadMembers_eq_map]
        rfl
      have whole := ValueText.object (List.cons_ne_nil _ _) spelled values
      rw [← writtenMembers_eq, List.map_cons, pairs] at whole
      exact whole

/-! ### Values -/

/-- What is written of a value is a text of the value that comes back. -/
theorem valueText_written {value : Json} (plain : value.IsPlain) :
    ValueText (written value) (reread value) := by
  induction plain with
  | null => exact .word (by simp [words, written, reread])
  | bool b => cases b <;> exact .word (by simp [words, written, reread])
  | int fits => exact valueText_int fits
  | string sound => exact .string (stringText_written sound)
  | array _ texts => exact valueText_array texts
  | object sound _ texts => exact valueText_object sound texts

/-! ## Visible text -/

theorem visible_decimal (n : Int) : ∀ c ∈ (Number.decimal n).toList, IsVisible c := by
  have digits : ∀ d < 10, IsVisible (Number.digitChar d) := by decide
  have minus : ∀ c ∈ Number.sign n, IsVisible c := by
    unfold Number.sign
    split <;> exact visible_of_all (by decide)
  rw [Number.decimal, String.toList_ofList]
  simp only [List.forall_mem_append]
  refine ⟨minus, fun c mem => ?_⟩
  obtain ⟨d, digit, rfl⟩ := List.mem_map.mp mem
  exact digits d (Number.digits_lt (by decide) digit)

theorem visible_writtenItems {items : List Json}
    (visible : ∀ item ∈ items, ∀ c ∈ written item, IsVisible c) :
    ∀ c ∈ writtenItems items, IsVisible c := by
  induction items with
  | nil => simp [writtenItems]
  | cons item more ih =>
      rw [List.forall_mem_cons] at visible
      have others := ih visible.2
      cases more with
      | nil => simpa [writtenItems] using visible.1
      | cons next more =>
          have comma : IsVisible ',' := by decide
          have space : IsVisible ' ' := by decide
          rw [writtenItems_cons]
          simp only [List.forall_mem_append, List.forall_mem_cons]
          exact ⟨visible.1, comma, space, others⟩

theorem visible_writtenMembers {members : Members}
    (visible : ∀ member ∈ members, ∀ c ∈ written member.2, IsVisible c) :
    ∀ c ∈ writtenMembers members, IsVisible c := by
  have colon : IsVisible ':' := by decide
  have space : IsVisible ' ' := by decide
  induction members with
  | nil => simp [writtenMembers]
  | cons member more ih =>
      obtain ⟨name, value⟩ := member
      rw [List.forall_mem_cons] at visible
      have others := ih visible.2
      have name' := visible_writtenString name
      cases more with
      | nil =>
          rw [writtenMembers]
          simp only [List.forall_mem_append, List.forall_mem_cons]
          exact ⟨name', colon, space, visible.1⟩
      | cons next more =>
          have comma : IsVisible ',' := by decide
          rw [writtenMembers_cons]
          simp only [List.forall_mem_append, List.forall_mem_cons]
          exact ⟨name', colon, space, visible.1, comma, space, others⟩

/-- The text of a value is one line of visible characters and spaces. -/
theorem visible_written {value : Json} (plain : value.IsPlain) :
    ∀ c ∈ written value, IsVisible c := by
  induction plain with
  | null => exact visible_of_all (by decide)
  | bool b => cases b <;> exact visible_of_all (by decide)
  | int fits => exact visible_decimal _
  | string sound => exact visible_writtenString _
  | array plain visible =>
      have bracket : IsVisible '[' ∧ IsVisible ']' := by decide
      rw [written]
      simp only [List.forall_mem_cons, List.forall_mem_append]
      exact ⟨bracket.1, visible_writtenItems visible, bracket.2, by simp⟩
  | object sound plain visible =>
      have brace : IsVisible '\x7b' ∧ IsVisible '\x7d' := by decide
      rw [written]
      simp only [List.forall_mem_cons, List.forall_mem_append]
      exact ⟨brace.1, visible_writtenMembers visible, brace.2, by simp⟩

/-- A value that is written and read comes back with the halves in its texts joined. -/
theorem read_text {value : Json} (plain : value.IsPlain) :
    read (text value) = .ok (reread value) := by
  rw [read_eq_ok]
  refine .spaced ?_ isSpaces_nil isSpaces_nil (valueText_written plain)
  rw [text, String.toList_ofList, List.nil_append, List.append_nil]

end Json

end TickBound
