import TickBound.Proofs.Grammar

/-!
# What is read as a data value

A text is read as a value exactly when the grammar says that it is this value. In one direction the text
of a value is taken off whatever follows it, as long as that does not go on with a number; in the other
one, what is taken for a value is its text, at every budget.
-/

namespace TickBound

namespace Json

theorem endsNumber_cons {c : Char}
    (h : Number.isPlainDigit c = false ∧ c ≠ '.' ∧ c ≠ 'e' ∧ c ≠ 'E') (rest : List Char) :
    EndsNumber (c :: rest) := by
  rintro d ⟨⟩
  exact h

/-- Spaces do not go on with a number. -/
theorem endsNumber_append {after rest : List Char} (spaces : IsSpaces after)
    (ends : EndsNumber rest) : EndsNumber (after ++ rest) := by
  cases after with
  | nil => exact ends
  | cons c after =>
      apply endsNumber_cons
      have space := spaces c List.mem_cons_self
      simp only [isSpace, Bool.or_eq_true, decide_eq_true_eq] at space
      rcases space with ((rfl | rfl) | rfl) | rfl <;> decide

@[simp] theorem commas_singleton (text : List Char) : commas [text] = text := by
  simp [commas]

@[simp] theorem commas_cons_cons (text next : List Char) (more : List (List Char)) :
    commas (text :: next :: more) = text ++ ',' :: commas (next :: more) := by
  simp [commas, List.intercalate_cons_cons]

/-! ## From texts to values -/

/-- The value is read from its text, whatever follows that does not go on with a number. -/
def ReadsAs (cs : List Char) (value : Json) : Prop :=
  ∀ {budget : Nat} {rest : List Char}, EndsNumber rest → 2 * (cs ++ rest).length < budget →
    takeValue budget (cs ++ rest) = .ok (value, rest)

def Begins (cs : List Char) : Prop :=
  ∃ c more, cs = c :: more ∧ isSpace c = false ∧ c ≠ ']'

theorem begins_of_digit {c : Char} (digit : Number.isPlainDigit c = true) (more : List Char) :
    Begins (c :: more) := by
  refine ⟨c, more, rfl, ?_, ?_⟩
  · cases space : isSpace c with
    | false => rfl
    | true =>
        simp only [isSpace, Bool.or_eq_true, decide_eq_true_eq] at space
        rcases space with ((rfl | rfl) | rfl) | rfl <;> (revert digit; decide)
  · rintro rfl
    revert digit
    decide

theorem ValueText.begins {cs : List Char} {value : Json} (text : ValueText cs value) : Begins cs := by
  cases text with
  | word isWord =>
      simp only [words, List.mem_cons, Prod.mk.injEq, List.not_mem_nil, or_false] at isWord
      rcases isWord with ⟨rfl, -⟩ | ⟨rfl, -⟩ | ⟨rfl, -⟩ | ⟨rfl, -⟩ | ⟨rfl, -⟩ | ⟨rfl, -⟩ <;>
        exact ⟨_, _, rfl, by decide, by decide⟩
  | number text =>
      cases text with
      | positive text =>
          obtain ⟨c, more, rfl, digit⟩ := text.head
          exact begins_of_digit digit more
      | negative => exact ⟨'-', _, rfl, by decide, by decide⟩
  | string text =>
      cases text with
      | quoted => exact ⟨'"', _, rfl, by decide, by decide⟩
  | emptyArray | array => exact ⟨'[', _, rfl, by decide, by decide⟩
  | emptyObject | object => exact ⟨'\x7b', _, rfl, by decide, by decide⟩

theorem skipSpace_begins {cs : List Char} (begins : Begins cs) (rest : List Char) :
    skipSpace (cs ++ rest) = cs ++ rest := by
  obtain ⟨c, more, rfl, visible, -⟩ := begins
  exact skipSpace_cons visible _

section Steps

variable {budget : Nat} {cs after rest : List Char} {value : Json}

theorem takeItems_last (first : takeValue budget cs = .ok (value, after ++ ']' :: rest))
    (spaces : IsSpaces after) : takeItems (budget + 1) cs = .ok ([value], rest) := by
  have bracket : skipSpace (after ++ ']' :: rest) = ']' :: rest := by
    rw [skipSpace_append spaces, skipSpace_cons (by decide)]
  rw [takeItems, first]
  simp only [bind, Except.bind, bracket]

theorem takeItems_next {more : List Char} {values : List Json}
    (first : takeValue budget cs = .ok (value, after ++ ',' :: more)) (spaces : IsSpaces after)
    (others : takeItems budget (skipSpace more) = .ok (values, rest)) :
    takeItems (budget + 1) cs = .ok (value :: values, rest) := by
  have comma : skipSpace (after ++ ',' :: more) = ',' :: more := by
    rw [skipSpace_append spaces, skipSpace_cons (by decide)]
  rw [takeItems, first]
  simp only [bind, Except.bind, comma, others]

theorem takeMembers_last {name : DataText} {inside : List Char}
    (named : takeName cs = .ok (name, inside))
    (first : takeValue budget inside = .ok (value, after ++ '\x7d' :: rest))
    (spaces : IsSpaces after) : takeMembers (budget + 1) cs = .ok ([(name, value)], rest) := by
  have brace : skipSpace (after ++ '\x7d' :: rest) = '\x7d' :: rest := by
    rw [skipSpace_append spaces, skipSpace_cons (by decide)]
  rw [takeMembers, named]
  simp only [bind, Except.bind, first, brace]

theorem takeMembers_next {name : DataText} {inside more : List Char}
    {members : List (DataText × Json)} (named : takeName cs = .ok (name, inside))
    (first : takeValue budget inside = .ok (value, after ++ ',' :: more)) (spaces : IsSpaces after)
    (others : takeMembers budget (skipSpace more) = .ok (members, rest)) :
    takeMembers (budget + 1) cs = .ok ((name, value) :: members, rest) := by
  have comma : skipSpace (after ++ ',' :: more) = ',' :: more := by
    rw [skipSpace_append spaces, skipSpace_cons (by decide)]
  rw [takeMembers, named]
  simp only [bind, Except.bind, first, comma, others]

end Steps

theorem takeItems_text {items : List Inner} (some : items ≠ [])
    (spaced : ∀ item ∈ items, item.IsSpaced) (begins : ∀ item ∈ items, Begins item.spelled)
    (reads : ∀ item ∈ items, ReadsAs item.spelled item.value) {budget : Nat} {rest : List Char}
    (enough : 2 * (commas (items.map Inner.text) ++ ']' :: rest).length < budget) :
    takeItems (budget + 1) (skipSpace (commas (items.map Inner.text) ++ ']' :: rest)) =
      .ok (items.map Inner.value, rest) := by
  induction items generalizing budget with
  | nil => exact absurd rfl some
  | cons item more ih =>
      rw [List.forall_mem_cons] at spaced begins reads
      obtain ⟨before, after⟩ := spaced.1
      cases more with
      | nil =>
          have text : commas ([item].map Inner.text) ++ ']' :: rest =
              item.before ++ (item.spelled ++ (item.after ++ ']' :: rest)) := by
            simp [Inner.text]
          rw [text] at enough ⊢
          rw [skipSpace_append before, skipSpace_begins begins.1]
          refine takeItems_last (reads.1 ?_ ?_) after
          · exact endsNumber_append after (endsNumber_cons (by decide) rest)
          · simp only [List.length_append] at enough ⊢
            omega
      | cons next more =>
          have text : commas ((item :: next :: more).map Inner.text) ++ ']' :: rest =
              item.before ++ (item.spelled ++ (item.after ++
                ',' :: (commas ((next :: more).map Inner.text) ++ ']' :: rest))) := by
            simp [Inner.text]
          rw [text] at enough ⊢
          simp only [List.length_append, List.length_cons] at enough
          obtain ⟨budget, rfl⟩ : ∃ less, budget = less + 1 := ⟨budget - 1, by omega⟩
          rw [skipSpace_append before, skipSpace_begins begins.1]
          refine takeItems_next (reads.1 ?_ ?_) after (ih (by simp) spaced.2 begins.2 reads.2 ?_)
          · exact endsNumber_append after (endsNumber_cons (by decide) _)
          · simp only [List.length_append, List.length_cons]
            omega
          · simp only [List.length_append, List.length_cons]
            omega

theorem StringText.head {cs : List Char} {s : DataText} (text : StringText cs s) :
    ∃ more, cs = '"' :: more := by
  cases text
  exact ⟨_, rfl⟩

theorem takeName_text {cs after : List Char} {name : DataText} (text : StringText cs name)
    (spaces : IsSpaces after) (rest : List Char) :
    takeName (cs ++ (after ++ ':' :: rest)) = .ok (name, skipSpace rest) := by
  have taken := takeString_text text (after ++ ':' :: rest)
  have colon : skipSpace (after ++ ':' :: rest) = ':' :: rest := by
    rw [skipSpace_append spaces, skipSpace_cons (by decide)]
  obtain ⟨more, rfl⟩ := text.head
  rw [List.cons_append] at taken ⊢
  rw [takeName, taken]
  simp only [bind, Except.bind, colon]

theorem StringText.begins {cs : List Char} {s : DataText} (text : StringText cs s) : Begins cs := by
  obtain ⟨more, rfl⟩ := text.head
  exact ⟨'"', more, rfl, by decide, by decide⟩

theorem takeMembers_text {members : List Named} (some : members ≠ [])
    (spelled : ∀ member ∈ members, member.IsSpelled)
    (begins : ∀ member ∈ members, Begins member.spelled)
    (reads : ∀ member ∈ members, ReadsAs member.spelled member.value) {budget : Nat}
    {rest : List Char}
    (enough : 2 * (commas (members.map Named.text) ++ '\x7d' :: rest).length < budget) :
    takeMembers (budget + 1) (skipSpace (commas (members.map Named.text) ++ '\x7d' :: rest)) =
      .ok (members.map Named.pair, rest) := by
  induction members generalizing budget with
  | nil => exact absurd rfl some
  | cons member more ih =>
      rw [List.forall_mem_cons] at spelled begins reads
      obtain ⟨ahead, isName, behindName, before, after⟩ := spelled.1
      have named (tail : List Char) :
          takeName (member.spelledName ++ (member.afterName ++
            ':' :: (member.before ++ (member.spelled ++ tail)))) =
              .ok (member.name, member.spelled ++ tail) := by
        rw [takeName_text isName behindName, skipSpace_append before, skipSpace_begins begins.1]
      cases more with
      | nil =>
          have text : commas ([member].map Named.text) ++ '\x7d' :: rest =
              member.beforeName ++ (member.spelledName ++ (member.afterName ++ ':' :: (member.before ++
                (member.spelled ++ (member.after ++ '\x7d' :: rest))))) := by
            simp [Named.text, Inner.text]
          rw [text] at enough ⊢
          rw [skipSpace_append ahead, skipSpace_begins isName.begins]
          refine takeMembers_last (named _) (reads.1 ?_ ?_) after
          · exact endsNumber_append after (endsNumber_cons (by decide) rest)
          · simp only [List.length_append, List.length_cons] at enough ⊢
            omega
      | cons next more =>
          have text : commas ((member :: next :: more).map Named.text) ++ '\x7d' :: rest =
              member.beforeName ++ (member.spelledName ++ (member.afterName ++ ':' :: (member.before ++
                (member.spelled ++ (member.after ++
                  ',' :: (commas ((next :: more).map Named.text) ++ '\x7d' :: rest)))))) := by
            simp [Named.text, Inner.text]
          rw [text] at enough ⊢
          simp only [List.length_append, List.length_cons] at enough
          obtain ⟨budget, rfl⟩ : ∃ less, budget = less + 1 := ⟨budget - 1, by omega⟩
          rw [skipSpace_append ahead, skipSpace_begins isName.begins]
          refine takeMembers_next (named _) (reads.1 ?_ ?_) after
            (ih (by simp) spelled.2 begins.2 reads.2 ?_)
          · exact endsNumber_append after (endsNumber_cons (by decide) _)
          · simp only [List.length_append, List.length_cons]
            omega
          · simp only [List.length_append, List.length_cons]
            omega

/-- What begins with neither a quote nor an opening bracket or brace is a word or a number. -/
theorem takeValue_plain {c : Char} (quote : c ≠ '"') (bracket : c ≠ '[') (brace : c ≠ '\x7b')
    (budget : Nat) (cs : List Char) :
    takeValue (budget + 1) (c :: cs) =
      match takeWord? (c :: cs) with
      | some taken => .ok taken
      | none => takeNumber (c :: cs) := by
  unfold takeValue
  split
  · next same => exact absurd (List.cons.inj same).1 quote
  · next same => exact absurd (List.cons.inj same).1 bracket
  · next same => exact absurd (List.cons.inj same).1 brace
  · rfl

theorem readsAs_word {cs : List Char} {value : Json} (word : (cs, value) ∈ words) :
    ReadsAs cs value := by
  intro budget rest _ enough
  obtain ⟨budget, rfl⟩ := Nat.exists_eq_add_of_lt enough
  have taken := takeWord?_text word rest
  have plain : ∃ c more, cs = c :: more ∧ c ≠ '"' ∧ c ≠ '[' ∧ c ≠ '\x7b' := by
    simp only [words, List.mem_cons, Prod.mk.injEq, List.not_mem_nil, or_false] at word
    rcases word with ⟨rfl, -⟩ | ⟨rfl, -⟩ | ⟨rfl, -⟩ | ⟨rfl, -⟩ | ⟨rfl, -⟩ | ⟨rfl, -⟩ <;>
      exact ⟨_, _, rfl, by decide⟩
  obtain ⟨c, more, rfl, quote, bracket, brace⟩ := plain
  rw [List.cons_append] at taken ⊢
  rw [takeValue_plain quote bracket brace, taken]

theorem readsAs_number {cs : List Char} {value : Json} (text : NumberText cs value) :
    ReadsAs cs value := by
  intro budget rest ends enough
  obtain ⟨budget, rfl⟩ := Nat.exists_eq_add_of_lt enough
  have noWord := takeWord?_number text rest
  have taken := takeNumber_text text ends
  have plain : ∃ c more, cs = c :: more ∧ c ≠ '"' ∧ c ≠ '[' ∧ c ≠ '\x7b' := by
    cases text with
    | negative => exact ⟨'-', _, rfl, by decide⟩
    | positive text =>
        obtain ⟨c, more, same, digit⟩ := text.head
        refine ⟨c, more, same, ?_, ?_, ?_⟩ <;> (rintro rfl; revert digit; decide)
  obtain ⟨c, more, rfl, quote, bracket, brace⟩ := plain
  rw [List.cons_append] at noWord taken ⊢
  rw [takeValue_plain quote bracket brace, noWord, taken]

theorem readsAs_string {cs : List Char} {s : DataText} (text : StringText cs s) :
    ReadsAs cs (.string s) := by
  intro budget rest _ enough
  obtain ⟨budget, rfl⟩ := Nat.exists_eq_add_of_lt enough
  have taken := takeString_text text rest
  obtain ⟨more, rfl⟩ := text.head
  rw [List.cons_append] at taken ⊢
  rw [takeValue, taken]
  rfl

theorem takeValue_items {budget : Nat} {inside rest : List Char} {items : List Json}
    (begins : Begins (skipSpace inside))
    (taken : takeItems budget (skipSpace inside) = .ok (items, rest)) :
    takeValue (budget + 1) ('[' :: inside) = .ok (.array items, rest) := by
  obtain ⟨c, more, same, -, inner⟩ := begins
  rw [takeValue]
  split
  · next bracket =>
      rw [same, List.cons.injEq] at bracket
      exact absurd bracket.1 inner
  · rw [taken]
    rfl

theorem takeValue_members {budget : Nat} {inside rest : List Char}
    {members : List (DataText × Json)} (begins : ∃ more, skipSpace inside = '"' :: more)
    (taken : takeMembers budget (skipSpace inside) = .ok (members, rest)) :
    takeValue (budget + 1) ('\x7b' :: inside) =
      .ok (.object (Members.ofPairs members), rest) := by
  obtain ⟨more, same⟩ := begins
  rw [takeValue]
  split
  · next brace =>
      rw [same, List.cons.injEq] at brace
      exact absurd brace.1 (by decide)
  · rw [taken]
    rfl

theorem readsAs_array {items : List Inner} (some : items ≠ [])
    (spaced : ∀ item ∈ items, item.IsSpaced) (begins : ∀ item ∈ items, Begins item.spelled)
    (reads : ∀ item ∈ items, ReadsAs item.spelled item.value) :
    ReadsAs ('[' :: (commas (items.map Inner.text) ++ [']'])) (.array (items.map Inner.value)) := by
  intro budget rest _ enough
  have text : '[' :: (commas (items.map Inner.text) ++ [']']) ++ rest =
      '[' :: (commas (items.map Inner.text) ++ ']' :: rest) := by simp
  rw [text] at enough ⊢
  rw [List.length_cons] at enough
  obtain ⟨budget, rfl⟩ : ∃ less, budget = less + 2 := ⟨budget - 2, by omega⟩
  refine takeValue_items ?_ (takeItems_text some spaced begins reads (by omega))
  cases items with
  | nil => exact absurd rfl some
  | cons item more =>
      rw [List.forall_mem_cons] at spaced begins
      have first : ∃ tail, commas ((item :: more).map Inner.text) ++ ']' :: rest =
          item.before ++ (item.spelled ++ tail) := by
        cases more with
        | nil => exact ⟨item.after ++ ']' :: rest, by simp [Inner.text]⟩
        | cons next more => exact ⟨_, by simp [Inner.text]; rfl⟩
      obtain ⟨tail, same⟩ := first
      rw [same, skipSpace_append spaced.1.1, skipSpace_begins begins.1]
      obtain ⟨c, cs, spelled, other⟩ := begins.1
      exact ⟨c, cs ++ tail, by rw [spelled, List.cons_append], other⟩

theorem readsAs_object {members : List Named} (some : members ≠ [])
    (spelled : ∀ member ∈ members, member.IsSpelled)
    (begins : ∀ member ∈ members, Begins member.spelled)
    (reads : ∀ member ∈ members, ReadsAs member.spelled member.value) :
    ReadsAs ('\x7b' :: (commas (members.map Named.text) ++ ['\x7d']))
      (.object (Members.ofPairs (members.map Named.pair))) := by
  intro budget rest _ enough
  have text : '\x7b' :: (commas (members.map Named.text) ++ ['\x7d']) ++ rest =
      '\x7b' :: (commas (members.map Named.text) ++ '\x7d' :: rest) := by simp
  rw [text] at enough ⊢
  rw [List.length_cons] at enough
  obtain ⟨budget, rfl⟩ : ∃ less, budget = less + 2 := ⟨budget - 2, by omega⟩
  refine takeValue_members ?_ (takeMembers_text some spelled begins reads (by omega))
  cases members with
  | nil => exact absurd rfl some
  | cons member more =>
      rw [List.forall_mem_cons] at spelled
      have first : ∃ tail, commas ((member :: more).map Named.text) ++ '\x7d' :: rest =
          member.beforeName ++ (member.spelledName ++ tail) := by
        cases more with
        | nil => exact ⟨_, by simp [Named.text]; rfl⟩
        | cons next more => exact ⟨_, by simp [Named.text]; rfl⟩
      obtain ⟨tail, same⟩ := first
      rw [same, skipSpace_append spelled.1.1, skipSpace_begins spelled.1.2.1.begins]
      obtain ⟨cs, quote⟩ := spelled.1.2.1.head
      exact ⟨cs ++ tail, by rw [quote, List.cons_append]⟩

theorem readsAs_empty {inside : List Char} (spaces : IsSpaces inside) :
    ReadsAs ('[' :: (inside ++ [']'])) (.array []) ∧
      ReadsAs ('\x7b' :: (inside ++ ['\x7d'])) (.object []) := by
  constructor
  · intro budget rest _ enough
    obtain ⟨budget, rfl⟩ := Nat.exists_eq_add_of_lt enough
    have bracket : skipSpace (inside ++ ']' :: rest) = ']' :: rest := by
      rw [skipSpace_append spaces, skipSpace_cons (by decide)]
    rw [List.cons_append, List.append_assoc, List.singleton_append, takeValue]
    simp only [bracket]
  · intro budget rest _ enough
    obtain ⟨budget, rfl⟩ := Nat.exists_eq_add_of_lt enough
    have brace : skipSpace (inside ++ '\x7d' :: rest) = '\x7d' :: rest := by
      rw [skipSpace_append spaces, skipSpace_cons (by decide)]
    rw [List.cons_append, List.append_assoc, List.singleton_append, takeValue]
    simp only [brace]

/-- A value is read from its text. -/
theorem ValueText.readsAs {cs : List Char} {value : Json} (text : ValueText cs value) :
    ReadsAs cs value := by
  induction text with
  | word isWord => exact readsAs_word isWord
  | number isNumber => exact readsAs_number isNumber
  | string isString => exact readsAs_string isString
  | emptyArray spaces => exact (readsAs_empty spaces).1
  | array some spaced values reads =>
      exact readsAs_array some spaced (fun item mem => (values item mem).begins) reads
  | emptyObject spaces => exact (readsAs_empty spaces).2
  | object some spelled values reads =>
      exact readsAs_object some spelled (fun member mem => (values member mem).begins) reads

/-! ## From values to texts -/

theorem bind_ok {ε α β : Type} {x : Except ε α} {f : α → Except ε β} {b : β}
    (h : x >>= f = .ok b) : ∃ a, x = .ok a ∧ f a = .ok b := by
  cases x with
  | ok a => exact ⟨a, rfl, h⟩
  | error fault => cases h

theorem takeName_sound {cs rest : List Char} {name : DataText}
    (h : takeName cs = .ok (name, rest)) :
    ∃ spelled after before, cs = spelled ++ (after ++ ':' :: (before ++ rest)) ∧
      StringText spelled name ∧ IsSpaces after ∧ IsSpaces before := by
  unfold takeName at h
  split at h
  · next inside =>
      obtain ⟨⟨s, behind⟩, string, h⟩ := bind_ok h
      obtain ⟨spelled, same, isString⟩ := takeString_sound string
      obtain ⟨after, split, isAfter⟩ := exists_spaces behind
      dsimp only at h
      split at h
      · next more colon =>
          cases h
          obtain ⟨before, gap, isBefore⟩ := exists_spaces more
          refine ⟨spelled, after, before, ?_, isString, isAfter, isBefore⟩
          rw [same, split, colon, ← gap]
      · cases h
  · cases h

def TakesValues (budget : Nat) : Prop :=
  ∀ {cs rest : List Char} {value : Json}, takeValue budget cs = .ok (value, rest) →
    ∃ text, cs = text ++ rest ∧ ValueText text value

/-- What is taken for the items of an array, with the spaces ahead of it, is their text. -/
def TakesItems (budget : Nat) : Prop :=
  ∀ {cs rest : List Char} {values : List Json},
    takeItems budget (skipSpace cs) = .ok (values, rest) →
      ∃ items : List Inner, cs = commas (items.map Inner.text) ++ ']' :: rest ∧ items ≠ [] ∧
        (∀ item ∈ items, item.IsSpaced) ∧ (∀ item ∈ items, ValueText item.spelled item.value) ∧
          values = items.map Inner.value

def TakesMembers (budget : Nat) : Prop :=
  ∀ {cs rest : List Char} {pairs : List (DataText × Json)},
    takeMembers budget (skipSpace cs) = .ok (pairs, rest) →
      ∃ members : List Named, cs = commas (members.map Named.text) ++ '\x7d' :: rest ∧ members ≠ [] ∧
        (∀ member ∈ members, member.IsSpelled) ∧
          (∀ member ∈ members, ValueText member.spelled member.value) ∧
            pairs = members.map Named.pair

theorem takesItems_succ {budget : Nat} (takesValues : TakesValues budget)
    (takesItems : TakesItems budget) : TakesItems (budget + 1) := by
  intro cs rest values h
  obtain ⟨before, ahead, isBefore⟩ := exists_spaces cs
  rw [takeItems] at h
  obtain ⟨⟨value, behind⟩, first, h⟩ := bind_ok h
  obtain ⟨text, same, isText⟩ := takesValues first
  obtain ⟨after, gap, isAfter⟩ := exists_spaces behind
  dsimp only at h
  split at h
  · next bracket =>
      cases h
      refine ⟨[⟨before, text, after, value⟩], ?_, by simp, ?_, ?_, rfl⟩
      · rw [bracket] at gap
        rw [ahead, same, gap]
        simp [Inner.text]
      · simpa using ⟨isBefore, isAfter⟩
      · simpa using isText
  · next more comma =>
      obtain ⟨⟨others, last⟩, taken, h⟩ := bind_ok h
      cases h
      obtain ⟨items, split, some, spaced, isTexts, rfl⟩ := takesItems taken
      obtain ⟨item, items, rfl⟩ := List.exists_cons_of_ne_nil some
      refine ⟨⟨before, text, after, value⟩ :: item :: items, ?_, by simp, ?_, ?_, rfl⟩
      · rw [comma, split] at gap
        rw [ahead, same, gap]
        simp [Inner.text]
      · exact List.forall_mem_cons.mpr ⟨⟨isBefore, isAfter⟩, spaced⟩
      · exact List.forall_mem_cons.mpr ⟨isText, isTexts⟩
  · cases h

theorem takesMembers_succ {budget : Nat} (takesValues : TakesValues budget)
    (takesMembers : TakesMembers budget) : TakesMembers (budget + 1) := by
  intro cs rest pairs h
  obtain ⟨ahead, spaces, isAhead⟩ := exists_spaces cs
  rw [takeMembers] at h
  obtain ⟨⟨name, inside⟩, named, h⟩ := bind_ok h
  obtain ⟨spelled, behindName, before, begin, isName, isBehind, isBefore⟩ := takeName_sound named
  dsimp only at h
  obtain ⟨⟨value, behind⟩, first, h⟩ := bind_ok h
  obtain ⟨text, same, isText⟩ := takesValues first
  obtain ⟨after, gap, isAfter⟩ := exists_spaces behind
  dsimp only at h
  have isSpelled : (⟨⟨before, text, after, value⟩, ahead, spelled, behindName, name⟩ : Named).IsSpelled :=
    ⟨isAhead, isName, isBehind, isBefore, isAfter⟩
  split at h
  · next brace =>
      cases h
      refine ⟨[⟨⟨before, text, after, value⟩, ahead, spelled, behindName, name⟩], ?_, by simp, ?_, ?_,
        rfl⟩
      · rw [brace] at gap
        rw [spaces, begin, same, gap]
        simp [Named.text, Inner.text]
      · simpa using isSpelled
      · simpa using isText
  · next more comma =>
      obtain ⟨⟨others, last⟩, taken, h⟩ := bind_ok h
      cases h
      obtain ⟨members, split, some, areSpelled, isTexts, rfl⟩ := takesMembers taken
      obtain ⟨member, members, rfl⟩ := List.exists_cons_of_ne_nil some
      refine ⟨⟨⟨before, text, after, value⟩, ahead, spelled, behindName, name⟩ :: member :: members, ?_,
        by simp, ?_, ?_, rfl⟩
      · rw [comma, split] at gap
        rw [spaces, begin, same, gap]
        simp [Named.text, Inner.text]
      · exact List.forall_mem_cons.mpr ⟨isSpelled, areSpelled⟩
      · exact List.forall_mem_cons.mpr ⟨isText, isTexts⟩
  · cases h

theorem takesValues_succ {budget : Nat} (takesItems : TakesItems budget)
    (takesMembers : TakesMembers budget) : TakesValues (budget + 1) := by
  intro cs rest value h
  unfold takeValue at h
  split at h
  · obtain ⟨⟨s, behind⟩, string, h⟩ := bind_ok h
    cases h
    obtain ⟨text, same, isString⟩ := takeString_sound string
    exact ⟨text, same, .string isString⟩
  · next inside =>
      split at h
      · next after bracket =>
          cases h
          obtain ⟨spaces, gap, isSpaces⟩ := exists_spaces inside
          exact ⟨'[' :: (spaces ++ [']']), by rw [gap, bracket]; simp, .emptyArray isSpaces⟩
      · obtain ⟨⟨items, behind⟩, taken, h⟩ := bind_ok h
        cases h
        obtain ⟨items, same, some, spaced, isTexts, rfl⟩ := takesItems taken
        exact ⟨'[' :: (commas (items.map Inner.text) ++ [']']), by rw [same]; simp,
          .array some spaced isTexts⟩
  · next inside =>
      split at h
      · next after brace =>
          cases h
          obtain ⟨spaces, gap, isSpaces⟩ := exists_spaces inside
          exact ⟨'\x7b' :: (spaces ++ ['\x7d']), by rw [gap, brace]; simp, .emptyObject isSpaces⟩
      · obtain ⟨⟨pairs, behind⟩, taken, h⟩ := bind_ok h
        cases h
        obtain ⟨members, same, some, spelled, isTexts, rfl⟩ := takesMembers taken
        exact ⟨'\x7b' :: (commas (members.map Named.text) ++ ['\x7d']), by rw [same]; simp,
          .object some spelled isTexts⟩
  · split at h
    · next taken word =>
        cases h
        obtain ⟨text, same, isWord⟩ := takeWord?_sound word
        exact ⟨text, same, .word isWord⟩
    · obtain ⟨text, same, isNumber⟩ := takeNumber_sound h
      exact ⟨text, same, .number isNumber⟩

/-- Whatever the budget, what is taken for values is their texts. -/
theorem takes_sound (budget : Nat) :
    TakesValues budget ∧ TakesItems budget ∧ TakesMembers budget := by
  induction budget with
  | zero => exact ⟨nofun, nofun, nofun⟩
  | succ budget ih =>
      obtain ⟨values, items, members⟩ := ih
      exact ⟨takesValues_succ items members, takesItems_succ values items,
        takesMembers_succ values members⟩

/-! ## Documents -/

theorem readChars_text {before spelled after : List Char} {value : Json} (isBefore : IsSpaces before)
    (isAfter : IsSpaces after) (text : ValueText spelled value) :
    readChars (before ++ (spelled ++ after)) = .ok value := by
  have behind : skipSpace after = [] := List.dropWhile_eq_nil_iff.mpr isAfter
  have ends : EndsNumber after := by
    rw [← List.append_nil after]
    exact endsNumber_append isAfter (by simp [EndsNumber])
  have taken {budget : Nat} (enough : 2 * (spelled ++ after).length < budget) :
      takeValue budget (spelled ++ after) = .ok (value, after) :=
    text.readsAs ends enough
  unfold readChars
  split
  · next more mark =>
      -- a value does not begin with the mark, and a space is none
      cases before with
      | cons c before =>
          have space := isBefore c List.mem_cons_self
          rw [(List.cons.inj mark).1] at space
          cases space
      | nil =>
          rw [List.nil_append] at mark
          rw [mark] at taken
          cases taken (Nat.lt_succ_self _)
  · rw [skipSpace_append isBefore, skipSpace_begins text.begins, taken]
    · simp only [bind, Except.bind, behind]
    · simp only [enoughSteps, List.length_append]
      omega

theorem readChars_sound {cs : List Char} {value : Json} (h : readChars cs = .ok value) :
    ∃ before spelled after, cs = before ++ (spelled ++ after) ∧ IsSpaces before ∧ IsSpaces after ∧
      ValueText spelled value := by
  unfold readChars at h
  split at h
  · cases h
  · obtain ⟨⟨found, rest⟩, taken, h⟩ := bind_ok h
    obtain ⟨spelled, same, isText⟩ := (takes_sound _).1 taken
    obtain ⟨before, ahead, isBefore⟩ := exists_spaces cs
    obtain ⟨after, behind, isAfter⟩ := exists_spaces rest
    dsimp only at h
    split at h
    · next none =>
        cases h
        rw [none, List.append_nil] at behind
        rw [same, behind] at ahead
        exact ⟨before, spelled, after, ahead, isBefore, isAfter, isText⟩
    · cases h

/-- The reader accepts just the texts of the grammar, and reads the values that they are. -/
theorem read_eq_ok {text : String} {value : Json} : read text = .ok value ↔ Document text value := by
  have chars : read text = .ok value ↔ readChars text.toList = .ok value := by
    rw [read]
    cases readChars text.toList <;> simp [Except.mapError]
  rw [chars]
  constructor
  · intro h
    obtain ⟨before, spelled, after, same, isBefore, isAfter, isText⟩ := readChars_sound h
    exact .spaced same isBefore isAfter isText
  · rintro ⟨same, isBefore, isAfter, isText⟩
    rw [same]
    exact readChars_text isBefore isAfter isText

/-! ## Objects -/

def last? (pairs : List (DataText × Json)) (name : DataText) : Option Json :=
  (pairs.reverse.find? (·.1 = name)).map Prod.snd

namespace Members

theorem get?_put (members : Members) (name : DataText) (value : Json) (key : DataText) :
    get? (put members name value) key = if name = key then some value else get? members key := by
  induction members with
  | nil => rfl
  | cons member more ih =>
      obtain ⟨other, old⟩ := member
      rw [put]
      split
      · next same =>
          subst same
          simp only [get?]
          split <;> rfl
      · next apart =>
          simp only [get?, ih]
          split
          · next first => rw [if_neg (fun second => apart (first.trans second.symm))]
          · rfl

/-- Of several members with one name the last one counts. -/
theorem get?_ofPairs (pairs : List (DataText × Json)) (name : DataText) :
    get? (ofPairs pairs) name = last? pairs name := by
  induction pairs using List.reverseRecOn with
  | nil => rfl
  | append_singleton pairs pair ih =>
      have last : ofPairs (pairs ++ [pair]) = put (ofPairs pairs) pair.1 pair.2 := by
        simp [ofPairs]
      rw [last, get?_put, last?, List.reverse_append, List.reverse_singleton, List.singleton_append,
        List.find?_cons]
      by_cases same : pair.1 = name
      · simp [same]
      · rw [if_neg same, ih, last?]
        simp [same]

end Members

/-- A text that holds one object and nothing else but spaces, and the members in their order. -/
inductive ObjectText : String → List (DataText × Json) → Prop
  | empty {text : String} {before inside after : List Char} :
      text.toList = before ++ ('\x7b' :: (inside ++ ['\x7d']) ++ after) → IsSpaces before →
        IsSpaces inside → IsSpaces after → ObjectText text []
  | members {text : String} {before after : List Char} {members : List Named} :
      text.toList = before ++ ('\x7b' :: (commas (members.map Named.text) ++ ['\x7d']) ++ after) →
        IsSpaces before → IsSpaces after → members ≠ [] → (∀ member ∈ members, member.IsSpelled) →
          (∀ member ∈ members, ValueText member.spelled member.value) →
            ObjectText text (members.map Named.pair)

theorem document_object {text : String} {members : Members} :
    Document text (.object members) ↔ ∃ pairs, ObjectText text pairs ∧ members = Members.ofPairs pairs := by
  constructor
  · rintro ⟨same, isBefore, isAfter, isText⟩
    cases isText with
    | word isWord => simp [words] at isWord
    | number isNumber => cases isNumber with | positive isNumber | negative isNumber => cases isNumber
    | emptyObject isInside => exact ⟨[], .empty same isBefore isInside isAfter, rfl⟩
    | object some spelled values => exact ⟨_, .members same isBefore isAfter some spelled values, rfl⟩
  · rintro ⟨pairs, isObject, rfl⟩
    cases isObject with
    | empty same isBefore isInside isAfter =>
        exact .spaced same isBefore isAfter (.emptyObject isInside)
    | members same isBefore isAfter some spelled values =>
        exact .spaced same isBefore isAfter (.object some spelled values)

end Json

end TickBound
