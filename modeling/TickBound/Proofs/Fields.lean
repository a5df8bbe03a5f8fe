import Mathlib.Data.List.TakeWhile
import TickBound.Text.Blank
import TickBound.Text.Line

/-!
# Fields and parts of a line

The fields of a text are its words: what stands before the first of them is dropped, and a word goes on up
to the next character that is none of a word. The parts of a text stand between all occurrences of a
separator, so parts without a separator come back as they were put together.
-/

namespace TickBound

namespace Text

/-! ## Fields -/

section

variable {p : Char → Bool} {cs gap word rest : List Char} {more : List (List Char)}

def IsWord (p : Char → Bool) (word : List Char) : Prop :=
  word ≠ [] ∧ ∀ c ∈ word, p c = false

theorem fieldsBy_blank {c : Char} (blank : p c = true) (rest : List Char) :
    fieldsBy p (c :: rest) = fieldsBy p rest :=
  if_pos blank

theorem fieldsBy_solid {c : Char} (solid : p c = false) (rest : List Char) :
    fieldsBy p (c :: rest) =
      match rest, fieldsBy p rest with
      | d :: _, field :: more => if p d then [c] :: field :: more else (c :: field) :: more
      | _, more => [c] :: more :=
  if_neg (by simp [solid])

theorem fieldsBy_gap (blank : ∀ c ∈ gap, p c = true) (rest : List Char) :
    fieldsBy p (gap ++ rest) = fieldsBy p rest := by
  induction gap with
  | nil => rfl
  | cons c gap ih =>
      rw [List.forall_mem_cons] at blank
      rw [List.cons_append, fieldsBy_blank blank.1, ih blank.2]

/-- A character in front of a character of a word begins the field of that word. -/
theorem fieldsBy_cons_cons {c d : Char} (first : p c = false) (second : p d = false)
    (fields : fieldsBy p (d :: rest) = word :: more) :
    fieldsBy p (c :: d :: rest) = (c :: word) :: more := by
  rw [fieldsBy_solid first, fields]
  exact if_neg (by simp [second])

/-- A word is a field of its own if no character of a word follows it. -/
theorem fieldsBy_word (isWord : IsWord p word) (ended : ∀ c ∈ rest.head?, p c = true) :
    fieldsBy p (word ++ rest) = word :: fieldsBy p rest := by
  obtain ⟨some, solid⟩ := isWord
  induction word with
  | nil => exact absurd rfl some
  | cons c word ih =>
      rw [List.forall_mem_cons] at solid
      cases word with
      | cons d word =>
          rw [List.forall_mem_cons] at solid
          have behind := ih (by simp) (List.forall_mem_cons.mpr solid.2)
          exact fieldsBy_cons_cons solid.1 solid.2.1 behind
      | nil =>
          rw [List.singleton_append, fieldsBy_solid solid.1]
          cases rest with
          | nil => rfl
          | cons d rest =>
              cases fieldsBy p (d :: rest) with
              | nil => rfl
              | cons field more => exact if_pos (ended d (by simp))

theorem fieldsBy_singleton (isWord : IsWord p word) : fieldsBy p word = [word] := by
  have alone : fieldsBy p (word ++ []) = word :: fieldsBy p [] := fieldsBy_word isWord (by simp)
  rwa [List.append_nil] at alone

theorem fieldsBy_word_cons (isWord : IsWord p word) {c : Char} (blank : p c = true)
    (rest : List Char) : fieldsBy p (word ++ c :: rest) = word :: fieldsBy p rest := by
  rw [fieldsBy_word isWord (by simpa using blank), fieldsBy_blank blank]

/-- There is no word in a text, or a first one. -/
theorem exists_word (p : Char → Bool) (cs : List Char) :
    (∀ c ∈ cs, p c = true) ∨
      ∃ gap word rest, cs = gap ++ (word ++ rest) ∧ (∀ c ∈ gap, p c = true) ∧ IsWord p word ∧
        ∀ c ∈ rest.head?, p c = true := by
  let behind := cs.dropWhile p
  have whole : cs = cs.takeWhile p ++ behind := List.takeWhile_append_dropWhile.symm
  have split : behind = behind.takeWhile (fun c => !p c) ++ behind.dropWhile (fun c => !p c) :=
    List.takeWhile_append_dropWhile.symm
  cases begins : behind with
  | nil =>
      left
      rw [whole, begins, List.append_nil]
      exact fun c mem => List.mem_takeWhile_imp mem
  | cons d tail =>
      right
      have solid : p d = false := by
        have first : cs.dropWhile p = d :: tail := begins
        have head := List.head?_dropWhile_not p cs
        rw [first] at head
        simpa using head
      refine ⟨cs.takeWhile p, behind.takeWhile fun c => !p c, behind.dropWhile fun c => !p c, ?_, ?_, ?_, ?_⟩
      · rw [← split]
        exact whole
      · exact fun c mem => List.mem_takeWhile_imp mem
      · constructor
        · simp [begins, solid]
        · intro c mem
          simpa using List.mem_takeWhile_imp mem
      · intro c mem
        have head := List.head?_dropWhile_not (fun c => !p c) behind
        rw [Option.mem_def] at mem
        rw [mem] at head
        simpa using head

theorem fieldsBy_eq_nil : fieldsBy p cs = [] ↔ ∀ c ∈ cs, p c = true := by
  constructor
  · intro none
    rcases exists_word p cs with blank | ⟨gap, word, rest, rfl, blank, isWord, ended⟩
    · exact blank
    · rw [fieldsBy_gap blank, fieldsBy_word isWord ended] at none
      cases none
  · intro blank
    have dropped := fieldsBy_gap blank []
    rwa [List.append_nil] at dropped

/-- The first field of a text is its first word, and the others are those of what follows it. -/
theorem fieldsBy_eq_cons :
    fieldsBy p cs = word :: more ↔
      ∃ gap rest, cs = gap ++ (word ++ rest) ∧ (∀ c ∈ gap, p c = true) ∧ IsWord p word ∧
        (∀ c ∈ rest.head?, p c = true) ∧ fieldsBy p rest = more := by
  constructor
  · intro fields
    rcases exists_word p cs with blank | ⟨gap, own, rest, rfl, blank, isWord, ended⟩
    · rw [fieldsBy_eq_nil.mpr blank] at fields
      cases fields
    · rw [fieldsBy_gap blank, fieldsBy_word isWord ended] at fields
      cases fields
      exact ⟨gap, rest, rfl, blank, isWord, ended, rfl⟩
  · intro split
    obtain ⟨gap, rest, rfl, blank, isWord, ended, rfl⟩ := split
    rw [fieldsBy_gap blank, fieldsBy_word isWord ended]

end

/-! ## Parts -/

section

variable {sep : Char} {parts : List (List Char)}

theorem splitAt_eq_splitOn (sep : Char) (cs : List Char) : splitAt sep cs = cs.splitOn sep := by
  induction cs with
  | nil => simp [splitAt]
  | cons c cs ih =>
      obtain ⟨part, more, split⟩ := List.exists_cons_of_ne_nil (List.splitOn_ne_nil sep cs)
      rw [splitAt, ih, List.splitOn_cons_eq_if_modifyHead, split]
      simp only [beq_iff_eq, List.modifyHead_cons, consLine]

/-- Parts come back as they were put together. -/
theorem splitAt_intercalate (some : parts ≠ []) (apart : ∀ part ∈ parts, sep ∉ part) :
    splitAt sep (List.intercalate [sep] parts) = parts := by
  rw [splitAt_eq_splitOn, List.splitOn_intercalate sep apart some]

/-- There is one more part than there are separators. -/
theorem length_splitAt (sep : Char) (cs : List Char) :
    (splitAt sep cs).length = cs.count sep + 1 := by
  induction cs with
  | nil => rfl
  | cons c cs ih =>
      rw [splitAt, List.count_cons]
      by_cases same : c = sep
      · simp [same, ih]
      · cases split : splitAt sep cs with
        | nil => simp [split] at ih
        | cons part more =>
            rw [split] at ih
            simpa [same, consLine] using ih

end

end Text

end TickBound
