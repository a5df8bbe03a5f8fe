import Mathlib.Data.List.Induction
import TickBound.Text.Line

/-!
# Lines and their ends

Characters that end no line begin the first line of what follows them, and an end ends the line before
it. So a text is cut at every end, but for a carriage return that takes the line feed behind it into
itself: that is why two texts with a line feed between them have the lines of both, and at most one empty
line more.
-/

namespace TickBound

namespace Text

section

variable {p : Char → Prop} [DecidablePred p]

/-- What is said of the characters of a text is decided by going through the text. -/
instance (priority := high) decidableForallChars (cs : List Char) : Decidable (∀ c ∈ cs, p c) :=
  List.decidableBAll p cs

instance (priority := high) decidableForallChar? (c? : Option Char) : Decidable (∀ c ∈ c?, p c) :=
  decidable_of_iff (∀ c ∈ c?.toList, p c) (by simp)

end

theorem foldr_consLine (cs line : List Char) (more : List (List Char)) :
    cs.foldr consLine (line :: more) = (cs ++ line) :: more := by
  induction cs with
  | nil => rfl
  | cons c cs ih => rw [List.foldr_cons, ih, consLine, List.cons_append]

theorem lines_cons {c : Char} {rest : List Char} (apart : ∀ more, c = '\r' → rest ≠ '\n' :: more) :
    lines (c :: rest) = if isLineEnd c then [] :: lines rest else consLine c (lines rest) := by
  rw [lines]
  exact apart

/-- Characters that end no line begin the first line of what follows. -/
theorem lines_append {cs : List Char} (inside : ∀ c ∈ cs, isLineEnd c = false) (rest : List Char) :
    lines (cs ++ rest) = cs.foldr consLine (lines rest) := by
  induction cs with
  | nil => rfl
  | cons c cs ih =>
      rw [List.forall_mem_cons] at inside
      have other : c ≠ '\r' := by
        rintro rfl
        cases inside.1
      rw [List.cons_append, lines_cons fun _ same => absurd same other, inside.1, ih inside.2]
      rfl

theorem lines_of_inside {cs : List Char} (inside : ∀ c ∈ cs, isLineEnd c = false) :
    lines cs = if cs.isEmpty then [] else [cs] := by
  have whole := lines_append inside []
  rw [List.append_nil] at whole
  rw [whole]
  cases cs using List.reverseRecOn with
  | nil => rfl
  | append_singleton cs c =>
      have last : lines [] = [] := rfl
      rw [last, List.foldr_append, List.foldr_cons, List.foldr_nil, consLine, foldr_consLine]
      simp

inductive LineEnd : List Char → Prop
  | single {c : Char} (h : isLineEnd c = true) : LineEnd [c]
  | both : LineEnd ['\r', '\n']

/-- An end ends the line before it, and may take the next end into itself. -/
theorem lines_end {ending : List Char} (h : LineEnd ending) (text : List Char) :
    ∃ rest, lines (ending ++ text) = [] :: lines rest ∧ (text = rest ∨ text = '\n' :: rest) := by
  cases h with
  | both => exact ⟨text, rfl, .inl rfl⟩
  | @single c h =>
      by_cases merges : c = '\r' ∧ ∃ rest, text = '\n' :: rest
      · obtain ⟨rfl, rest, rfl⟩ := merges
        exact ⟨rest, rfl, .inr rfl⟩
      · refine ⟨text, ?_, .inl rfl⟩
        have apart : ∀ rest, c = '\r' → text ≠ '\n' :: rest :=
          fun rest same line => merges ⟨same, rest, line⟩
        rw [List.singleton_append, lines_cons apart, h]
        rfl

/-! ## Texts with a line feed between them -/

theorem exists_lines_cons (c : Char) (rest : List Char) :
    ∃ line more, lines (c :: rest) = line :: more := by
  unfold lines
  split
  · next same => cases same
  · exact ⟨_, _, rfl⟩
  · split
    · exact ⟨_, _, rfl⟩
    · cases lines _ with
      | nil => exact ⟨_, _, rfl⟩
      | cons line more => exact ⟨_, _, rfl⟩

/-- Two texts with a line feed between them have the lines of both. There is an empty line between them if
the first text is empty or has its last line ended already, other than by a carriage return. -/
theorem lines_join (first second : List Char) :
    lines (first ++ '\n' :: second) = lines first ++ lines second ∨
      lines (first ++ '\n' :: second) = lines first ++ [] :: lines second := by
  induction first using lines.induct with
  | case1 => exact .inr rfl
  | case2 rest ih =>
      have split : lines ('\r' :: '\n' :: (rest ++ '\n' :: second)) =
          [] :: lines (rest ++ '\n' :: second) := rfl
      simp only [List.cons_append, split, lines]
      exact ih.imp (congrArg ([] :: ·)) (congrArg ([] :: ·))
  | case3 c rest apart ends ih =>
      have own : lines (c :: rest) = [] :: lines rest := by rw [lines_cons apart, if_pos ends]
      cases rest with
      | nil =>
          by_cases merges : c = '\r'
          · subst merges
            exact .inl rfl
          · have joined : lines (c :: '\n' :: second) = [] :: [] :: lines second := by
              rw [lines_cons fun _ same => absurd same merges, if_pos ends]
              rfl
            exact .inr (by rw [own]; exact joined)
      | cons d rest =>
          have joined : lines (c :: d :: rest ++ '\n' :: second) =
              [] :: lines (d :: rest ++ '\n' :: second) := by
            rw [List.cons_append, lines_cons, if_pos ends]
            intro more same feed
            obtain ⟨rfl, -⟩ := List.cons.inj feed
            exact apart rest same rfl
          rw [joined, own]
          exact ih.imp (congrArg ([] :: ·)) (congrArg ([] :: ·))
  | case4 c rest apart inside ih =>
      have other : c ≠ '\r' := by
        rintro rfl
        exact inside rfl
      have begins (more : List Char) : lines (c :: more) = consLine c (lines more) := by
        rw [lines_cons fun _ same => absurd same other, if_neg inside]
      cases rest with
      | nil =>
          have joined : lines (c :: '\n' :: second) = [c] :: lines second := begins ('\n' :: second)
          exact .inl (joined.trans (by rw [begins]; rfl))
      | cons d rest =>
          obtain ⟨line, more, split⟩ := exists_lines_cons d rest
          rw [List.cons_append, begins, begins, split]
          rw [split] at ih
          exact ih.imp (congrArg (consLine c)) (congrArg (consLine c))

/-! ## Texts made of lines -/

/-- The text has these lines one behind the other, each with an end of any kind. The last line may have
none. -/
inductive Lined : List (List Char) → List Char → Prop
  | nil : Lined [] []
  | last {line : List Char} (inside : ∀ c ∈ line, isLineEnd c = false) : Lined [line] line
  | line {line ending text : List Char} {ls : List (List Char)}
      (inside : ∀ c ∈ line, isLineEnd c = false) (ends : LineEnd ending) (rest : Lined ls text) :
      Lined (line :: ls) (line ++ (ending ++ text))

section

variable {α : Type} {f : List Char → Option α}

/-- Behind the end of a line stand the lines of what follows, but for an empty one that the end may take
into itself. -/
theorem filterMap_lines_end (nothing : f [] = none) {ending : List Char} (ends : LineEnd ending)
    (text : List Char) :
    ∃ more, lines (ending ++ text) = [] :: more ∧ more.filterMap f = (lines text).filterMap f := by
  obtain ⟨rest, split, same | merged⟩ := lines_end ends text
  · exact ⟨_, split, by rw [same]⟩
  · have begins : lines text = [] :: lines rest := by
      rw [merged, lines_cons (by simp)]
      rfl
    exact ⟨_, split, by rw [begins, List.filterMap_cons_none nothing]⟩

/-- What is taken of the lines of a text is what is taken of those that it was made of, if nothing is taken
of an empty line. -/
theorem Lined.filterMap_lines {ls : List (List Char)} {text : List Char} (h : Lined ls text)
    (nothing : f [] = none) : (lines text).filterMap f = ls.filterMap f := by
  induction h with
  | nil => rfl
  | @last line inside =>
      rw [lines_of_inside inside]
      cases line with
      | nil => exact (List.filterMap_cons_none nothing).symm
      | cons c cs => rfl
  | @line line ending text ls inside ends rest ih =>
      obtain ⟨more, split, same⟩ := filterMap_lines_end nothing ends text
      rw [lines_append inside, split, foldr_consLine, List.append_nil, List.filterMap_cons,
        List.filterMap_cons, same, ih]

theorem filterMap_lines_join (nothing : f [] = none) (first second : List Char) :
    (lines (first ++ '\n' :: second)).filterMap f =
      (lines first).filterMap f ++ (lines second).filterMap f := by
  rcases lines_join first second with same | same
  · rw [same, List.filterMap_append]
  · rw [same, List.filterMap_append, List.filterMap_cons_none nothing]

end

section

variable {p : List Char → Bool}

theorem guard_nil (other : p [] = false) : Option.guard (fun line => p line) [] = none := by
  rw [Option.guard, other]
  rfl

/-- Lines of a kind that no empty line is of are counted among those that the text was made of. -/
theorem Lined.countP_lines {ls : List (List Char)} {text : List Char} (h : Lined ls text)
    (other : p [] = false) : (lines text).countP p = ls.countP p := by
  simp only [List.countP_eq_length_filter, ← List.filterMap_eq_filter, h.filterMap_lines (guard_nil other)]

theorem countP_lines_join (other : p [] = false) (first second : List Char) :
    (lines (first ++ '\n' :: second)).countP p =
      (lines first).countP p + (lines second).countP p := by
  simp only [List.countP_eq_length_filter, ← List.filterMap_eq_filter,
    filterMap_lines_join (guard_nil other), List.length_append]

end

end Text

end TickBound
