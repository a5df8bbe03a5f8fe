import Mathlib.Data.List.TakeWhile
import TickBound.Text.Blank

/-!
# Trimming

Trimming takes blanks off at both ends and leaves what stands between them.
-/

namespace TickBound

namespace Text

/-- A text is what trimming leaves of it with dropped characters at both ends. -/
theorem exists_trimBy (p : Char → Bool) (cs : List Char) :
    ∃ before after, cs = before ++ trimBy p cs ++ after ∧ (∀ c ∈ before, p c = true) ∧
      ∀ c ∈ after, p c = true := by
  have front := List.takeWhile_append_dropWhile (p := p) (l := cs)
  have back := List.takeWhile_append_dropWhile (p := p) (l := (cs.dropWhile p).reverse)
  have turned : cs.dropWhile p = trimBy p cs ++ ((cs.dropWhile p).reverse.takeWhile p).reverse := by
    rw [trimBy, ← List.reverse_append, back, List.reverse_reverse]
  refine ⟨cs.takeWhile p, ((cs.dropWhile p).reverse.takeWhile p).reverse, ?_,
    fun c mem => List.mem_takeWhile_imp mem,
    fun c mem => List.mem_takeWhile_imp (List.mem_reverse.mp mem)⟩
  rw [List.append_assoc, ← turned, front]

theorem dropWhile_of_head {p : Char → Bool} {cs : List Char} (h : ∀ c ∈ cs.head?, p c = false) :
    cs.dropWhile p = cs := by
  cases cs with
  | nil => rfl
  | cons c cs => rw [List.dropWhile_cons, h c (by simp)]; rfl

/-- Dropping from the end stops at the last character that is not dropped. -/
theorem dropBehind_append {p : Char → Bool} {kept after : List Char}
    (behind : ∀ c ∈ after, p c = true) (last : ∀ c ∈ kept.getLast?, p c = false) :
    ((kept ++ after).reverse.dropWhile p).reverse = kept := by
  have dropped : ∀ c ∈ after.reverse, p c = true := fun c mem => behind c (List.mem_reverse.mp mem)
  have stays : ∀ c ∈ kept.reverse.head?, p c = false := by
    rw [List.head?_reverse]
    exact last
  rw [List.reverse_append, List.dropWhile_append_of_pos dropped, dropWhile_of_head stays,
    List.reverse_reverse]

/-- Trimming leaves what stands between the blanks. -/
theorem trimBy_between {p : Char → Bool} {before inner after : List Char}
    (ahead : ∀ c ∈ before, p c = true) (behind : ∀ c ∈ after, p c = true)
    (first : ∀ c ∈ inner.head?, p c = false) (last : ∀ c ∈ inner.getLast?, p c = false) :
    trimBy p (before ++ inner ++ after) = inner := by
  rw [trimBy, List.append_assoc, List.dropWhile_append_of_pos ahead]
  cases inner with
  | nil => rw [List.nil_append, List.dropWhile_eq_nil_iff.mpr behind]; rfl
  | cons c cs =>
      have stays : ∀ d ∈ (c :: cs ++ after).head?, p d = false := first
      rw [dropWhile_of_head stays, dropBehind_append behind last]

theorem trim_blank {line : List Char} (blank : ∀ c ∈ line, isBlank c = true) : trim line = [] := by
  have none : line.dropWhile isBlank = [] := List.dropWhile_eq_nil_iff.mpr blank
  rw [trim, trimBy, none]
  rfl

end Text

end TickBound
