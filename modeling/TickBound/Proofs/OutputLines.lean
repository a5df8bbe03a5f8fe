import TickBound.Proofs.EngineOutput

/-!
# The format of the engine's output

An output is accepted exactly when each of its lines is blank or an object with a bound. It is refused at
its first other line, by the number that this line has among all lines. As every line stands for itself,
outputs can be put one behind the other.
-/

namespace TickBound

namespace Text

def IsBlankLine (line : List Char) : Prop :=
  ∀ c ∈ line, isBlank c = true

theorem trim_eq_nil {line : List Char} : trim line = [] ↔ IsBlankLine line := by
  constructor
  · intro nothing
    obtain ⟨before, after, same, ahead, behind⟩ := exists_trimBy isBlank line
    have ends : line = before ++ after := by
      rw [trim] at nothing
      rw [nothing, List.append_nil] at same
      exact same
    intro c mem
    rw [ends, List.mem_append] at mem
    exact mem.elim (ahead c) (behind c)
  · exact trim_blank

end Text

open Text (IsBlankLine)

namespace Bounds

/-! ## Lines -/

def content (line : List Char) : String :=
  String.ofList (Text.trim line)

/-- The line holds an object in which the member that stands last under `max_cycles` has this value. -/
def Tells (line : List Char) (value : Json) : Prop :=
  ∃ pairs, Json.ObjectText (content line) pairs ∧
    Json.last? pairs "max_cycles" = some value

def IsReadable (line : List Char) : Prop :=
  IsBlankLine line ∨ ∃ bound : Nat, Tells line (.int bound)

/-- What a line with this number is refused for: it is no object that tells a value, or the value is no
integer, or it is below zero. -/
inductive Refuses (number : Nat) (line : List Char) : EngineFault → Prop
  | badLine (none : ∀ value, ¬ Tells line value) :
      Refuses number line (.badLine number (content line))
  | notInteger {value : Json} (told : Tells line value) (other : ∀ n, value ≠ .int n) :
      Refuses number line (.notInteger number (content line))
  | negative {n : Int} (told : Tells line (.int n)) (below : n < 0) :
      Refuses number line (.negative number n)

/-- The lines tell these bounds, in their order. Blank lines tell none. -/
inductive Lists : List (List Char) → List Nat → Prop
  | nil : Lists [] []
  | blank {line : List Char} {more : List (List Char)} {bounds : List Nat}
      (blank : IsBlankLine line) (rest : Lists more bounds) : Lists (line :: more) bounds
  | told {line : List Char} {more : List (List Char)} {bound : Nat} {bounds : List Nat}
      (told : Tells line (.int bound)) (rest : Lists more bounds) :
      Lists (line :: more) (bound :: bounds)

variable {line : List Char} {value : Json} {number : Nat} {fault : EngineFault}
  {ls : List (List Char)} {bounds : List Nat}

theorem tells_iff :
    Tells line value ↔
      ∃ members, Json.read (content line) = .ok (.object members) ∧
        Json.Members.get? members "max_cycles" = some value := by
  constructor
  · intro told
    obtain ⟨pairs, isObject, last⟩ := told
    have parsed := Json.read_eq_ok.mpr (Json.document_object.mpr ⟨pairs, isObject, rfl⟩)
    exact ⟨_, parsed, (Json.Members.get?_ofPairs _ _).trans last⟩
  · intro found
    obtain ⟨members, parsed, named⟩ := found
    obtain ⟨pairs, isObject, rfl⟩ := Json.document_object.mp (Json.read_eq_ok.mp parsed)
    exact ⟨pairs, isObject, (Json.Members.get?_ofPairs _ _).symm.trans named⟩

/-- A line that tells a value is not blank: no object is. -/
theorem Tells.not_blank (h : Tells line value) : ¬ IsBlankLine line := by
  intro blank
  obtain ⟨members, parsed, -⟩ := tells_iff.mp h
  rw [content, Text.trim_eq_nil.mpr blank] at parsed
  cases parsed

theorem ofLine_of_tells {bound : Nat} (h : Tells line (.int bound)) (number : Nat) :
    ofLine number (content line) = .ok bound := by
  obtain ⟨members, parsed, named⟩ := tells_iff.mp h
  have nonneg : ¬ (bound : Int) < 0 := by omega
  simp [ofLine, parsed, named, nonneg]

theorem ofLine_of_refuses (h : Refuses number line fault) :
    ofLine number (content line) = .error fault := by
  cases h with
  | badLine none =>
      have absent : ∀ members, Json.read (content line) = .ok (.object members) →
          Json.Members.get? members "max_cycles" = Option.none := by
        intro members parsed
        rw [Option.eq_none_iff_forall_ne_some]
        intro value named
        exact none value (tells_iff.mpr ⟨members, parsed, named⟩)
      unfold ofLine
      cases parsed : Json.read (content line) with
      | error refusal => rfl
      | ok document =>
          cases document with
          | object members => simp [absent members parsed]
          | null | bool | int | real | string | array => rfl
  | @notInteger value told other =>
      obtain ⟨members, parsed, named⟩ := tells_iff.mp told
      cases value with
      | int n => exact absurd rfl (other n)
      | null | bool | real | string | array | object => simp [ofLine, parsed, named]
  | negative told below =>
      obtain ⟨members, parsed, named⟩ := tells_iff.mp told
      simp [ofLine, parsed, named, below]

/-- A line tells a bound, or there is something that it is refused for. -/
theorem tells_or_refuses (number : Nat) (line : List Char) :
    (∃ bound : Nat, Tells line (.int bound)) ∨ ∃ fault, Refuses number line fault := by
  by_cases tells : ∃ value, Tells line value
  · obtain ⟨value, told⟩ := tells
    by_cases integer : ∃ n, value = .int n
    · obtain ⟨n, rfl⟩ := integer
      by_cases below : n < 0
      · exact .inr ⟨_, .negative told below⟩
      · have same : ((n.toNat : Nat) : Int) = n := by omega
        exact .inl ⟨n.toNat, same ▸ told⟩
    · exact .inr ⟨_, .notInteger told fun n same => integer ⟨n, same⟩⟩
  · exact .inr ⟨_, .badLine fun value told => tells ⟨value, told⟩⟩

/-! ## Outputs -/

theorem ofLines_of_blank (blank : IsBlankLine line) (number : Nat) (more : List (List Char)) :
    ofLines number (line :: more) = ofLines (number + 1) more := by
  rw [ofLines, Text.trim_eq_nil.mpr blank]
  rfl

/-- A line that is not blank is read, and then the lines behind it. -/
theorem ofLines_of_filled (filled : ¬ IsBlankLine line) (number : Nat) (more : List (List Char)) :
    ofLines number (line :: more) = (do
      let bound ← ofLine number (content line)
      let bounds ← ofLines (number + 1) more
      .ok (bound :: bounds)) := by
  have some : (Text.trim line).isEmpty = false := by
    rw [List.isEmpty_eq_false_iff]
    exact fun nothing => filled (Text.trim_eq_nil.mp nothing)
  rw [ofLines, some]
  rfl

theorem ofLines_of_tells {bound : Nat} (h : Tells line (.int bound)) (number : Nat)
    (more : List (List Char)) :
    ofLines number (line :: more) = (ofLines (number + 1) more).map (bound :: ·) := by
  rw [ofLines_of_filled h.not_blank, ofLine_of_tells h]
  cases ofLines (number + 1) more <;> rfl

theorem ofLines_of_refuses (unreadable : ¬ IsReadable line) (h : Refuses number line fault)
    (more : List (List Char)) : ofLines number (line :: more) = .error fault := by
  rw [ofLines_of_filled fun blank => unreadable (.inl blank), ofLine_of_refuses h]
  rfl

/-- The bounds of lines stand in front of what is read from the lines behind them. -/
theorem ofLines_append {before : List (List Char)} (h : Lists before bounds) (number : Nat)
    (after : List (List Char)) :
    ofLines number (before ++ after) = (ofLines (number + before.length) after).map (bounds ++ ·) := by
  induction h generalizing number with
  | nil =>
      rw [List.nil_append, List.length_nil, Nat.add_zero]
      cases ofLines number after <;> rfl
  | @blank line more bounds blank rest ih =>
      have shifted : number + 1 + more.length = number + (line :: more).length := by
        rw [List.length_cons]
        omega
      rw [List.cons_append, ofLines_of_blank blank, ih, shifted]
  | @told line more bound bounds told rest ih =>
      have shifted : number + 1 + more.length = number + (line :: more).length := by
        rw [List.length_cons]
        omega
      rw [List.cons_append, ofLines_of_tells told, ih, shifted]
      cases ofLines (number + (line :: more).length) after <;> rfl

/-- Bounds can be told of lines exactly if each of them can be read. -/
theorem exists_lists : (∃ bounds, Lists ls bounds) ↔ ∀ line ∈ ls, IsReadable line := by
  constructor
  · intro h
    obtain ⟨bounds, lists⟩ := h
    induction lists with
    | nil => simp
    | blank blank rest ih => exact List.forall_mem_cons.mpr ⟨.inl blank, ih⟩
    | told told rest ih => exact List.forall_mem_cons.mpr ⟨.inr ⟨_, told⟩, ih⟩
  · intro readable
    induction ls with
    | nil => exact ⟨[], .nil⟩
    | cons line more ih =>
        rw [List.forall_mem_cons] at readable
        obtain ⟨bounds, lists⟩ := ih readable.2
        rcases readable.1 with blank | ⟨bound, told⟩
        · exact ⟨bounds, .blank blank lists⟩
        · exact ⟨bound :: bounds, .told told lists⟩

/-- Either all lines can be read, or there is a first one that cannot. -/
theorem lists_or_refuses (number : Nat) (ls : List (List Char)) :
    (∃ bounds, Lists ls bounds) ∨
      ∃ before line after fault, ls = before ++ line :: after ∧ (∀ l ∈ before, IsReadable l) ∧
        ¬ IsReadable line ∧ Refuses (number + before.length) line fault := by
  induction ls generalizing number with
  | nil => exact .inl ⟨[], .nil⟩
  | cons line more ih =>
      by_cases readable : IsReadable line
      · rcases ih (number + 1) with lists | ⟨before, other, after, fault, rfl, fine, unreadable, refused⟩
        · left
          rw [exists_lists] at lists ⊢
          exact List.forall_mem_cons.mpr ⟨readable, lists⟩
        · right
          have shifted : number + 1 + before.length = number + (line :: before).length := by
            rw [List.length_cons]
            omega
          exact ⟨line :: before, other, after, fault, rfl, List.forall_mem_cons.mpr ⟨readable, fine⟩,
            unreadable, shifted ▸ refused⟩
      · right
        rcases tells_or_refuses number line with told | ⟨fault, refused⟩
        · exact absurd (.inr told) readable
        · exact ⟨[], line, more, fault, rfl, by simp, readable, refused⟩

theorem ofLines_of_lists (h : Lists ls bounds) (number : Nat) : ofLines number ls = .ok bounds := by
  have whole := ofLines_append h number []
  rw [List.append_nil] at whole
  rw [whole]
  exact congrArg Except.ok (List.append_nil bounds)

/-- Lines are refused where the first of them cannot be read. -/
theorem ofLines_of_first {before after : List (List Char)} (fine : ∀ l ∈ before, IsReadable l)
    (unreadable : ¬ IsReadable line) (h : Refuses (number + before.length) line fault) :
    ofLines number (before ++ line :: after) = .error fault := by
  obtain ⟨bounds, lists⟩ := exists_lists.mpr fine
  rw [ofLines_append lists, ofLines_of_refuses unreadable h]
  rfl

theorem ofLines_eq_ok : ofLines number ls = .ok bounds ↔ Lists ls bounds := by
  constructor
  · intro read
    rcases lists_or_refuses number ls with ⟨own, lists⟩ | ⟨before, line, after, fault, rfl, first⟩
    · rw [ofLines_of_lists lists] at read
      cases read
      exact lists
    · rw [ofLines_of_first first.1 first.2.1 first.2.2] at read
      cases read
  · exact fun lists => ofLines_of_lists lists number

theorem ofLines_eq_error :
    ofLines number ls = .error fault ↔
      ∃ before line after, ls = before ++ line :: after ∧ (∀ l ∈ before, IsReadable l) ∧
        ¬ IsReadable line ∧ Refuses (number + before.length) line fault := by
  constructor
  · intro read
    rcases lists_or_refuses number ls with ⟨own, lists⟩ | ⟨before, line, after, other, rfl, first⟩
    · rw [ofLines_of_lists lists] at read
      cases read
    · rw [ofLines_of_first first.1 first.2.1 first.2.2] at read
      cases read
      exact ⟨before, line, after, rfl, first⟩
  · intro first
    obtain ⟨before, line, after, rfl, fine, unreadable, refused⟩ := first
    exact ofLines_of_first fine unreadable refused

theorem parse_eq_ok {output : String} :
    parse output = .ok bounds ↔ Lists (Text.lines output.toList) bounds :=
  ofLines_eq_ok

/-- The bounds of lines are those of the first ones and then those of the others. -/
theorem lists_append {first second : List (List Char)} :
    Lists (first ++ second) bounds ↔
      ∃ ahead behind, Lists first ahead ∧ Lists second behind ∧ bounds = ahead ++ behind := by
  constructor
  · intro lists
    induction first generalizing bounds with
    | nil => exact ⟨[], bounds, .nil, lists, rfl⟩
    | cons line more ih =>
        cases lists with
        | blank blank rest =>
            obtain ⟨ahead, behind, listed, listed', same⟩ := ih rest
            exact ⟨ahead, behind, .blank blank listed, listed', same⟩
        | @told _ _ bound bounds told rest =>
            obtain ⟨ahead, behind, listed, listed', same⟩ := ih rest
            exact ⟨bound :: ahead, behind, .told told listed, listed', by rw [same]; rfl⟩
  · intro parts
    obtain ⟨ahead, behind, lists, lists', rfl⟩ := parts
    induction lists with
    | nil => exact lists'
    | blank blank rest ih => exact .blank blank ih
    | told told rest ih => exact .told told ih

theorem lists_blank (blank : IsBlankLine line) : Lists (line :: ls) bounds ↔ Lists ls bounds := by
  constructor
  · intro lists
    cases lists with
    | blank _ rest => exact rest
    | told told _ => exact absurd blank told.not_blank
  · exact .blank blank

/-- The empty line that may come between two texts tells nothing. -/
theorem lists_join {first second : List Char} :
    Lists (Text.lines (first ++ '\n' :: second)) bounds ↔
      Lists (Text.lines first ++ Text.lines second) bounds := by
  have empty : IsBlankLine [] := by simp [IsBlankLine]
  rcases Text.lines_join first second with same | same
  · rw [same]
  · rw [same]
    simp only [lists_append, lists_blank empty]

/-- The message of a refusal names the line that is refused. -/
theorem Refuses.message (h : Refuses number line fault) :
    ∃ ahead behind, fault.message = ahead ++ " on line " ++ Number.decimal number ++ ": " ++ behind := by
  cases h with
  | badLine none =>
      exact ⟨"Bad engine output", Text.quoted (content line), rfl⟩
  | notInteger told other =>
      exact ⟨"Non-integer cycle bound", Text.quoted (content line), rfl⟩
  | @negative n told below =>
      exact ⟨"Negative cycle bound", Number.decimal n, rfl⟩

/-- An output is accepted just where each line of it is blank or tells a bound, and gives these bounds in
their order. Otherwise it is refused for its first other line, which is named by its number among all
lines. Two outputs with a line feed between them are accepted just where both are, and give the bounds of
both. -/
theorem parse_by_line :
    (∀ output,
      let ls := Text.lines output.toList
      ((∃ bounds, parse output = .ok bounds) ↔ ∀ line ∈ ls, IsReadable line) ∧
      (∀ bounds, parse output = .ok bounds ↔ Lists ls bounds) ∧
      ∀ fault, parse output = .error fault ↔
        ∃ before line after, ls = before ++ line :: after ∧ (∀ l ∈ before, IsReadable l) ∧
          ¬ IsReadable line ∧ Refuses (before.length + 1) line fault) ∧
    (∀ number line fault, Refuses number line fault →
      (Fault.engine fault).kind? = some .symbolic ∧ ∃ ahead behind, (Fault.engine fault).message =
        ahead ++ " on line " ++ Number.decimal number ++ ": " ++ behind) ∧
    ∀ first second bounds, parse (first ++ "\n" ++ second) = .ok bounds ↔
      ∃ ahead behind, parse first = .ok ahead ∧ parse second = .ok behind ∧ bounds = ahead ++ behind := by
  constructor
  · intro output ls
    have values (bounds : List Nat) : parse output = .ok bounds ↔ Lists ls bounds := ofLines_eq_ok
    constructor
    · simp only [values, exists_lists]
    · constructor
      · exact values
      · intro fault
        have refused : parse output = .error fault ↔ _ := ofLines_eq_error
        simpa only [Nat.add_comm] using refused
  · constructor
    · exact fun number line fault refused => ⟨rfl, refused.message⟩
    · intro first second bounds
      have joined : (first ++ "\n" ++ second).toList = first.toList ++ '\n' :: second.toList := by
        simp
      rw [parse_eq_ok, joined, lists_join, lists_append]
      simp only [parse_eq_ok]

end Bounds

end TickBound
