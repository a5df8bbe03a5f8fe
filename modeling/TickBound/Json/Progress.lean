import TickBound.Json.Reader

/-!
# Reading goes forward

Everything that the reader takes off the front of a text makes the text shorter. Therefore the budget of
steps is never used up: with more of it the reader finds the same.
-/

namespace TickBound

namespace Json

/-! ## Strings and numbers -/

theorem length_skipSpace_le (cs : List Char) : (skipSpace cs).length ≤ cs.length :=
  (List.dropWhile_sublist _).length_le

theorem lowHalf?_length {cs rest : List Char} {n : Nat} (h : lowHalf? cs = some (.ok (n, rest))) :
    rest.length < cs.length := by
  unfold lowHalf? at h
  split at h
  · split at h
    · simp at h
    · split at h
      · simp only [Option.some.injEq, Except.ok.injEq, Prod.mk.injEq] at h
        obtain ⟨_, rfl⟩ := h
        simp only [List.length_cons]
        omega
      · simp at h
  · simp at h

theorem codePiece_close {start cs rest : List Char} : codePiece start cs ≠ .close rest := by
  unfold codePiece
  repeat' split
  all_goals simp

theorem codePiece_length {start cs rest : List Char} {m : Mark}
    (h : codePiece start cs = .mark m rest) : rest.length < cs.length := by
  unfold codePiece at h
  split at h
  · split at h
    · simp at h
    · split at h
      · split at h
        next low =>
          have := lowHalf?_length low
          simp only [Piece.mark.injEq] at h
          obtain ⟨_, rfl⟩ := h
          simp only [List.length_cons] at this ⊢
          omega
        · simp at h
        · simp only [Piece.mark.injEq] at h
          obtain ⟨_, rfl⟩ := h
          simp only [List.length_cons]
          omega
      · simp only [Piece.mark.injEq] at h
        obtain ⟨_, rfl⟩ := h
        simp only [List.length_cons]
        omega
  · simp at h

theorem nextPiece_close {opening cs rest : List Char} (h : nextPiece opening cs = .close rest) :
    rest.length < cs.length := by
  unfold nextPiece at h
  split at h
  · simp at h
  · simp only [Piece.close.injEq] at h
    subst h
    simp
  · simp at h
  · exact (codePiece_close h).elim
  · split at h <;> simp at h
  · split at h <;> simp at h

theorem nextPiece_mark {opening cs rest : List Char} {m : Mark}
    (h : nextPiece opening cs = .mark m rest) : rest.length < cs.length := by
  unfold nextPiece at h
  split at h
  · simp at h
  · simp at h
  · simp at h
  · have := codePiece_length h
    simp only [List.length_cons]
    omega
  · split at h
    · simp only [Piece.mark.injEq] at h
      obtain ⟨_, rfl⟩ := h
      simp only [List.length_cons]
      omega
    · simp at h
  · split at h
    · simp at h
    · simp only [Piece.mark.injEq] at h
      obtain ⟨_, rfl⟩ := h
      simp

theorem takeMarks_length {opening : List Char} {budget : Nat} {cs rest : List Char} {marks : List Mark}
    (h : takeMarks opening budget cs = .ok (marks, rest)) : rest.length < cs.length := by
  induction budget generalizing cs marks with
  | zero => simp [takeMarks] at h
  | succ budget ih =>
      unfold takeMarks at h
      split at h
      next piece =>
        simp only [Except.ok.injEq, Prod.mk.injEq] at h
        obtain ⟨_, rfl⟩ := h
        exact nextPiece_close piece
      · simp at h
      next piece =>
        split at h
        next more =>
          simp only [Except.ok.injEq, Prod.mk.injEq] at h
          obtain ⟨_, rfl⟩ := h
          exact Nat.lt_trans (ih more) (nextPiece_mark piece)
        · simp at h

theorem takeString_length {cs rest : List Char} {s : DataText}
    (h : takeString cs = .ok (s, rest)) : rest.length < cs.length := by
  unfold takeString at h
  split at h
  next marks =>
    have := takeMarks_length marks
    simp only [Except.ok.injEq, Prod.mk.injEq] at h
    obtain ⟨_, rfl⟩ := h
    simp only [List.length_drop] at this
    omega
  · simp at h

theorem takeWhole_length {cs : List Char} (h : (takeWhole cs).1.isEmpty = false) :
    (takeWhole cs).2.length < cs.length := by
  unfold takeWhole at h ⊢
  split
  · simp
  next other =>
    have split := congrArg List.length
      (List.takeWhile_append_dropWhile (p := Number.isPlainDigit) (l := cs))
    have pos : 0 < (cs.takeWhile Number.isPlainDigit).length := by
      cases hw : cs.takeWhile Number.isPlainDigit with
      | nil => simp_all
      | cons => simp
    simp only [List.length_append] at split
    dsimp only
    omega

theorem takeFraction_length_le (cs : List Char) : (takeFraction cs).2.length ≤ cs.length := by
  unfold takeFraction
  split
  next d rest =>
    split
    · have := (List.dropWhile_sublist (l := rest) Number.isPlainDigit).length_le
      simp only [List.length_cons]
      omega
    · simp
  · simp

theorem takeSign_length_le (cs : List Char) : (Number.takeSign cs).2.length ≤ cs.length := by
  unfold Number.takeSign
  split <;> simp

theorem takeExponent_length_le (cs : List Char) : (takeExponent cs).2.length ≤ cs.length := by
  unfold takeExponent
  split
  next c rest =>
    dsimp only
    split
    · have := takeSign_length_le rest
      have := (List.dropWhile_sublist (l := (Number.takeSign rest).2) Number.isPlainDigit).length_le
      simp only [List.length_cons]
      omega
    · simp
  · simp

theorem takeUnsigned_length {start cs rest : List Char} {negative : Bool} {value : Json}
    (h : takeUnsigned start negative cs = .ok (value, rest)) : rest.length < cs.length := by
  unfold takeUnsigned at h
  dsimp only at h
  split at h
  · simp at h
  next some =>
    have whole : (takeWhole cs).2.length < cs.length := takeWhole_length (by simpa using some)
    have fraction := takeFraction_length_le (takeWhole cs).2
    have exponent := takeExponent_length_le (takeFraction (takeWhole cs).2).2
    split at h
    · split at h
      · simp at h
      · simp only [Except.ok.injEq, Prod.mk.injEq] at h
        obtain ⟨_, rfl⟩ := h
        omega
    · simp only [Except.ok.injEq, Prod.mk.injEq] at h
      obtain ⟨_, rfl⟩ := h
      omega

theorem takeNumber_length {cs rest : List Char} {value : Json}
    (h : takeNumber cs = .ok (value, rest)) : rest.length < cs.length := by
  unfold takeNumber at h
  split at h
  · have := takeUnsigned_length h
    simp only [List.length_cons]
    omega
  · exact takeUnsigned_length h

theorem takeWord?_length {cs rest : List Char} {value : Json}
    (h : takeWord? cs = some (value, rest)) : rest.length < cs.length := by
  unfold takeWord? at h
  split at h
  all_goals simp only [Option.some.injEq, Prod.mk.injEq, reduceCtorEq] at h
  all_goals
    obtain ⟨_, rfl⟩ := h
    simp only [List.length_cons]
    omega

/-- The text is at least as long as what follows its first character that is no space. -/
theorem length_of_skipSpace_eq {cs rest : List Char} {c : Char} (h : skipSpace cs = c :: rest) :
    rest.length < cs.length := by
  have := length_skipSpace_le cs
  rw [h, List.length_cons] at this
  omega

theorem takeName_length {cs rest : List Char} {name : DataText}
    (h : takeName cs = .ok (name, rest)) : rest.length < cs.length := by
  unfold takeName at h
  split at h
  next inner =>
    cases string : takeString ('"' :: inner) with
    | error stop => simp [string, bind, Except.bind] at h
    | ok taken =>
        obtain ⟨s, after⟩ := taken
        have first := takeString_length string
        simp only [string, bind, Except.bind] at h
        split at h
        next behind colon =>
          have second := length_of_skipSpace_eq colon
          have third := length_skipSpace_le behind
          simp only [Except.ok.injEq, Prod.mk.injEq] at h
          obtain ⟨_, rfl⟩ := h
          omega
        · simp at h
  · simp at h

/-! ## Values -/

/-- Every part of the reader that takes values makes the text shorter. -/
theorem takes_length (budget : Nat) :
    (∀ cs value rest, takeValue budget cs = .ok (value, rest) → rest.length < cs.length) ∧
      (∀ cs items rest, takeItems budget cs = .ok (items, rest) → rest.length < cs.length) ∧
        ∀ cs members rest, takeMembers budget cs = .ok (members, rest) → rest.length < cs.length := by
  induction budget with
  | zero => simp [takeValue, takeItems, takeMembers]
  | succ budget ih =>
      obtain ⟨values, items, members⟩ := ih
      refine ⟨fun cs value rest h => ?_, fun cs found rest h => ?_, fun cs found rest h => ?_⟩
      · unfold takeValue at h
        split at h
        next inner =>
          cases string : takeString ('"' :: inner) with
          | error stop => simp [string, bind, Except.bind] at h
          | ok taken =>
              simp only [string, bind, Except.bind, Except.ok.injEq, Prod.mk.injEq] at h
              obtain ⟨_, rfl⟩ := h
              exact takeString_length string
        next inner =>
          split at h
          next after bracket =>
            simp only [Except.ok.injEq, Prod.mk.injEq] at h
            obtain ⟨_, rfl⟩ := h
            have := length_of_skipSpace_eq bracket
            simp only [List.length_cons]
            omega
          · cases found : takeItems budget (skipSpace inner) with
            | error stop => simp [found, bind, Except.bind] at h
            | ok taken =>
                simp only [found, bind, Except.bind, Except.ok.injEq, Prod.mk.injEq] at h
                obtain ⟨_, rfl⟩ := h
                have := items _ _ _ found
                have := length_skipSpace_le inner
                simp only [List.length_cons]
                omega
        next inner =>
          split at h
          next after brace =>
            simp only [Except.ok.injEq, Prod.mk.injEq] at h
            obtain ⟨_, rfl⟩ := h
            have := length_of_skipSpace_eq brace
            simp only [List.length_cons]
            omega
          · cases found : takeMembers budget (skipSpace inner) with
            | error stop => simp [found, bind, Except.bind] at h
            | ok taken =>
                simp only [found, bind, Except.bind, Except.ok.injEq, Prod.mk.injEq] at h
                obtain ⟨_, rfl⟩ := h
                have := members _ _ _ found
                have := length_skipSpace_le inner
                simp only [List.length_cons]
                omega
        · split at h
          next taken word =>
            simp only [Except.ok.injEq] at h
            subst h
            exact takeWord?_length word
          · exact takeNumber_length h
      · unfold takeItems at h
        cases first : takeValue budget cs with
        | error stop => simp [first, bind, Except.bind] at h
        | ok taken =>
            obtain ⟨item, after⟩ := taken
            have shorter := values _ _ _ first
            simp only [first, bind, Except.bind] at h
            split at h
            next behind bracket =>
              simp only [Except.ok.injEq, Prod.mk.injEq] at h
              obtain ⟨_, rfl⟩ := h
              have := length_of_skipSpace_eq bracket
              omega
            next behind comma =>
              cases more : takeItems budget (skipSpace behind) with
              | error stop => simp [more] at h
              | ok taken =>
                  simp only [more, Except.ok.injEq, Prod.mk.injEq] at h
                  obtain ⟨_, rfl⟩ := h
                  have := items _ _ _ more
                  have := length_of_skipSpace_eq comma
                  have := length_skipSpace_le behind
                  omega
            · simp at h
      · unfold takeMembers at h
        cases named : takeName cs with
        | error stop => simp [named, bind, Except.bind] at h
        | ok taken =>
            obtain ⟨name, inside⟩ := taken
            have shorter := takeName_length named
            simp only [named, bind, Except.bind] at h
            cases first : takeValue budget inside with
            | error stop => simp [first] at h
            | ok taken =>
                obtain ⟨value, after⟩ := taken
                have := values _ _ _ first
                simp only [first] at h
                split at h
                next behind brace =>
                  simp only [Except.ok.injEq, Prod.mk.injEq] at h
                  obtain ⟨_, rfl⟩ := h
                  have := length_of_skipSpace_eq brace
                  omega
                next behind comma =>
                  cases more : takeMembers budget (skipSpace behind) with
                  | error stop => simp [more] at h
                  | ok taken =>
                      simp only [more, Except.ok.injEq, Prod.mk.injEq] at h
                      obtain ⟨_, rfl⟩ := h
                      have := members _ _ _ more
                      have := length_of_skipSpace_eq comma
                      have := length_skipSpace_le behind
                      omega
                · simp at h

theorem takeValue_length {budget : Nat} {cs rest : List Char} {value : Json}
    (h : takeValue budget cs = .ok (value, rest)) : rest.length < cs.length :=
  (takes_length budget).1 cs value rest h

/-- One step more changes nothing once the budget is enough for the text. -/
theorem takes_succ (budget : Nat) :
    (∀ cs, 2 * cs.length < budget → takeValue (budget + 1) cs = takeValue budget cs) ∧
      (∀ cs, 2 * cs.length + 1 < budget → takeItems (budget + 1) cs = takeItems budget cs) ∧
        ∀ cs, 2 * cs.length + 1 < budget → takeMembers (budget + 1) cs = takeMembers budget cs := by
  induction budget with
  | zero => simp
  | succ budget ih =>
      obtain ⟨values, items, members⟩ := ih
      refine ⟨fun cs enough => ?_, fun cs enough => ?_, fun cs enough => ?_⟩
      · unfold takeValue
        split
        · rfl
        next inner =>
          have := length_skipSpace_le inner
          simp only [List.length_cons] at enough
          split
          · rfl
          · rw [items (skipSpace inner) (by omega)]
        next inner =>
          have := length_skipSpace_le inner
          simp only [List.length_cons] at enough
          split
          · rfl
          · rw [members (skipSpace inner) (by omega)]
        · rfl
      · unfold takeItems
        rw [values cs (by omega)]
        cases first : takeValue budget cs with
        | error stop => rfl
        | ok taken =>
            obtain ⟨item, after⟩ := taken
            have shorter := takeValue_length first
            simp only [bind, Except.bind]
            split
            · rfl
            next behind comma =>
              have := length_of_skipSpace_eq comma
              have := length_skipSpace_le behind
              rw [items (skipSpace behind) (by omega)]
            · rfl
      · unfold takeMembers
        cases named : takeName cs with
        | error stop => rfl
        | ok taken =>
            obtain ⟨name, inside⟩ := taken
            have shorter := takeName_length named
            simp only [bind, Except.bind]
            rw [values inside (by omega)]
            cases first : takeValue budget inside with
            | error stop => rfl
            | ok taken =>
                obtain ⟨value, after⟩ := taken
                have := takeValue_length first
                dsimp only
                split
                · rfl
                next behind comma =>
                  have := length_of_skipSpace_eq comma
                  have := length_skipSpace_le behind
                  rw [members (skipSpace behind) (by omega)]
                · rfl

/-- With more than enough steps the reader finds what it finds with enough. -/
theorem takeValue_of_enough {budget : Nat} {cs : List Char} (h : enoughSteps cs ≤ budget) :
    takeValue budget cs = takeValue (enoughSteps cs) cs := by
  induction h with
  | refl => rfl
  | @step budget more ih =>
      have enough : 2 * cs.length + 1 ≤ budget := more
      rw [(takes_succ budget).1 cs (by omega), ih]

end Json

end TickBound
