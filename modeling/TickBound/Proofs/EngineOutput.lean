import TickBound.Engine.Bounds
import TickBound.Proofs.Lines
import TickBound.Proofs.Readback
import TickBound.Proofs.Trimming

/-!
# Output of the engine

The engine writes an object for each path that it has explored, each on a line of its own. Whatever
blanks surround the objects and whatever blank lines stand between them, the bounds in them are
found, all of them and in their order: no object contains the end of a line, and none is blank.
-/

namespace TickBound

/-! ## Members that come back -/

namespace Mark

/-- Characters below U+10000 are not joined of halves. -/
theorem eq_of_join {marks : List Mark} {cs : List Char} (basic : ∀ c ∈ cs, c.toNat < 0x10000)
    (h : join marks = cs.map .char) : marks = cs.map .char := by
  fun_induction join marks generalizing cs with
  | case1 high low more joined ih =>
      rw [Bool.and_eq_true, Json.isHighSurrogate_iff, Json.isLowSurrogate_iff] at joined
      obtain ⟨c, cs, rfl, paired, -⟩ := List.map_eq_cons_iff.mp h.symm
      have small := basic c List.mem_cons_self
      rw [Json.pairedUnits, char.injEq] at paired
      have valid : (0x10000 + (high - 0xD800) * 0x400 + (low - 0xDC00)).isValidChar :=
        .inr (by omega)
      have large : 0x10000 ≤ c.toNat := by
        rw [paired, Char.ofNat, dif_pos valid]
        exact Nat.le_trans (Nat.le_add_right _ _) (Nat.le_add_right _ _)
      omega
  | case2 high low more apart ih =>
      obtain ⟨c, cs, rfl, half, -⟩ := List.map_eq_cons_iff.mp h.symm
      cases half
  | case3 mark more other ih =>
      obtain ⟨c, cs, rfl, rfl, rest⟩ := List.map_eq_cons_iff.mp h.symm
      rw [List.forall_mem_cons] at basic
      rw [List.map_cons, ih basic.2 rest.symm]
  | case4 => exact h

end Mark

namespace DataText

theorem reread_eq_iff {text : DataText} {cs : List Char} (basic : ∀ c ∈ cs, c.toNat < 0x10000) :
    text.reread = ofChars cs ↔ text = ofChars cs := by
  constructor
  · intro same
    obtain ⟨marks⟩ := text
    exact congrArg mk (Mark.eq_of_join basic (congrArg DataText.marks same))
  · rintro rfl
    exact reread_ofChars cs

end DataText

namespace Json

namespace Members

/-- If all pairs of a name have one value, it is the value of the name. -/
theorem get?_ofPairs_of_once {pairs : List (DataText × Json)} {key : DataText} {value : Json}
    (named : (key, value) ∈ pairs) (once : ∀ pair ∈ pairs, pair.1 = key → pair.2 = value) :
    get? (ofPairs pairs) key = some value := by
  rw [get?_ofPairs, last?]
  cases found : pairs.reverse.find? (·.1 = key) with
  | none =>
      have other := List.find?_eq_none.mp found (key, value) (List.mem_reverse.mpr named)
      simp at other
  | some pair =>
      have same : pair.1 = key := by simpa using List.find?_some found
      have mem := List.mem_reverse.mp (List.mem_of_find?_eq_some found)
      rw [Option.map_some, once pair mem same]

theorem mem_of_get? {members : Members} {key : DataText} {value : Json}
    (h : get? members key = some value) : (key, value) ∈ members := by
  induction members with
  | nil => cases h
  | cons member more ih =>
      obtain ⟨other, old⟩ := member
      rw [get?] at h
      split at h
      · next same =>
          cases h
          exact same ▸ List.mem_cons_self
      · exact List.mem_cons_of_mem _ (ih h)

/-- Among members of different names, one with a plain name keeps its place when they are read. -/
theorem get?_reread {members : Members} {cs : List Char} {value : Json}
    (basic : ∀ c ∈ cs, c.toNat < 0x10000) (distinct : (members.map Prod.fst).Nodup)
    (named : get? members (.ofChars cs) = some value) :
    get? (ofPairs (rereadMembers members)) (.ofChars cs) = some (reread value) := by
  have mem := mem_of_get? named
  rw [rereadMembers_eq_map]
  apply get?_ofPairs_of_once
  · rw [List.mem_map]
    exact ⟨_, mem, by rw [(DataText.reread_eq_iff basic).mpr rfl]⟩
  · intro pair mem' same
    obtain ⟨member, other, rfl⟩ := List.mem_map.mp mem'
    have same := (DataText.reread_eq_iff basic).mp same
    rw [List.inj_on_of_nodup_map distinct other mem same]

end Members

end Json

/-! ## Reports -/

namespace Engine

/-- What the engine tells of one path: an object with names that are all different, and the bound in
it. -/
structure PathReport where
  members : Json.Members
  bound : Nat
  plain : (Json.object members).IsPlain
  distinct : (members.map Prod.fst).Nodup
  bounded : Json.Members.get? members "max_cycles" = some (.int bound)

namespace PathReport

def written (report : PathReport) : List Char :=
  Json.written (.object report.members)

end PathReport

def IsInnerBlank (c : Char) : Prop :=
  Text.isBlank c = true ∧ Text.isLineEnd c = false

/-- The text has the reports on lines of their own, with any blanks around them and any blank lines
between them. Its last line may have no end. -/
inductive Prints : List PathReport → List Char → Prop
  | blank {line : List Char} (blank : ∀ c ∈ line, IsInnerBlank c) : Prints [] line
  | last (report : PathReport) {before after : List Char} (ahead : ∀ c ∈ before, IsInnerBlank c)
      (behind : ∀ c ∈ after, IsInnerBlank c) :
      Prints [report] (before ++ (report.written ++ after))
  | blankLine {reports : List PathReport} {line ending text : List Char}
      (blank : ∀ c ∈ line, IsInnerBlank c) (ends : Text.LineEnd ending)
      (rest : Prints reports text) : Prints reports (line ++ (ending ++ text))
  | line (report : PathReport) {reports : List PathReport} {before after ending text : List Char}
      (ahead : ∀ c ∈ before, IsInnerBlank c) (behind : ∀ c ∈ after, IsInnerBlank c)
      (ends : Text.LineEnd ending) (rest : Prints reports text) :
      Prints (report :: reports) ((before ++ (report.written ++ after)) ++ (ending ++ text))

end Engine

namespace Bounds

open Engine

theorem ofLine_written (number : Nat) (report : PathReport) :
    ofLine number (String.ofList report.written) = .ok report.bound := by
  have basic : "max_cycles".toList.all (·.toNat < 0x10000) = true := by decide +kernel
  have name : ∀ c ∈ "max_cycles".toList, c.toNat < 0x10000 :=
    fun c mem => of_decide_eq_true (List.all_eq_true.mp basic c mem)
  have read : Json.read (String.ofList report.written) =
      .ok (.object (Json.Members.ofPairs (Json.rereadMembers report.members))) :=
    (Json.read_text report.plain).trans (by rw [Json.reread])
  have found : Json.Members.get? (Json.Members.ofPairs (Json.rereadMembers report.members))
      "max_cycles" = some (.int report.bound) := by
    have kept := Json.Members.get?_reread name report.distinct report.bounded
    rw [Json.reread] at kept
    exact kept
  simp [ofLine, read, found]

theorem ofLines_blank {line : List Char} (blank : ∀ c ∈ line, Text.isBlank c = true) (number : Nat)
    (more : List (List Char)) : ofLines number (line :: more) = ofLines (number + 1) more := by
  rw [ofLines, Text.trim_blank blank]
  rfl

/-- The blanks around a report do not count. -/
theorem trim_written (report : PathReport) {before after : List Char}
    (ahead : ∀ c ∈ before, Text.isBlank c = true) (behind : ∀ c ∈ after, Text.isBlank c = true) :
    Text.trim (before ++ (report.written ++ after)) = report.written := by
  have first : ∀ c ∈ report.written.head?, Text.isBlank c = false := by
    rw [PathReport.written, Json.written, List.head?_cons]
    rintro c ⟨⟩
    decide
  have last : ∀ c ∈ report.written.getLast?, Text.isBlank c = false := by
    rw [PathReport.written, Json.written, ← List.cons_append, List.getLast?_concat]
    rintro c ⟨⟩
    decide
  rw [← List.append_assoc]
  exact Text.trimBy_between ahead behind first last

theorem ofLines_written (report : PathReport) {before after : List Char}
    (ahead : ∀ c ∈ before, Text.isBlank c = true) (behind : ∀ c ∈ after, Text.isBlank c = true)
    {number : Nat} {more : List (List Char)} {bounds : List Nat}
    (others : ofLines (number + 1) more = .ok bounds) :
    ofLines number ((before ++ (report.written ++ after)) :: more) =
      .ok (report.bound :: bounds) := by
  have some : report.written.isEmpty = false := by
    rw [PathReport.written, Json.written]
    rfl
  rw [ofLines, trim_written report ahead behind]
  simp only [some, ofLine_written, others, bind, Except.bind]
  rfl

/-- Visible characters and inner blanks end no line. -/
theorem inside_written (report : PathReport) {before after : List Char}
    (ahead : ∀ c ∈ before, IsInnerBlank c) (behind : ∀ c ∈ after, IsInnerBlank c) :
    ∀ c ∈ before ++ (report.written ++ after), Text.isLineEnd c = false := by
  have visible : ∀ c ∈ report.written, Text.isLineEnd c = false := by
    intro c mem
    obtain ⟨low, high⟩ := Json.visible_written report.plain c mem
    simp only [Text.isLineEnd, Bool.or_eq_false_iff, Bool.and_eq_false_iff, decide_eq_false_iff_not,
      beq_eq_false_iff_ne]
    omega
  simp only [List.forall_mem_append]
  exact ⟨fun c mem => (ahead c mem).2, visible, fun c mem => (behind c mem).2⟩

/-- Behind the end of a line the bounds are those of what follows, whichever number its lines begin
with. -/
theorem exists_lines_end {ending text : List Char} {bounds : List Nat} (ends : Text.LineEnd ending)
    (h : ∀ number, ofLines number (Text.lines text) = .ok bounds) :
    ∃ more, Text.lines (ending ++ text) = [] :: more ∧
      ∀ number, ofLines (number + 1) more = .ok bounds := by
  obtain ⟨rest, split, same | merged⟩ := Text.lines_end ends text
  · exact ⟨_, split, fun number => same ▸ h (number + 1)⟩
  · refine ⟨_, split, fun number => ?_⟩
    have begins : Text.lines text = [] :: Text.lines rest := by
      rw [merged, Text.lines_cons (by simp)]
      rfl
    have behind := h number
    rwa [begins, ofLines_blank (by simp)] at behind

theorem ofLines_prints {reports : List PathReport} {text : List Char} (h : Prints reports text)
    (number : Nat) :
    ofLines number (Text.lines text) = .ok (reports.map PathReport.bound) := by
  induction h generalizing number with
  | @blank line blank =>
      rw [Text.lines_of_inside fun c mem => (blank c mem).2]
      split
      · rfl
      · rw [ofLines_blank fun c mem => (blank c mem).1]
        rfl
  | @last report before after ahead behind =>
      have some : (before ++ (report.written ++ after)).isEmpty = false := by
        simp [PathReport.written, Json.written]
      rw [Text.lines_of_inside (inside_written report ahead behind), some]
      exact ofLines_written report (fun c mem => (ahead c mem).1)
        (fun c mem => (behind c mem).1) rfl
  | @blankLine reports line ending text blank ends rest ih =>
      obtain ⟨more, split, others⟩ := exists_lines_end ends ih
      rw [Text.lines_append fun c mem => (blank c mem).2, split, Text.foldr_consLine,
        List.append_nil, ofLines_blank fun c mem => (blank c mem).1]
      exact others number
  | @line report reports before after ending text ahead behind ends rest ih =>
      obtain ⟨more, split, others⟩ := exists_lines_end ends ih
      rw [Text.lines_append (inside_written report ahead behind), split, Text.foldr_consLine,
        List.append_nil]
      exact ofLines_written report (fun c mem => (ahead c mem).1) (fun c mem => (behind c mem).1)
        (others number)

/-- The bounds in an output are those of the reports that it was made of. -/
theorem parse_prints {reports : List PathReport} {text : List Char} (h : Prints reports text) :
    parse (String.ofList text) = .ok (reports.map PathReport.bound) := by
  rw [parse, String.toList_ofList]
  exact ofLines_prints h 1

def namedPath : PathReport where
  members := [("path", .string "naïve 🦀"), ("max_cycles", .int 42)]
  bound := 42
  plain := by
    have sound (s : String) : (DataText.ofString s).IsSound := DataText.isSound_ofChars s.toList
    apply Json.IsPlain.object
    · simp only [List.forall_mem_cons]
      exact ⟨sound _, sound _, by simp⟩
    · simp only [List.forall_mem_cons]
      exact ⟨.string (sound _), .int (Number.fitsDecimal_of_lt (by decide)), by simp⟩
  distinct := by decide
  bounded := rfl

/-- Its object stands between blanks, behind a line with a blank in it. -/
theorem parse_prints_named_path :
    parse "\u00A0\n \x7b\"path\": \"na\\u00efve \\ud83e\\udd80\", \"max_cycles\": 42\x7d\t\r\n" =
      .ok [42] := by
  have blank (c : Char) (one : c = '\u00A0' ∨ c = ' ' ∨ c = '\t') : ∀ d ∈ [c], IsInnerBlank d := by
    rw [List.forall_mem_singleton]
    rcases one with rfl | rfl | rfl <;> exact ⟨by decide, by decide⟩
  have printed : Prints [namedPath] (['\u00A0'] ++ (['\n'] ++
      (([' '] ++ (namedPath.written ++ ['\t'])) ++ (['\r', '\n'] ++ [])))) := by
    apply Prints.blankLine (blank _ (by simp)) (.single (by decide))
    apply Prints.line namedPath (blank _ (by simp)) (blank _ (by simp)) .both
    exact .blank (by simp)
  exact parse_prints printed

end Bounds

end TickBound
