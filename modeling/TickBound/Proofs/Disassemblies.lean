import TickBound.Proofs.ProgramFailures
import TickBound.Proofs.SymbolListings

/-!
# Disassemblies

A disassembly has a line for each instruction, with its fields between tabs, and other lines that have
fewer of them. The markers in it are the instructions with one mnemonic: what stands in any other field, or
on any other line, is none. An image passes a check if its symbol is listed and both markers are there.
-/

namespace TickBound

/-- An instruction of a disassembly: behind an address with a colon stand the raw bytes, the mnemonic with
any blanks around it, and the operands. -/
structure Instruction where
  label : List Char
  margin : List Char
  bytes : List Char
  ahead : List Char
  mnemonic : List Char
  behind : List Char
  operands : List (List Char)
  /-- Behind the colon of the address there are only blanks. -/
  blankMargin : ∀ c ∈ margin, Text.isBlank c = true := by decide
  blankAhead : ∀ c ∈ ahead, Text.isBlank c = true := by decide
  blankBehind : ∀ c ∈ behind, Text.isBlank c = true := by decide
  first : ∀ c ∈ mnemonic.head?, Text.isBlank c = false := by decide
  last : ∀ c ∈ mnemonic.getLast?, Text.isBlank c = false := by decide
  /-- No field has a tab or the end of a line in it. -/
  inside : ∀ field ∈ (label ++ ':' :: margin) :: bytes :: (ahead ++ mnemonic ++ behind) :: operands,
    ∀ c ∈ field, c ≠ '\t' ∧ Text.isLineEnd c = false := by decide

namespace Instruction

def fields (instruction : Instruction) : List (List Char) :=
  (instruction.label ++ ':' :: instruction.margin) :: instruction.bytes ::
    (instruction.ahead ++ instruction.mnemonic ++ instruction.behind) :: instruction.operands

def IsMarker (instruction : Instruction) : Prop :=
  Text.lower instruction.mnemonic = ['b', 'k', 'p', 't']

instance : DecidablePred IsMarker := fun instruction =>
  inferInstanceAs (Decidable (Text.lower instruction.mnemonic = ['b', 'k', 'p', 't']))

end Instruction

inductive DisassemblyLine where
  | instruction (shown : Instruction)
  /-- A heading, a name or an empty line: it has fewer than two tabs. -/
  | other (text : List Char) (inside : ∀ c ∈ text, Text.isLineEnd c = false)
      (short : text.count '\t' < 2)

namespace DisassemblyLine

def text : DisassemblyLine → List Char
  | instruction shown => List.intercalate ['\t'] shown.fields
  | other text _ _ => text

def IsMarker : DisassemblyLine → Prop
  | instruction shown => shown.IsMarker
  | other _ _ _ => False

instance : DecidablePred IsMarker := fun line =>
  match line with
  | instruction shown => inferInstanceAs (Decidable shown.IsMarker)
  | other _ _ _ => inferInstanceAs (Decidable False)

end DisassemblyLine

namespace Disassembly

/-! ## Lines -/

theorem isAddress_of_colon {label margin : List Char} (blank : ∀ c ∈ margin, Text.isBlank c = true) :
    isAddress (label ++ ':' :: margin) = true := by
  let inner := label.dropWhile Text.isBlank ++ [':']
  have whole : label ++ ':' :: margin = label.takeWhile Text.isBlank ++ inner ++ margin := by
    rw [← List.append_assoc, List.takeWhile_append_dropWhile, List.append_assoc, List.singleton_append]
  have first : ∀ c ∈ inner.head?, Text.isBlank c = false := by
    intro c mem
    have begins := List.head?_dropWhile_not Text.isBlank label
    cases dropped : label.dropWhile Text.isBlank with
    | nil =>
        obtain rfl : ':' = c := by simpa [inner, dropped] using mem
        decide
    | cons d rest =>
        obtain rfl : d = c := by simpa [inner, dropped] using mem
        simpa [dropped] using begins
  have last : ∀ c ∈ inner.getLast?, Text.isBlank c = false := by
    intro c mem
    obtain rfl : ':' = c := by simpa [inner] using mem
    decide
  have trimmed : Text.trim (label ++ ':' :: margin) = inner := by
    rw [whole]
    exact Text.trimBy_between (fun c mem => List.mem_takeWhile_imp mem) blank first last
  rw [isAddress, trimmed]
  simp [inner]

theorem isMarker_instruction (shown : Instruction) :
    isMarker (DisassemblyLine.instruction shown).text = decide shown.IsMarker := by
  have split : Text.splitAt '\t' (DisassemblyLine.instruction shown).text = shown.fields :=
    Text.splitAt_intercalate (by simp [Instruction.fields]) fun field mem tab =>
      (shown.inside field mem '\t' tab).1 rfl
  have trimmed : Text.trim (shown.ahead ++ shown.mnemonic ++ shown.behind) = shown.mnemonic :=
    Text.trimBy_between shown.blankAhead shown.blankBehind shown.first shown.last
  simp only [isMarker, split, Instruction.fields, isAddress_of_colon shown.blankMargin, Bool.true_and,
    trimmed]
  exact Bool.beq_eq_decide_eq _ _

/-- A line with fewer than two tabs has no third field. -/
theorem isMarker_of_short {line : List Char} (short : line.count '\t' < 2) : isMarker line = false := by
  have few := Text.length_splitAt '\t' line
  unfold isMarker
  split
  · next split =>
      rw [split] at few
      simp only [List.length_cons] at few
      omega
  · rfl

theorem isMarker_text (line : DisassemblyLine) : isMarker line.text = decide line.IsMarker := by
  cases line with
  | instruction shown => exact isMarker_instruction shown
  | other text inside short => exact isMarker_of_short short

/-! ## Counting -/

theorem not_isMarker_nil : isMarker [] = false :=
  isMarker_of_short (by decide)

theorem countMarkers_of_lined {ls : List DisassemblyLine} {text : List Char}
    (printed : Text.Lined (ls.map DisassemblyLine.text) text) :
    countMarkers text = ls.countP fun line => line.IsMarker := by
  rw [countMarkers, printed.countP_lines not_isMarker_nil, List.countP_map]
  exact List.countP_congr fun line _ => by rw [Function.comp_apply, isMarker_text]

/-- Markers of two disassemblies are counted together when a line feed joins them. -/
theorem countMarkers_join (first second : List Char) :
    countMarkers (first ++ '\n' :: second) = countMarkers first + countMarkers second :=
  Text.countP_lines_join not_isMarker_nil first second

end Disassembly

namespace Image

variable {host : Host} {path symbol listing disassembly errors errors' : String}

theorem markerCount_of_disassembly (ran : host.toolOutcome disassembler = .ended 0 disassembly errors)
    (path symbol : String) :
    ((markerCount path symbol).run host).result =
      .ok (Disassembly.countMarkers disassembly.toList) :=
  Host.reading_eq_ok.mpr ⟨disassembly, errors, ran, rfl⟩

/-- With both tools an image passes if its listing has the symbol and its disassembly both markers. -/
theorem checkMarkers_of_tools (listed : host.toolOutcome symbolTool = .ended 0 listing errors)
    (shown : (host.skip 1).toolOutcome disassembler = .ended 0 disassembly errors') :
    ((checkMarkers path symbol).run host).result = .ok () ↔
      SymbolLine.Has listing.toList symbol.toList ∧
        Disassembly.countMarkers disassembly.toList = 2 := by
  rw [checkMarkers_eq_ok, ← SymbolLine.exists_find?]
  constructor
  · intro h
    obtain ⟨⟨address, _, _, ended, found⟩, _, _, ended', counted⟩ := h
    rw [listed] at ended
    rw [shown] at ended'
    cases ended
    cases ended'
    exact ⟨⟨address, found⟩, counted⟩
  · intro h
    obtain ⟨⟨address, found⟩, counted⟩ := h
    exact ⟨⟨address, _, _, listed, found⟩, _, _, shown, counted⟩

/-- Neither tool lets an image fail other than for its markers, if both succeed. -/
theorem exists_markers_fault (listed : host.toolOutcome symbolTool = .ended 0 listing errors)
    (shown : (host.skip 1).toolOutcome disassembler = .ended 0 disassembly errors')
    (fails : ((checkMarkers path symbol).run host).result ≠ .ok ()) :
    ∃ fault, ((checkMarkers path symbol).run host).result = .error fault ∧
      fault.kind? = some .markers := by
  obtain ⟨fault, failed⟩ := exists_error fun _ : Unit => fails
  refine ⟨fault, failed, kind?_of_checkMarkers failed ?_ fun _ => ?_⟩
  · rw [listed]
    exact fun same => by cases same
  · rw [shown]
    exact fun same => by cases same

/-- Of a disassembly the instructions are counted whose mnemonic is that of a marker, and nothing else on
its lines: behind a line feed those of another one count as well. If both tools succeed, an image passes
exactly if its listing has the symbol and there are two markers; otherwise it fails for its markers. -/
theorem two_markers_pass {ls more : List DisassemblyLine} {disassembly other : String}
    (printed : Text.Lined (ls.map DisassemblyLine.text) disassembly.toList)
    (printed' : Text.Lined (more.map DisassemblyLine.text) other.toList)
    (path symbol : String) (host : Host) :
    let markers := ls.countP fun line => line.IsMarker
    (∀ errors, host.toolOutcome disassembler = .ended 0 disassembly errors →
      ((markerCount path symbol).run host).result = .ok markers) ∧
    (∀ errors, host.toolOutcome disassembler = .ended 0 (disassembly ++ "\n" ++ other) errors →
      ((markerCount path symbol).run host).result =
        .ok (markers + more.countP fun line => line.IsMarker)) ∧
    ∀ listing errors errors', host.toolOutcome symbolTool = .ended 0 listing errors →
      (host.skip 1).toolOutcome disassembler = .ended 0 disassembly errors' →
        let result := ((checkMarkers path symbol).run host).result
        let passes := SymbolLine.Has listing.toList symbol.toList ∧ markers = 2
        (result = .ok () ↔ passes) ∧
          (¬ passes → ∃ fault, result = .error fault ∧ fault.kind? = some .markers) := by
  intro markers
  have counted : Disassembly.countMarkers disassembly.toList = markers :=
    Disassembly.countMarkers_of_lined printed
  refine ⟨fun errors ran => ?_, fun errors ran => ?_, fun listing errors errors' listed shown => ?_⟩
  · rw [markerCount_of_disassembly ran, counted]
  · have joined : (disassembly ++ "\n" ++ other).toList = disassembly.toList ++ '\n' :: other.toList := by
      simp
    rw [markerCount_of_disassembly ran, joined, Disassembly.countMarkers_join, counted,
      Disassembly.countMarkers_of_lined printed']
  · intro result passes
    have whole : result = .ok () ↔ passes := by
      rw [checkMarkers_of_tools listed shown, counted]
    exact ⟨whole, fun fails => exists_markers_fault listed shown fun ok => fails (whole.mp ok)⟩

/-- Two markers, one of them with other letters and blanks, among lines that only speak of one. -/
def speakingLines : List DisassemblyLine :=
  let bkpt := ['b', 'k', 'p', 't']
  [.other (bkpt ++ [':']) (by decide) (by decide),
    .instruction
      { label := ['2'], margin := [], bytes := ['b', 'e'], ahead := [], mnemonic := bkpt, behind := []
        operands := [['0']] },
    .instruction
      { label := ['4'], margin := [], bytes := bkpt, ahead := [], mnemonic := ['b'], behind := []
        operands := [bkpt, ['<'] ++ bkpt ++ ['>']] },
    .instruction
      { label := ['6'], margin := [' '], bytes := [], ahead := [' ', '\u00A0']
        mnemonic := ['B', '\u212A', 'p', 'T'], behind := [' '], operands := [] }]

theorem two_markers_pass_speakingLines :
    let disassembly :=
      "bkpt:\n2:\tbe\tbkpt\t0\r\n4:\tbkpt\tb\tbkpt\t<bkpt>\u20296: \t\t \u00A0B\u212ApT "
    let listing := "00000002 T f\n"
    let host : Host := ⟨[.ended 0 listing "", .ended 0 disassembly ""], [], .empty⟩
    let twice : Host := ⟨[.ended 0 (disassembly ++ "\n" ++ disassembly) ""], [], .empty⟩
    Text.Lined (speakingLines.map DisassemblyLine.text) disassembly.toList ∧
      ((checkMarkers "a.elf" "f").run host).result = .ok () ∧
      ((markerCount "a.elf" "f").run twice).result = .ok 4 := by
  intro disassembly listing host twice
  have printed : Text.Lined (speakingLines.map DisassemblyLine.text) disassembly.toList := by
    have same : disassembly.toList = "bkpt:".toList ++ (['\n'] ++ ("2:\tbe\tbkpt\t0".toList ++
        (['\r', '\n'] ++ ("4:\tbkpt\tb\tbkpt\t<bkpt>".toList ++
          (['\u2029'] ++ "6: \t\t \u00A0B\u212ApT ".toList))))) := by decide +kernel
    rw [same]
    exact .line (by decide) (.single rfl) (.line (by decide) .both (.line (by decide) (.single rfl)
      (.last (by decide))))
  have listed : SymbolLine.Has listing.toList ['f'] :=
    SymbolLine.exists_find?.mp ⟨2, by decide +kernel⟩
  have checked := two_markers_pass printed printed "a.elf" "f" host
  have joined := two_markers_pass printed printed "a.elf" "f" twice
  refine ⟨printed, (checked.2.2 listing "" "" rfl rfl).1.mpr ⟨listed, by decide +kernel⟩, ?_⟩
  rw [joined.2.1 "" rfl]
  exact congrArg Except.ok (by decide +kernel)

end Image

end TickBound
