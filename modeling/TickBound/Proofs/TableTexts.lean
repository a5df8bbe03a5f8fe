import TickBound.Proofs.Estimates
import TickBound.Proofs.Fields
import TickBound.Proofs.Independence
import TickBound.Proofs.SurveyFold

/-!
# Tables and the records in them

The rows of a table end in line feeds and have two numbers behind their last two tabs. So a table shows
which records it was made of, whatever their names look like, as long as these stay on one line. A number
that is too long to be shown ends a table: then it shows the records up to there.
-/

namespace TickBound

/-! ## Numbers -/

namespace Number

theorem takeSign_decimal (n : Int) :
    takeSign (decimal n).toList = (decide (n < 0), decimalDigits n.natAbs) := by
  have plain : ∀ c ∈ (decimalDigits n.natAbs).head?, c ≠ '-' ∧ c ≠ '+' := by
    have digits : ∀ d < 10, digitChar d ≠ '-' ∧ digitChar d ≠ '+' := by decide
    intro c mem
    obtain ⟨d, more, spelled, small⟩ := exists_decimalDigits n.natAbs
    obtain rfl : digitChar d = c := by simpa [spelled] using mem
    exact digits d small
  have signed : SignText (sign n) (decide (n < 0)) := by
    unfold sign
    split
    · next below => exact decide_eq_true below ▸ .minus
    · next above => exact decide_eq_false above ▸ .none
  rw [decimal, String.toList_ofList, takeSign_append signed plain]

/-- Different numbers have different decimal texts. -/
theorem decimal_injective : Function.Injective decimal := by
  intro a b same
  have taken := (takeSign_decimal a).symm.trans ((congrArg (takeSign ·.toList) same).trans
    (takeSign_decimal b))
  obtain ⟨signs, digits⟩ := Prod.mk.inj taken
  have sizes := congrArg plainDigits digits
  rw [plainDigits_decimalDigits, plainDigits_decimalDigits] at sizes
  have signs : a < 0 ↔ b < 0 := decide_eq_decide.mp signs
  omega

end Number

/-! ## Lines -/

/-- What stands before the last separator and what stands behind it is told by the whole. -/
theorem Text.append_cons_inj_last {sep : Char} {before before' behind behind' : List Char}
    (last : sep ∉ behind) (last' : sep ∉ behind')
    (same : before ++ sep :: behind = before' ++ sep :: behind') :
    before = before' ∧ behind = behind' := by
  rcases List.append_eq_append_iff.mp same with ⟨rest, rfl, split⟩ | ⟨rest, rfl, split⟩
  · cases rest with
    | nil => exact ⟨(List.append_nil _).symm, (List.cons.inj split).2⟩
    | cons c rest =>
        refine absurd ?_ last
        rw [(List.cons.inj split).2]
        simp
  · cases rest with
    | nil => exact ⟨List.append_nil _, (List.cons.inj split).2.symm⟩
    | cons c rest =>
        refine absurd ?_ last'
        rw [(List.cons.inj split).2]
        simp

namespace Console

theorem toList_linesText (lines : List String) :
    (linesText lines).toList = List.intercalate ['\n'] (lines.map String.toList ++ [[]]) := by
  induction lines with
  | nil => rfl
  | cons line more ih =>
      have first : linesText (line :: more) = line ++ "\n" ++ linesText more := by
        simp [linesText]
      have some : more.map String.toList ++ [[]] ≠ [] := by simp
      rw [first, List.map_cons, List.cons_append, List.intercalate_cons_of_ne_nil some, ← ih]
      simp

/-- Lines without a line feed come back as the parts between the line feeds of their text. -/
theorem splitAt_linesText {lines : List String} (plain : ∀ line ∈ lines, '\n' ∉ line.toList) :
    Text.splitAt '\n' (linesText lines).toList = lines.map String.toList ++ [[]] := by
  rw [toList_linesText]
  apply Text.splitAt_intercalate (by simp)
  simp only [List.forall_mem_append, List.forall_mem_map]
  exact ⟨plain, by simp⟩

theorem linesText_injective {lines lines' : List String} (plain : ∀ line ∈ lines, '\n' ∉ line.toList)
    (plain' : ∀ line ∈ lines', '\n' ∉ line.toList) (same : linesText lines = linesText lines') :
    lines = lines' := by
  have parts := splitAt_linesText plain
  rw [same, splitAt_linesText plain'] at parts
  have texts := List.append_cancel_right parts
  exact (List.map_injective_iff.mpr fun _ _ => String.toList_inj.mp) texts.symm

end Console

/-! ## Rows -/

namespace Record

theorem toList_text (record : Record) :
    record.text.toList =
      (record.name.toList ++ '\t' :: (Number.decimal record.measured).toList) ++
        '\t' :: (Number.decimal record.bound).toList := by
  simp [text, toString]

theorem not_mem_decimal {c : Char} (control : c.toNat < 0x20) (n : Int) :
    c ∉ (Number.decimal n).toList := by
  intro mem
  obtain ⟨low, -⟩ := Json.visible_decimal n c mem
  omega

/-- A row tells its record. -/
theorem text_injective : Function.Injective text := by
  intro first second same
  have whole := congrArg String.toList same
  rw [toList_text, toList_text] at whole
  have last (n : Int) := not_mem_decimal (c := '\t') (by decide) n
  obtain ⟨front, bounds⟩ := Text.append_cons_inj_last (last _) (last _) whole
  obtain ⟨names, counts⟩ := Text.append_cons_inj_last (last _) (last _) front
  have bounds := Number.decimal_injective (String.toList_inj.mp bounds)
  have counts := Number.decimal_injective (String.toList_inj.mp counts)
  have names := String.toList_inj.mp names
  obtain ⟨name, measured, bound⟩ := first
  cases names
  cases counts
  cases bounds
  rfl

theorem not_mem_heading : '\n' ∉ heading.toList := by
  decide

/-- A row is one line if the name is. -/
theorem plain_text {record : Record} (plain : '\n' ∉ record.name.toList) :
    '\n' ∉ record.text.toList := by
  have number (n : Int) := not_mem_decimal (c := '\n') (by decide) n
  simp [toList_text, plain, number]

/-- The text of a table tells its records. -/
theorem table_injective {first second : List Record}
    (plain : ∀ record ∈ first, '\n' ∉ record.name.toList)
    (plain' : ∀ record ∈ second, '\n' ∉ record.name.toList)
    (same : Console.linesText (heading :: first.map text) =
      Console.linesText (heading :: second.map text)) :
    first = second := by
  have lines {records : List Record} (plain : ∀ record ∈ records, '\n' ∉ record.name.toList) :
      ∀ line ∈ heading :: records.map text, '\n' ∉ line.toList := by
    simp only [List.forall_mem_cons, List.forall_mem_map]
    exact ⟨not_mem_heading, fun record mem => plain_text (plain record mem)⟩
  have rows := Console.linesText_injective (lines plain) (lines plain') same
  exact List.map_injective_iff.mpr text_injective (List.cons.inj rows).2

/-! ## Printing records that are there -/

variable {σ : Type}

/-- The rows are printed up to the first record with a number that cannot be shown. -/
theorem printRows_run (records : List Record) (s : σ) :
    (printRows records).run s =
      ⟨if ∀ record ∈ records, record.Fits then .ok () else .error (.outside .decimalTooLong),
        (records.takeWhile fun record => record.Fits).map fun record => .printed record.text, s⟩ := by
  induction records with
  | nil => rfl
  | cons record more ih =>
      by_cases fits : record.Fits
      · simp [printRows, fits, ih]
      · simp [printRows, fits]

theorem print_result_ok {records : List Record} {s : σ} :
    ((print records).run s).result = .ok () ↔ ∀ record ∈ records, record.Fits := by
  simp [print, printRows_run]

/-- The lines are those of the records up to the first that cannot be shown. -/
theorem printedLines_print (records : List Record) (s : σ) :
    Console.printedLines ((print records).run s).events =
      heading :: (records.takeWhile fun record => record.Fits).map text := by
  have rows (shown : List Record) :
      Console.printedLines (shown.map fun record => Event.printed record.text) = shown.map text := by
    simp [Console.printedLines, List.filterMap_map]
  simp only [print, Act.run_bind, Act.run_emit, Course.follow_ok, printRows_run, ← rows]
  rfl

theorem takeWhile_fits {records : List Record} (fits : ∀ record ∈ records, record.Fits) :
    (records.takeWhile fun record => record.Fits) = records :=
  List.takeWhile_eq_self_iff.mpr fun record mem => decide_eq_true (fits record mem)

/-- A table can be read back: whatever their numbers are and their names look like, as long as these have
no line feed, two lists of records with the same table are the same. So if both are printed to their end,
and to one text, they are the same; and whether or not they are, one text shows the same records up to the
first number, if any, that is too long to be shown. Only such a number keeps records from being printed. -/
theorem table_read_back {first second : List Record}
    (plain : ∀ record ∈ first, '\n' ∉ record.name.toList)
    (plain' : ∀ record ∈ second, '\n' ∉ record.name.toList) :
    (Console.linesText (heading :: first.map text) = Console.linesText (heading :: second.map text) →
      first = second) ∧
    ∀ s s' : σ,
      let one := (print first).run s
      let other := (print second).run s'
      (Console.linesText (Console.printedLines one.events) =
          Console.linesText (Console.printedLines other.events) →
        (first.takeWhile fun record => record.Fits) = (second.takeWhile fun record => record.Fits) ∧
          (one.result = .ok () → other.result = .ok () → first = second)) ∧
      (one.result = .ok () ↔ ∀ record ∈ first, record.Fits) := by
  refine ⟨table_injective plain plain', fun s s' => ⟨fun same => ?_, print_result_ok⟩⟩
  rw [printedLines_print, printedLines_print] at same
  have shown := table_injective (fun record mem => plain record (List.takeWhile_subset _ mem))
    (fun record mem => plain' record (List.takeWhile_subset _ mem)) same
  refine ⟨shown, fun through through' => ?_⟩
  rwa [takeWhile_fits (print_result_ok.mp through), takeWhile_fits (print_result_ok.mp through')]
    at shown

/-- Names that look like columns, like nothing and like the heading. -/
theorem table_read_back_columns :
    let first : List Record := [⟨"a\t1", 2, 3⟩, ⟨"", -4, 0⟩]
    let second : List Record := [⟨"a", 1, 2⟩, ⟨heading, -4, 0⟩]
    (∀ record ∈ first, '\n' ∉ record.name.toList) ∧ (∀ record ∈ second, '\n' ∉ record.name.toList) ∧
      Console.linesText (heading :: first.map text) ≠ Console.linesText (heading :: second.map text) ∧
      ((print first).run ()).result = .ok () := by
  intro first second
  have plain : ∀ record ∈ first, '\n' ∉ record.name.toList := by decide
  have plain' : ∀ record ∈ second, '\n' ∉ record.name.toList := by decide
  have read := @table_read_back Unit first second plain plain'
  refine ⟨plain, plain', fun same => absurd (read.1 same) (by decide), ?_⟩
  rw [(read.2 () ()).2]
  have small (n : Int) (h : n.natAbs < 10 ^ 8) := Number.fitsDecimal_of_lt h
  intro record mem
  simp only [first, List.mem_cons, List.not_mem_nil, or_false] at mem
  obtain rfl | rfl := mem
  · exact ⟨small _ (by decide), small _ (by decide)⟩
  · exact ⟨small _ (by decide), small _ (by decide)⟩

/-- Records whose numbers are too long to be shown leave a table with nothing but its heading. -/
theorem table_of_unshown_records :
    let table (records : List Record) :=
      Console.linesText (Console.printedLines ((print records).run ()).events)
    let first : List Record := [⟨"a", Number.leastTooLong, 0⟩]
    let second : List Record := [⟨"b", Number.leastTooLong, 0⟩]
    (∀ record ∈ first, '\n' ∉ record.name.toList) ∧ (∀ record ∈ second, '\n' ∉ record.name.toList) ∧
      table first = table second ∧ first ≠ second := by
  have long := Number.fitsDecimal_leastTooLong
  -- the number itself is never written out
  generalize (Number.leastTooLong : Int) = number at long ⊢
  intro table first second
  have bare (name : String) : table [⟨name, number, 0⟩] = Console.linesText [heading] := by
    simp only [table, printedLines_print, List.takeWhile_cons, Fits, long]
    rfl
  have same : table first = table second := by simp only [first, second, bare]
  exact ⟨by simp [first], by simp [second], same, by simp [first, second]⟩

end Record

/-! ## Numbers that were read -/

namespace Number

theorem plainDigits_lt {cs : List Char} (digits : ∀ c ∈ cs, isPlainDigit c = true) :
    plainDigits cs < 10 ^ cs.length := by
  have small : ∀ d ∈ (cs.map fun c => c.toNat - 0x30).reverse, d < 10 := by
    intro d mem
    obtain ⟨c, inside, rfl⟩ := List.mem_map.mp (List.mem_reverse.mp mem)
    have digit := digits c inside
    simp only [isPlainDigit, Bool.and_eq_true, decide_eq_true_eq, Char.le_def,
      UInt32.le_iff_toNat_le] at digit
    have top : ('9' : Char).val.toNat = 0x39 := rfl
    rw [Char.toNat]
    omega
  have bounded := Nat.ofDigits_lt_base_pow_length (by decide) small
  rwa [← ofDigits_eq, List.length_reverse, List.length_map] at bounded

/-- A number with few enough digits can be shown. -/
theorem fitsDecimal_signed {cs : List Char} (digits : ∀ c ∈ cs, isPlainDigit c = true)
    (short : cs.length ≤ decimalLimit) (negative : Bool) :
    fitsDecimal (signed negative (plainDigits cs)) = true := by
  have size : (signed negative (plainDigits cs)).natAbs = plainDigits cs := by
    cases negative <;> simp [signed]
  have bounded := plainDigits_lt digits
  unfold fitsDecimal
  generalize decimalLimit = limit at short
  rw [size]
  exact decide_eq_true (Nat.lt_of_lt_of_le bounded (Nat.pow_le_pow_right (by decide) short))

end Number

namespace Json

variable {n : Int} {cs : List Char} {negative : Bool}

theorem IsWhole.digits (h : IsWhole cs) : ∀ c ∈ cs, Number.isPlainDigit c = true := by
  rcases h with rfl | ⟨⟨-, digits⟩, -⟩
  · decide
  · exact digits

theorem UnsignedText.fits (h : UnsignedText negative cs (.int n)) : Number.fitsDecimal n = true := by
  cases h with
  | int whole short => exact Number.fitsDecimal_signed whole.digits short negative

/-- An integer that is read from a text can be shown. -/
theorem ValueText.fits (h : ValueText cs (.int n)) : Number.fitsDecimal n = true := by
  cases h with
  | word isWord => simp [words] at isWord
  | number isNumber =>
      cases isNumber with
      | positive text => exact text.fits
      | negative text => exact text.fits

theorem ObjectText.fits {text : String} {pairs : List (DataText × Json)} (h : ObjectText text pairs)
    {name : DataText} (last : last? pairs name = some (.int n)) : Number.fitsDecimal n = true := by
  obtain ⟨pair, found, same⟩ := Option.map_eq_some_iff.mp last
  have mem := List.mem_reverse.mp (List.mem_of_find?_eq_some found)
  cases h with
  | empty => cases mem
  | members _ _ _ _ _ values =>
      obtain ⟨member, inside, rfl⟩ := List.mem_map.mp mem
      have text := values member inside
      have value : member.value = .int n := same
      rw [value] at text
      exact text.fits

end Json

theorem Bounds.Tells.fits {line : List Char} {n : Int} (h : Bounds.Tells line (.int n)) :
    Number.fitsDecimal n = true := by
  obtain ⟨pairs, isObject, last⟩ := h
  exact isObject.fits last

variable {settings : Settings} {path : String}

/-- Paths that are found were told by the output of the engine. -/
theorem Engine.parse_of_explore {options : EngineOptions} {entry : String} {host : Host}
    {bounds : List Nat} (h : ((explore settings options path entry).run host).result = .ok bounds) :
    ∃ output, Bounds.parse output = .ok bounds := by
  obtain ⟨address, -, h⟩ := Act.bind_result_ok.mp h
  obtain ⟨-, -, h⟩ := Act.bind_result_ok.mp h
  obtain ⟨arguments, -, h⟩ := Act.bind_result_ok.mp h
  obtain ⟨finished, -, h⟩ := Act.bind_result_ok.mp h
  split at h
  · cases h
  · obtain ⟨found, parsed, h⟩ := Act.bind_result_ok.mp h
    have same : found = bounds := by
      dsimp only at h
      split at h
      · obtain ⟨-, -, h⟩ := Act.bind_result_ok.mp h
        cases h
        rfl
      · cases h
        rfl
    exact ⟨finished.output, same ▸ mapError_eq_ok.mp parsed⟩

/-- A bound that is found can be shown, as it was read from the output of the engine. -/
theorem Engine.fits_of_bound {options : EngineOptions} {entry : String} {host : Host} {most : Nat}
    (h : ((bound settings options path entry).run host).result = .ok most) :
    Number.fitsDecimal most = true := by
  obtain ⟨bounds, explored, found⟩ := Act.bind_result_ok.mp h
  obtain ⟨output, parsed⟩ := parse_of_explore explored
  have largest := Bounds.worst_eq_ok.mp (mapError_eq_ok.mp found)
  obtain ⟨line, -, told⟩ := (Bounds.parse_eq_ok.mp parsed).mem_iff.mp largest.1
  exact told.fits

/-! ## Tables of a corpus -/

namespace Bench

theorem fits_of_record {bench : Bench} {kept : Record}
    (h : ((record settings path).run bench).result = .ok kept) : kept.Fits := by
  obtain ⟨-, measured, bound, -, found, fits, rfl⟩ := record_result_ok.mp h
  exact ⟨fits, Engine.fits_of_bound found⟩

end Bench

theorem Series.fits {bench last : Bench} {paths : List String} {records : List Record}
    {events : List Event} (h : Series settings bench paths records events last) :
    ∀ record ∈ records, record.Fits := by
  induction h with
  | nil => simp
  | cons first rest ih =>
      exact List.forall_mem_cons.mpr ⟨Bench.fits_of_record (congrArg Course.result first), ih⟩

theorem Ends.fits {bench : Bench} {paths : List String} {stop : Option Fault} {records : List Record}
    {events : List Event} {result : Except Fault Unit}
    (h : Ends settings bench paths stop records events result) : ∀ record ∈ records, record.Fits := by
  cases h with
  | through series => exact series.fits
  | stopped series => exact series.fits
  | failed _ series => exact series.fits

/-- The table of a corpus is printed as its records are: all of them can be shown. -/
theorem Bench.printTable_prints (settings : Settings) (directory : String) (bench : Bench) :
    let course := (printTable settings directory).run bench
    let images := Corpus.yielded bench.host.files directory
    ∃ records events, Ends settings bench images.1 images.2 records events course.result ∧
      Console.printedLines course.events =
        Console.printedLines ((Record.print records).run bench).events := by
  intro course images
  obtain ⟨records, events, ends, lines, -⟩ := printTable_ends settings directory bench
  refine ⟨records, events, ends, ?_⟩
  rw [lines, Record.printedLines_print, Record.takeWhile_fits ends.fits]

end TickBound
