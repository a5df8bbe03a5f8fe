import TickBound.Fault.Basic
import TickBound.Proofs.DecimalTexts
import TickBound.Proofs.IntegerTexts

/-!
# Settings one by one

Reading the variables is settled field by field: each setting is what its own variable gives, by the
form of the setting alone. The first variable whose text has no value is reported, and when all have
one the settings are checked together. What is reported names the variable it is about.
-/

namespace TickBound

namespace Settings

/-! ## Fields -/

inductive Form where
  | text
  | integer
  | duration
  | truth

@[reducible]
def Form.Value : Form → Type
  | text => String
  | integer => Int
  | duration => Float
  | truth => Bool

namespace Variable

def all : List Variable :=
  [probe, target, corpus, entrySymbol, calibrationOffset, haltTimeout, httpTimeout, flashCommand,
    flashTimeout, exploreCommand, verifyMarkers, logLevel]

theorem mem_all (v : Variable) : v ∈ all := by
  cases v <;> decide

theorem key_inj {u v : Variable} (h : u.key = v.key) : u = v := by
  have apart : ∀ u ∈ all, ∀ v ∈ all, u.key = v.key → u = v := by decide
  exact apart u (mem_all u) v (mem_all v) h

@[reducible]
def form : Variable → Form
  | calibrationOffset => .integer
  | haltTimeout | httpTimeout | flashTimeout => .duration
  | verifyMarkers => .truth
  | probe | target | corpus | entrySymbol | flashCommand | exploreCommand | logLevel => .text

end Variable

def field (settings : Settings) : (v : Variable) → v.form.Value
  | .probe => settings.probe
  | .target => settings.target
  | .corpus => settings.corpus
  | .entrySymbol => settings.entrySymbol
  | .calibrationOffset => settings.calibrationOffset
  | .haltTimeout => settings.haltTimeout
  | .httpTimeout => settings.httpTimeout
  | .flashCommand => settings.flashCommand
  | .flashTimeout => settings.flashTimeout
  | .exploreCommand => settings.exploreCommand
  | .verifyMarkers => settings.verifyMarkers
  | .logLevel => settings.logLevel

/-! ## What texts mean -/

def word (text : String) : String :=
  String.ofList (Text.lower text.toList)

/-- The trimmed text stands for the value. -/
def Means : (form : Form) → String → form.Value → Prop
  | .text, text, value => value = text
  | .integer, text, value => Number.IntegerText text.toList value
  | .duration, text, value => Number.RealText text.toList value ∧ ¬ value ≤ 0
  | .truth, text, value =>
      value = true ∧ word text ∈ trueWords ∨ value = false ∧ word text ∈ falseWords

/-- The trimmed text of the variable stands for no value of its form, and this is reported. -/
inductive Wrong (v : Variable) (text : String) : ReadFault → Prop
  | notInteger :
      v.form = .integer → (∀ n, ¬ Number.IntegerText text.toList n) → Wrong v text (.notInteger v text)
  | notNumber :
      v.form = .duration → (∀ x, ¬ Number.RealText text.toList x) → Wrong v text (.notNumber v text)
  | notPositive {x : Float} :
      v.form = .duration → Number.RealText text.toList x → x ≤ 0 → Wrong v text (.notPositive v text)
  | notBoolean :
      v.form = .truth → word text ∉ trueWords → word text ∉ falseWords →
        Wrong v text (.notBoolean v text)

/-- What the variables give for a setting: its default if its variable is not set, and otherwise the
value of the trimmed text. -/
def Gives (vars : Variables) (v : Variable) (value : v.form.Value) : Prop :=
  match vars v.key with
  | none => value = defaults.field v
  | some text => Means v.form (Text.trimmed text) value

theorem gives_iff {vars : Variables} {v : Variable} {value : v.form.Value} :
    Gives vars v value ↔
      vars v.key = none ∧ value = defaults.field v ∨
        ∃ text, vars v.key = some text ∧ Means v.form (Text.trimmed text) value := by
  unfold Gives
  cases vars v.key <;> simp

/-- The variable is set to a text that has no value. -/
def Fails (vars : Variables) (v : Variable) (fault : ReadFault) : Prop :=
  ∃ text, vars v.key = some text ∧ Wrong v (Text.trimmed text) fault

def conversion : (form : Form) → Conversion form.Value
  | .text => asText
  | .integer => asInteger
  | .duration => asDuration
  | .truth => asBoolean

theorem asInteger_eq_ok {v : Variable} {text : String} {n : Int} :
    asInteger v text = .ok n ↔ Number.IntegerText text.toList n := by
  rw [← Number.integer?_eq_some, asInteger]
  cases Number.integer? text.toList <;> simp

theorem asInteger_eq_error {v : Variable} {text : String} {fault : ReadFault} :
    asInteger v text = .error fault ↔
      (∀ n, ¬ Number.IntegerText text.toList n) ∧ fault = .notInteger v text := by
  simp only [← Number.integer?_eq_some]
  rw [asInteger]
  cases Number.integer? text.toList <;> simp [eq_comm]

theorem asDuration_eq_ok {v : Variable} {text : String} {x : Float} :
    asDuration v text = .ok x ↔ Number.RealText text.toList x ∧ ¬ x ≤ 0 := by
  rw [← Number.real?_eq_some, asDuration]
  cases Number.real? text.toList with
  | none => simp
  | some y =>
      by_cases low : y ≤ 0
      · simp only [low, if_true, reduceCtorEq, Option.some.injEq, false_iff, not_and, not_not]
        rintro rfl
        exact low
      · simp only [low, if_false, Except.ok.injEq, Option.some.injEq, iff_self_and]
        rintro rfl
        exact low

theorem asDuration_eq_error {v : Variable} {text : String} {fault : ReadFault} :
    asDuration v text = .error fault ↔
      (∀ x, ¬ Number.RealText text.toList x) ∧ fault = .notNumber v text ∨
        (∃ x, Number.RealText text.toList x ∧ x ≤ 0) ∧ fault = .notPositive v text := by
  simp only [← Number.real?_eq_some]
  rw [asDuration]
  cases Number.real? text.toList with
  | none => simp [eq_comm]
  | some y =>
      by_cases low : y ≤ 0
      · simp [low, eq_comm]
      · simp [low]

theorem asBoolean_eq_ok {v : Variable} {text : String} {value : Bool} :
    asBoolean v text = .ok value ↔
      value = true ∧ word text ∈ trueWords ∨ value = false ∧ word text ∈ falseWords := by
  have apart : ∀ w ∈ trueWords, w ∉ falseWords := by decide
  unfold asBoolean
  simp only [List.contains_iff_mem]
  change (if word text ∈ trueWords then _ else if word text ∈ falseWords then _ else _) = _ ↔ _
  by_cases yes : word text ∈ trueWords
  · simp [yes, apart _ yes, eq_comm]
  · by_cases no : word text ∈ falseWords
    · simp [yes, no, eq_comm]
    · simp [yes, no]

theorem asBoolean_eq_error {v : Variable} {text : String} {fault : ReadFault} :
    asBoolean v text = .error fault ↔
      (word text ∉ trueWords ∧ word text ∉ falseWords) ∧ fault = .notBoolean v text := by
  unfold asBoolean
  simp only [List.contains_iff_mem]
  change (if word text ∈ trueWords then _ else if word text ∈ falseWords then _ else _) = _ ↔ _
  by_cases yes : word text ∈ trueWords
  · simp [yes]
  · by_cases no : word text ∈ falseWords
    · simp [yes, no]
    · simp [yes, no, eq_comm]

/-- A text is converted to the value it stands for. -/
theorem conversion_eq_ok {form : Form} {v : Variable} {text : String} {value : form.Value} :
    conversion form v text = .ok value ↔ Means form text value := by
  cases form with
  | text =>
      rw [conversion, asText, Means, Except.ok.injEq]
      exact eq_comm
  | integer => exact asInteger_eq_ok
  | duration => exact asDuration_eq_ok
  | truth => exact asBoolean_eq_ok

/-- What is reported of a text is that it has no value. -/
theorem conversion_eq_error {v : Variable} {text : String} {fault : ReadFault} :
    conversion v.form v text = .error fault ↔ Wrong v text fault := by
  constructor
  · intro h
    cases form : v.form with
    | text =>
        rw [form] at h
        cases h
    | integer =>
        rw [form] at h
        obtain ⟨none, rfl⟩ := asInteger_eq_error.mp h
        exact .notInteger form none
    | duration =>
        rw [form] at h
        rcases asDuration_eq_error.mp h with ⟨none, rfl⟩ | ⟨⟨x, real, low⟩, rfl⟩
        · exact .notNumber form none
        · exact .notPositive form real low
    | truth =>
        rw [form] at h
        obtain ⟨none, rfl⟩ := asBoolean_eq_error.mp h
        exact .notBoolean form none.1 none.2
  · intro h
    cases h with
    | notInteger form none =>
        rw [form]
        exact asInteger_eq_error.mpr ⟨none, rfl⟩
    | notNumber form none =>
        rw [form]
        exact asDuration_eq_error.mpr (.inl ⟨none, rfl⟩)
    | notPositive form real low =>
        rw [form]
        exact asDuration_eq_error.mpr (.inr ⟨⟨_, real, low⟩, rfl⟩)
    | notBoolean form notTrue notFalse =>
        rw [form]
        exact asBoolean_eq_error.mpr ⟨⟨notTrue, notFalse⟩, rfl⟩

/-! ## Reading one setting after another -/

def fieldValue (vars : Variables) (v : Variable) : Except ReadFault v.form.Value :=
  value vars v (conversion v.form) (defaults.field v)

theorem fieldValue_eq_ok {vars : Variables} {v : Variable} {value : v.form.Value} :
    fieldValue vars v = .ok value ↔ Gives vars v value := by
  unfold fieldValue Gives Settings.value
  cases vars v.key with
  | none => simp [eq_comm]
  | some text => exact conversion_eq_ok

theorem fieldValue_eq_error {vars : Variables} {v : Variable} {fault : ReadFault} :
    fieldValue vars v = .error fault ↔ Fails vars v fault := by
  unfold fieldValue Fails Settings.value
  cases vars v.key with
  | none => simp
  | some text => simp [conversion_eq_error]

/-- Among the variables, taken in order, the first whose text has no value is reported. -/
def FirstFails (vars : Variables) (fault : ReadFault) : List Variable → Prop
  | [] => False
  | v :: rest => Fails vars v fault ∨ (∃ value, Gives vars v value) ∧ FirstFails vars fault rest

theorem firstFails_iff {vars : Variables} {fault : ReadFault} {vs : List Variable} :
    FirstFails vars fault vs ↔
      ∃ before v after, vs = before ++ v :: after ∧ (∀ u ∈ before, ∃ value, Gives vars u value) ∧
        Fails vars v fault := by
  induction vs with
  | nil => simp [FirstFails]
  | cons v rest ih =>
      rw [FirstFails, ih]
      constructor
      · intro h
        cases h with
        | inl fails => exact ⟨[], v, rest, rfl, by simp, fails⟩
        | inr later =>
            obtain ⟨gives, before, u, after, rfl, others, fails⟩ := later
            exact ⟨v :: before, u, after, rfl, List.forall_mem_cons.mpr ⟨gives, others⟩, fails⟩
      · intro h
        obtain ⟨before, u, after, split, gives, fails⟩ := h
        cases before with
        | nil =>
            obtain ⟨rfl, -⟩ := List.cons.inj split
            exact .inl fails
        | cons w before =>
            obtain ⟨rfl, rfl⟩ := List.cons.inj split
            rw [List.forall_mem_cons] at gives
            exact .inr ⟨gives.1, before, u, after, rfl, gives.2, fails⟩

theorem bind_eq_ok {α β : Type} {x : Except ReadFault α} {f : α → Except ReadFault β} {b : β} :
    x >>= f = .ok b ↔ ∃ a, x = .ok a ∧ f a = .ok b := by
  cases x <;> simp [bind, Except.bind]

theorem bind_eq_error {α β : Type} {x : Except ReadFault α} {f : α → Except ReadFault β}
    {fault : ReadFault} :
    x >>= f = .error fault ↔ x = .error fault ∨ ∃ a, x = .ok a ∧ f a = .error fault := by
  cases x <;> simp [bind, Except.bind]

/-- Conversion is field by field. -/
theorem convert_eq_ok {vars : Variables} {settings : Settings} :
    convert vars = .ok settings ↔ ∀ v, Gives vars v (settings.field v) := by
  constructor
  · intro h v
    rw [← fieldValue_eq_ok]
    unfold convert at h
    simp only [bind_eq_ok] at h
    obtain ⟨_, h1, _, h2, _, h3, _, h4, _, h5, _, h6, _, h7, _, h8, _, h9, _, h10, _, h11, _, h12,
      built⟩ := h
    cases built
    cases v <;> assumption
  · intro h
    have each (v : Variable) : fieldValue vars v = .ok (settings.field v) :=
      fieldValue_eq_ok.mpr (h v)
    unfold convert
    simp only [bind_eq_ok]
    exact ⟨_, each .probe, _, each .target, _, each .corpus, _, each .entrySymbol,
      _, each .calibrationOffset, _, each .haltTimeout, _, each .httpTimeout, _, each .flashCommand,
      _, each .flashTimeout, _, each .exploreCommand, _, each .verifyMarkers, _, each .logLevel, rfl⟩

theorem convert_eq_error {vars : Variables} {fault : ReadFault} :
    convert vars = .error fault ↔ FirstFails vars fault Variable.all := by
  simp only [Variable.all, FirstFails, ← fieldValue_eq_error, ← fieldValue_eq_ok]
  unfold convert
  -- what is read later does not depend on the values read before, up to the record at the end
  simp only [bind_eq_error, exists_and_right, reduceCtorEq, and_false, exists_false]
  rfl

/-! ## The settings together -/

/-- The settings name a probe, the calibration offset is not negative and the level is one of the
four, in any letter case. -/
structure Accepted (settings : Settings) : Prop where
  probe : settings.probe ≠ ""
  offset : 0 ≤ settings.calibrationOffset
  level : ∃ level : Level, level.name.toList = settings.logLevel.toList.map Level.capital

/-- What is reported of settings that are not accepted: the probe comes first, then the offset and then
the level. -/
inductive Refused (settings : Settings) : ReadFault → Prop
  | probe : settings.probe = "" → Refused settings .probeMissing
  | offset :
      settings.probe ≠ "" → settings.calibrationOffset < 0 → Refused settings .offsetNegative
  | level :
      settings.probe ≠ "" → 0 ≤ settings.calibrationOffset →
        (∀ level : Level, level.name.toList ≠ settings.logLevel.toList.map Level.capital) →
          Refused settings .levelUnknown

theorem isNone_ofName? {text : String} :
    (Level.ofName? text).isNone = true ↔
      ∀ level : Level, level.name.toList ≠ text.toList.map Level.capital := by
  have all (level : Level) : level ∈ Level.all := by
    cases level <;> decide
  unfold Level.ofName?
  simp [all]

theorem check_eq_ok {settings : Settings} : check settings = .ok () ↔ Accepted settings := by
  unfold check
  by_cases probe : settings.probe = ""
  · simp only [if_pos probe, reduceCtorEq, false_iff]
    exact fun accepted => accepted.probe probe
  · by_cases offset : settings.calibrationOffset < 0
    · simp only [if_neg probe, if_pos offset, reduceCtorEq, false_iff]
      exact fun accepted => absurd offset (Int.not_lt.mpr accepted.offset)
    · by_cases level : (Level.ofName? settings.logLevel).isNone
      · simp only [if_neg probe, if_neg offset, if_pos level, reduceCtorEq, false_iff]
        intro accepted
        obtain ⟨named, name⟩ := accepted.level
        exact isNone_ofName?.mp level named name
      · simp only [if_neg probe, if_neg offset, if_neg level, true_iff]
        rw [isNone_ofName?] at level
        simp only [ne_eq, not_forall, not_not] at level
        exact ⟨probe, Int.not_lt.mp offset, level⟩

theorem check_eq_error {settings : Settings} {fault : ReadFault} :
    check settings = .error fault ↔ Refused settings fault := by
  constructor
  · intro h
    unfold check at h
    split at h
    · next probe =>
        cases h
        exact .probe probe
    · next probe =>
        split at h
        · next offset =>
            cases h
            exact .offset probe offset
        · next offset =>
            split at h
            · next level =>
                cases h
                exact .level probe (Int.not_lt.mp offset) (isNone_ofName?.mp level)
            · cases h
  · intro h
    unfold check
    cases h with
    | probe probe => rw [if_pos probe]
    | offset probe offset => rw [if_neg probe, if_pos offset]
    | level probe offset level =>
        rw [if_neg probe, if_neg (Int.not_lt.mpr offset), if_pos (isNone_ofName?.mpr level)]

/-! ## What is read -/

section

variable {vars : Variables} {settings : Settings} {fault : ReadFault}

/-- What is read is what was converted and passed the check. -/
theorem read_eq_ok :
    read vars = .ok settings ↔ convert vars = .ok settings ∧ check settings = .ok () := by
  unfold read
  simp only [bind_eq_ok, Except.ok.injEq]
  constructor
  · intro h
    obtain ⟨found, converted, u, checked, rfl⟩ := h
    exact ⟨converted, checked⟩
  · intro h
    exact ⟨settings, h.1, (), h.2, rfl⟩

theorem read_eq_error :
    read vars = .error fault ↔
      convert vars = .error fault ∨
        ∃ settings, convert vars = .ok settings ∧ check settings = .error fault := by
  unfold read
  simp only [bind_eq_error, reduceCtorEq, and_false, exists_false, or_false]

theorem gives_of_read (h : read vars = .ok settings) (v : Variable) :
    Gives vars v (settings.field v) :=
  convert_eq_ok.mp (read_eq_ok.mp h).1 v

theorem accepted_of_read (h : read vars = .ok settings) : Accepted settings :=
  check_eq_ok.mp (read_eq_ok.mp h).2

/-- Settings that were read have an offset that is not below zero. -/
theorem nonneg_of_read (h : read vars = .ok settings) : 0 ≤ settings.calibrationOffset :=
  (accepted_of_read h).offset

end

/-! ## What is reported -/

def ReadFault.variable : ReadFault → Variable
  | notBoolean v _ | notInteger v _ | notNumber v _ | notPositive v _ => v
  | probeMissing => .probe
  | offsetNegative => .calibrationOffset
  | levelUnknown => .logLevel

/-- Every message begins with the name of the variable that it is about. -/
theorem message_names (fault : ReadFault) :
    ∃ wording, fault.message = fault.variable.key ++ wording := by
  cases fault with
  | notBoolean v text | notInteger v text | notNumber v text | notPositive v text =>
      exact ⟨_, String.append_assoc⟩
  | probeMissing | offsetNegative => exact ⟨_, rfl⟩
  | levelUnknown => exact ⟨_, String.append_assoc⟩

theorem Fails.variable {vars : Variables} {v : Variable} {fault : ReadFault}
    (h : Fails vars v fault) : fault.variable = v := by
  obtain ⟨text, -, wrong⟩ := h
  cases wrong <;> rfl

/-- Only the own variable of a setting has a say in its value. -/
theorem gives_of_key {vars vars' : Variables} {v : Variable} (own : vars' v.key = vars v.key)
    (value : v.form.Value) : Gives vars' v value ↔ Gives vars v value := by
  unfold Gives
  rw [own]

theorem Gives.unique {vars : Variables} {v : Variable} {value value' : v.form.Value}
    (h : Gives vars v value) (h' : Gives vars v value') : value = value' := by
  rw [← fieldValue_eq_ok] at h h'
  exact Except.ok.inj (h.symm.trans h')

theorem read_of_keys {vars vars' : Variables} (same : ∀ v : Variable, vars' v.key = vars v.key) :
    read vars' = read vars := by
  have values {α : Type} (v : Variable) (conversion : Conversion α) (default : α) :
      value vars' v conversion default = value vars v conversion default := by
    rw [value, value, same v]
  have converted : convert vars' = convert vars := by
    simp only [convert, values]
  rw [read, read, converted]

/-- Reading is settled variable by variable, in their order. Settings are read when every variable gives
its own setting and they are accepted together. Otherwise the first variable whose text has no value is
reported, or else the first thing that is wrong with the settings, always as a fault of the settings and
by a message that begins with the name of the variable. What a variable gives depends on that variable
alone, and nothing but the variables counts. -/
theorem read_by_field (vars : Variables) :
    (∀ settings, read vars = .ok settings ↔
      (∀ v, Gives vars v (settings.field v)) ∧ Accepted settings) ∧
    (∀ fault, read vars = .error fault ↔
      (∃ before v after, Variable.all = before ++ v :: after ∧
        (∀ u ∈ before, ∃ value, Gives vars u value) ∧ Fails vars v fault) ∨
      ∃ settings, (∀ v, Gives vars v (settings.field v)) ∧ Refused settings fault) ∧
    (∀ fault, read vars = .error fault → (Fault.settings fault).kind? = some .settings ∧
      ∃ wording, fault.message = fault.variable.key ++ wording) ∧
    (∀ v fault, Fails vars v fault → fault.variable = v) ∧
    (∀ vars' settings settings' v, read vars = .ok settings → read vars' = .ok settings' →
      vars' v.key = vars v.key → settings'.field v = settings.field v) ∧
    ∀ vars', (∀ v : Variable, vars' v.key = vars v.key) → read vars' = read vars := by
  refine ⟨fun settings => ?_, fun fault => ?_, fun fault _ => ⟨rfl, message_names fault⟩,
    fun v fault fails => fails.variable, ?_, fun vars' same => read_of_keys same⟩
  · rw [read_eq_ok, convert_eq_ok, check_eq_ok]
  · simp only [read_eq_error, convert_eq_error, convert_eq_ok, check_eq_error, firstFails_iff]
  · intro vars' settings settings' v read read' own
    have gives := gives_of_read read v
    have gives' := gives_of_read read' v
    rw [gives_of_key own] at gives'
    exact gives'.unique gives

/-- Variables with texts of every form, in spellings of their own; the others are not set. -/
def assorted : Variables := fun name =>
  [(Variable.probe.key, "\t192.168.4.1 "), (Variable.calibrationOffset.key, "0x1_0"),
    (Variable.haltTimeout.key, "0.1"), (Variable.httpTimeout.key, "1_5E+1"),
    (Variable.flashTimeout.key, "1e999"), (Variable.verifyMarkers.key, "Yes"),
    (Variable.logLevel.key, "debug")].lookup name

/-- Settings are read with the values that their texts stand for: one tenth is not a double, so the
nearest one is taken, and what is beyond all doubles is infinite. -/
theorem read_by_field_assorted :
    read assorted =
      .ok
        { probe := "192.168.4.1"
          calibrationOffset := 16
          haltTimeout := Float.ofBits 0x3FB999999999999A
          httpTimeout := Float.ofBits 0x4062C00000000000
          flashTimeout := Float.ofBits 0x7FF0000000000000
          verifyMarkers := true
          logLevel := "debug" } := by
  refine ((read_by_field assorted).1 _).mpr ⟨fun v => ?_, ?_⟩
  · cases v with
    | probe | logLevel => exact (rfl : _ = _)
    | calibrationOffset => exact Number.integer?_eq_some.mp (by decide +kernel)
    | haltTimeout | httpTimeout | flashTimeout =>
        exact ⟨Number.real?_eq_some.mp (by decide +kernel), by decide +kernel⟩
    | verifyMarkers => exact .inl ⟨rfl, by decide +kernel⟩
    | target | corpus | entrySymbol | flashCommand | exploreCommand => exact (rfl : _ = _)
  · exact ⟨by decide, by decide, .debug, by decide +kernel⟩

end Settings

end TickBound
