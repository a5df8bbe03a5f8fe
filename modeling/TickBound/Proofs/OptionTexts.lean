import TickBound.Proofs.BenchFrame
import TickBound.Proofs.EngineOutput

/-!
# Texts of the options

The text that the engine is given on its input is one line, and reading it gives the options back: all of
them, in their order, with the values that were chosen and the usual ones for the rest. Options that
differ have different texts.
-/

namespace TickBound

namespace Json

/-! ## Values that come back as they were -/

/-- The value has no floating-point number in it and no integer over the limit, its texts have no halves
that reading joins, and the names in an object are all different. -/
inductive IsData : Json → Prop
  | null : IsData .null
  | bool (b : Bool) : IsData (.bool b)
  | int {n : Int} (fits : Number.fitsDecimal n = true) : IsData (.int n)
  | string {s : DataText} (sound : s.IsSound) (apart : s.reread = s) : IsData (.string s)
  | array {items : List Json} (data : ∀ item ∈ items, IsData item) : IsData (.array items)
  | object {members : Members} (distinct : (members.map Prod.fst).Nodup)
      (sound : ∀ member ∈ members, member.1.IsSound ∧ member.1.reread = member.1)
      (data : ∀ member ∈ members, IsData member.2) : IsData (.object members)

/-- Any text of characters will do. -/
theorem isData_ofChars (cs : List Char) : IsData (.string (.ofChars cs)) :=
  .string (DataText.isSound_ofChars cs) (DataText.reread_ofChars cs)

theorem IsData.isPlain {value : Json} (h : value.IsData) : value.IsPlain := by
  induction h with
  | null => exact .null
  | bool b => exact .bool b
  | int fits => exact .int fits
  | string sound _ => exact .string sound
  | array _ plain => exact .array plain
  | object _ sound _ plain => exact .object (fun member mem => (sound member mem).1) plain

namespace Members

/-- A new name takes the last place. -/
theorem put_of_new {members : Members} {name : DataText} (new : name ∉ members.map Prod.fst)
    (value : Json) : put members name value = members ++ [(name, value)] := by
  induction members with
  | nil => rfl
  | cons member more ih =>
      rw [List.map_cons, List.mem_cons, not_or] at new
      rw [put, if_neg (Ne.symm new.1), ih new.2, List.cons_append]

theorem foldl_put {members pairs : Members} (distinct : ((members ++ pairs).map Prod.fst).Nodup) :
    pairs.foldl (fun members pair => put members pair.1 pair.2) members = members ++ pairs := by
  induction pairs generalizing members with
  | nil => rw [List.foldl_nil, List.append_nil]
  | cons pair more ih =>
      have new : pair.1 ∉ members.map Prod.fst := by
        rw [List.map_append, List.map_cons, List.nodup_middle, List.nodup_cons] at distinct
        exact fun mem => distinct.1 (List.mem_append_left _ mem)
      have same : members ++ pair :: more = members ++ [pair] ++ more := by simp
      rw [same] at distinct
      rw [List.foldl_cons, put_of_new new, ih distinct, same]

/-- Pairs of different names are the members that they leave. -/
theorem ofPairs_of_nodup {pairs : Members} (distinct : (pairs.map Prod.fst).Nodup) :
    ofPairs pairs = pairs :=
  foldl_put distinct

end Members

/-- What is written and read comes back as it was. -/
theorem IsData.reread_eq {value : Json} (h : value.IsData) : value.reread = value := by
  induction h with
  | null | bool | int => rfl
  | string _ apart => rw [reread, apart]
  | @array items _ same =>
      rw [reread, rereadItems_eq_map, List.map_congr_left same, List.map_id']
  | @object members distinct sound _ same =>
      have pairs : rereadMembers members = members := by
        rw [rereadMembers_eq_map]
        have each : ∀ member ∈ members, (member.1.reread, reread member.2) = member :=
          fun member mem => Prod.ext (sound member mem).2 (same member mem)
        rw [List.map_congr_left each, List.map_id']
      rw [reread, pairs, Members.ofPairs_of_nodup distinct]

theorem read_data {value : Json} (h : value.IsData) : read (text value) = .ok value := by
  rw [read_text h.isPlain, h.reread_eq]

end Json

namespace EngineOptions

open Json (Members)

/-! ## Options by name -/

def names : List DataText :=
  ({} : EngineOptions).members.map Prod.fst

theorem members_inj {options other : EngineOptions} (h : options.members = other.members) :
    options = other := by
  cases options
  cases other
  simpa [members] using h

theorem map_fst_members (options : EngineOptions) : options.members.map Prod.fst = names :=
  rfl

theorem nodup_names : names.Nodup := by
  decide

/-- An option that is set has the value, and the others are as before. -/
theorem set?_of_name {name : DataText} (named : name ∈ names) (options : EngineOptions) (value : Json) :
    ∃ changed, options.set? name.shown value = some changed ∧
      changed.members = options.members.map fun member =>
        (member.1, if member.1 = name then value else member.2) := by
  simp only [names, members, List.map_cons, List.map_nil, List.mem_cons, List.not_mem_nil, or_false]
    at named
  rcases named with rfl | rfl | rfl | rfl | rfl | rfl
  · exact ⟨{ options with showPathResults := value }, rfl, rfl⟩
  · exact ⟨{ options with pcHooks := value }, rfl, rfl⟩
  · exact ⟨{ options with registerReadHooks := value }, rfl, rfl⟩
  · exact ⟨{ options with registerWriteHooks := value }, rfl, rfl⟩
  · exact ⟨{ options with memoryReadHooks := value }, rfl, rfl⟩
  · exact ⟨{ options with memoryWriteHooks := value }, rfl, rfl⟩

structure IsChoice (given : Members) : Prop where
  named : ∀ member ∈ given, member.1 ∈ names
  distinct : (given.map Prod.fst).Nodup
  data : ∀ member ∈ given, member.2.IsData

def assign (options : EngineOptions) (member : DataText × Json) : Except Fault EngineOptions :=
  match options.set? member.1.shown member.2 with
  | some changed => .ok changed
  | none => .error (.outside (.unknownOption member.1.shown))

/-- One option after another is set, and the rest stay as they are. -/
theorem foldlM_assign {given : Members} (named : ∀ member ∈ given, member.1 ∈ names)
    (distinct : (given.map Prod.fst).Nodup) (usual : EngineOptions) :
    ∃ options, given.foldlM assign usual = .ok options ∧
      options.members = usual.members.map fun member => (member.1, given.getD member.1 member.2) := by
  induction given generalizing usual with
  | nil => exact ⟨usual, rfl, (List.map_id _).symm⟩
  | cons member more ih =>
      obtain ⟨name, value⟩ := member
      rw [List.forall_mem_cons] at named
      rw [List.map_cons, List.nodup_cons] at distinct
      obtain ⟨changed, set, values⟩ := set?_of_name named.1 usual value
      obtain ⟨options, built, values'⟩ := ih named.2 distinct.2 changed
      have first : assign usual (name, value) = .ok changed := by
        rw [assign, set]
      refine ⟨options, ?_, ?_⟩
      · rw [List.foldlM_cons, first]
        exact built
      · rw [values', values, List.map_map]
        refine List.map_congr_left fun other _ => ?_
        by_cases own : other.1 = name
        · -- the option that was set first is not among the others
          have none : Members.get? more name = none := by
            refine Option.eq_none_iff_forall_ne_some.mpr fun old found => distinct.1 ?_
            exact List.mem_map.mpr ⟨_, Members.mem_of_get? found, rfl⟩
          simp [Members.getD, Members.get?, own, none]
        · simp [Members.getD, Members.get?, own, Ne.symm own]

/-- Options are chosen by name, and those that are not chosen have their usual values. -/
theorem ofMembers_of_choice {given : Members} (h : IsChoice given) :
    ∃ options, ofMembers given = .ok options ∧
      options.members =
        ({} : EngineOptions).members.map fun usual => (usual.1, given.getD usual.1 usual.2) :=
  foldlM_assign h.named h.distinct {}

theorem exists_chars {name : DataText} (h : name ∈ names) : ∃ cs, name = .ofChars cs := by
  simp only [names, members, List.map_cons, List.map_nil, List.mem_cons, List.not_mem_nil, or_false]
    at h
  rcases h with rfl | rfl | rfl | rfl | rfl | rfl <;> exact ⟨_, rfl⟩

theorem isData_usual : ∀ usual ∈ ({} : EngineOptions).members, usual.2.IsData := by
  have empty : (Json.array []).IsData := .array (by simp)
  simp only [members, List.forall_mem_cons]
  exact ⟨.bool false, empty, empty, empty, empty, empty, by simp⟩

/-- The options as an object, whose text the engine is given. -/
theorem isData_members {options : EngineOptions} (data : ∀ member ∈ options.members, member.2.IsData) :
    (Json.object options.members).IsData := by
  refine .object ?_ (fun member mem => ?_) data
  · rw [map_fst_members]
    exact nodup_names
  · have named : member.1 ∈ options.members.map Prod.fst := List.mem_map_of_mem mem
    obtain ⟨cs, chars⟩ := exists_chars named
    rw [chars]
    exact ⟨DataText.isSound_ofChars cs, DataText.reread_ofChars cs⟩

theorem isData_of_choice {given : Members} (h : IsChoice given) :
    ∀ member ∈ ({} : EngineOptions).members.map fun usual => (usual.1, given.getD usual.1 usual.2),
      member.2.IsData := by
  intro member mem
  obtain ⟨usual, among, rfl⟩ := List.mem_map.mp mem
  unfold Members.getD
  cases chosen : Members.get? given usual.1 with
  | none => exact isData_usual usual among
  | some value => exact h.data _ (Members.mem_of_get? chosen)

/-! ## The text -/

/-- The text is one line of visible characters and spaces. -/
theorem visible_text {options : EngineOptions} (data : ∀ member ∈ options.members, member.2.IsData) :
    ∀ c ∈ options.text.toList, Json.IsVisible c := by
  rw [text, Json.text, String.toList_ofList]
  exact Json.visible_written (isData_members data).isPlain

theorem read_text {options : EngineOptions} (data : ∀ member ∈ options.members, member.2.IsData) :
    Json.read options.text = .ok (.object options.members) :=
  Json.read_data (isData_members data)

theorem text_inj {options other : EngineOptions} (data : ∀ member ∈ options.members, member.2.IsData)
    (data' : ∀ member ∈ other.members, member.2.IsData) (same : options.text = other.text) :
    options = other := by
  have read := read_text data
  rw [same, read_text data', Except.ok.injEq, Json.object.injEq] at read
  exact members_inj read.symm

end EngineOptions

/-! ## What the engine is given -/

/-- If the event is the run of a program with something on its input, this is the text. -/
def Event.Gives (text : String) : Event → Prop
  | .ran _ (some input) _ _ => input = text
  | _ => True

section

variable {text : String}

theorem Host.gives_run (arguments : List String) {input : Option String} (limit : Option Float)
    (own : ∀ given ∈ input, given = text) :
    (run arguments input limit).Respects (fun _ => ()) fun _ event => event.Gives text := by
  cases arguments with
  | nil => exact .fail _
  | cons program more =>
      have started : (start (program :: more) input limit).Respects (fun _ => ())
          fun _ event => event.Gives text := by
        refine fun _ => ⟨rfl, ?_⟩
        cases input with
        | none => simp [start, Event.Gives]
        | some given => simpa [start, Event.Gives] using own given rfl
      refine started.bind fun outcome => ?_
      cases outcome with
      | ended code output errors => exact .pure _
      | notFound | denied | timedOut => exact .fail _

theorem Engine.gives_entryAddress (path entry : String) :
    (entryAddress path entry).Respects (fun _ => ()) fun _ event => event.Gives text := by
  have listed : (Image.symbolAddress path entry).Respects (fun _ => ())
      fun _ event => event.Gives text := by
    refine .bind (.bind (.reads _) fun missing => .ite (.fail _) ?_) fun _ => .pure _
    exact (Host.gives_run _ _ (by simp)).bind fun finished => .ite (.fail _) (.pure _)
  refine listed.mapFault.bind fun found => ?_
  cases found with
  | none => exact .fail _
  | some address => exact .pure _

theorem Engine.gives_noteBounds (i : Nat) (bounds : List Nat) :
    (noteBounds i bounds : Act Host Unit).Respects (fun _ => ()) fun _ event => event.Gives text := by
  induction bounds generalizing i with
  | nil => exact .pure _
  | cons bound more ih => exact .bind (.emit fun _ => trivial) fun _ => ih (i + 1)

/-- Whatever program an exploration starts with something on its input is given the text of the
options. -/
theorem Engine.gives_explore (settings : Settings) (options : EngineOptions) (path entry : String) :
    (explore settings options path entry).Respects (fun _ => ())
      fun _ event => event.Gives options.text := by
  refine (gives_entryAddress _ _).bind fun _ => .bind (.emit fun _ => trivial) fun _ => ?_
  refine .bind (.ofExcept _) fun _ => (Host.gives_run _ _ (by simp)).mapFault.bind fun _ => ?_
  refine .ite (.fail _) (.bind (.ofExcept _) fun bounds => ?_)
  exact .ite ((gives_noteBounds _ _).bind fun _ => .pure _) (.pure _)

end

namespace EngineOptions

/-- Whatever values are chosen for whichever options, the text that the engine is given is one line, and
it is an object of all options in their order, with the values that were chosen and the usual ones for
the rest. Other options have another text. -/
theorem options_read_back {given : Json.Members} (choice : IsChoice given) :
    ∃ options, ofMembers given = .ok options ∧
      (∀ c ∈ options.text.toList, Json.IsVisible c) ∧
      Json.read options.text = .ok (.object
        (({} : EngineOptions).members.map fun usual => (usual.1, given.getD usual.1 usual.2))) ∧
      (∀ settings path entry host arguments input limit outcome,
        .ran arguments (some input) limit outcome ∈
          ((Engine.explore settings options path entry).run host).events → input = options.text) ∧
      ∀ given' other, IsChoice given' → ofMembers given' = .ok other → other.text = options.text →
        other = options := by
  obtain ⟨options, built, values⟩ := ofMembers_of_choice choice
  have data : ∀ member ∈ options.members, member.2.IsData := by
    rw [values]
    exact isData_of_choice choice
  refine ⟨options, built, visible_text data, ?_, ?_, ?_⟩
  · rw [read_text data, values]
  · intro settings path entry host arguments input limit outcome ran
    exact (Engine.gives_explore settings options path entry host).2 _ ran
  · intro given' other choice' built' same
    obtain ⟨found, built'', values'⟩ := ofMembers_of_choice choice'
    obtain rfl : found = other := Except.ok.inj (built''.symm.trans built')
    have data' : ∀ member ∈ found.members, member.2.IsData := by
      rw [values']
      exact isData_of_choice choice'
    exact text_inj data' data same

/-- Hooks on reads: a negative number, and a text with a line feed, an accent and a clock. -/
def hooked : Json.Members :=
  [("memory_read_hooks", .array [.int (-24), .string "tick\né🕒"])]

theorem isChoice_hooked : IsChoice hooked where
  named := by decide
  distinct := by decide
  data := by
    have number : (Json.int (-24)).IsData := .int (Number.fitsDecimal_of_lt (by decide))
    have name : (Json.string "tick\né🕒").IsData := Json.isData_ofChars _
    simp only [hooked, List.forall_mem_singleton]
    refine .array ?_
    rw [List.forall_mem_cons, List.forall_mem_singleton]
    exact ⟨number, name⟩

theorem options_read_back_hooked :
    ∃ options, ofMembers hooked = .ok options ∧
      Json.read options.text = .ok (.object
        [("show_path_results", .bool false), ("pc_hooks", .array []), ("register_read_hooks", .array []),
          ("register_write_hooks", .array []),
          ("memory_read_hooks", .array [.int (-24), .string "tick\né🕒"]),
          ("memory_write_hooks", .array [])]) := by
  obtain ⟨options, built, -, read, -⟩ := options_read_back isChoice_hooked
  exact ⟨options, built, read⟩

end EngineOptions

end TickBound
