import TickBound.Proofs.OutputLines
import TickBound.Proofs.Programs

/-!
# The estimate

An exploration starts the engine once, behind a listing that has the entry, and takes its largest bound.
That is a property of the set of its lines, so their order has no part in it. The options are read by the
engine only.
-/

namespace TickBound

namespace Bounds

open Text (IsBlankLine)

variable {line : List Char} {value other : Json} {ls ls' : List (List Char)} {bounds : List Nat}
  {bound most : Nat}

/-- Every line can be read, and this is the largest bound that any of them tells. -/
structure Estimates (ls : List (List Char)) (most : Nat) : Prop where
  readable : ∀ line ∈ ls, IsReadable line
  reached : ∃ line ∈ ls, Tells line (.int most)
  largest : ∀ line ∈ ls, ∀ bound : Nat, Tells line (.int bound) → bound ≤ most

theorem Tells.unique (h : Tells line value) (h' : Tells line other) : value = other := by
  obtain ⟨members, parsed, named⟩ := tells_iff.mp h
  obtain ⟨members', parsed', named'⟩ := tells_iff.mp h'
  rw [parsed] at parsed'
  cases parsed'
  exact Option.some.inj (named.symm.trans named')

theorem Tells.bound_unique (h : Tells line (.int bound)) (h' : Tells line (.int most)) :
    bound = most := by
  have same : (bound : Int) = most := Json.int.inj (h.unique h')
  omega

theorem Lists.mem_iff (h : Lists ls bounds) :
    bound ∈ bounds ↔ ∃ line ∈ ls, Tells line (.int bound) := by
  induction h with
  | nil => simp
  | @blank line more bounds blank rest ih =>
      have nothing : ¬ Tells line (.int bound) := fun told => told.not_blank blank
      simp [ih, nothing]
  | @told line more own bounds told rest ih =>
      have only : Tells line (.int bound) ↔ bound = own := by
        constructor
        · exact fun told' => told'.bound_unique told
        · intro same
          rw [same]
          exact told
      simp [ih, only]

theorem estimates_iff :
    Estimates ls most ↔ ∃ bounds, Lists ls bounds ∧ worst bounds = .ok most := by
  constructor
  · intro h
    obtain ⟨bounds, lists⟩ := exists_lists.mpr h.readable
    have largest : ∀ bound ∈ bounds, bound ≤ most := by
      intro bound mem
      obtain ⟨line, inside, told⟩ := lists.mem_iff.mp mem
      exact h.largest line inside bound told
    exact ⟨bounds, lists, worst_eq_ok.mpr ⟨lists.mem_iff.mpr h.reached, largest⟩⟩
  · intro h
    obtain ⟨bounds, lists, found⟩ := h
    have largest := worst_eq_ok.mp found
    constructor
    · exact exists_lists.mp ⟨bounds, lists⟩
    · exact lists.mem_iff.mp largest.1
    · intro line mem bound told
      exact largest.2 bound (lists.mem_iff.mpr ⟨line, mem, told⟩)

/-- There is a largest bound exactly if there is a bound at all, and every line can be read. -/
theorem exists_estimates :
    (∃ most, Estimates ls most) ↔
      (∀ line ∈ ls, IsReadable line) ∧ ∃ line ∈ ls, ¬ IsBlankLine line := by
  constructor
  · intro h
    obtain ⟨most, estimates⟩ := h
    obtain ⟨line, mem, told⟩ := estimates.reached
    exact ⟨estimates.readable, line, mem, told.not_blank⟩
  · intro h
    obtain ⟨readable, line, mem, filled⟩ := h
    obtain ⟨bounds, lists⟩ := exists_lists.mpr readable
    have some : bounds ≠ [] := by
      intro none
      rcases readable line mem with blank | ⟨bound, told⟩
      · exact filled blank
      · have inside := lists.mem_iff.mpr ⟨line, mem, told⟩
        rw [none] at inside
        cases inside
    cases bounds with
    | nil => exact absurd rfl some
    | cons bound more => exact ⟨_, estimates_iff.mpr ⟨_, lists, rfl⟩⟩

/-- The order of the lines has no part in it. -/
theorem Estimates.perm (h : ls.Perm ls') (estimates : Estimates ls most) : Estimates ls' most where
  readable := by simpa only [h.mem_iff] using estimates.readable
  reached := by simpa only [h.mem_iff] using estimates.reached
  largest := by simpa only [h.mem_iff] using estimates.largest

/-- One more line makes the estimate the larger one of both. -/
theorem Estimates.cons (h : Estimates ls most) (told : Tells line (.int bound)) :
    Estimates (line :: ls) (max most bound) where
  readable := List.forall_mem_cons.mpr ⟨.inr ⟨bound, told⟩, h.readable⟩
  reached := by
    by_cases below : bound ≤ most
    · obtain ⟨old, mem, reached⟩ := h.reached
      rw [Nat.max_eq_left below]
      exact ⟨old, List.mem_cons_of_mem line mem, reached⟩
    · have above : most ≤ bound := by omega
      rw [Nat.max_eq_right above]
      exact ⟨line, List.mem_cons_self, told⟩
  largest := by
    intro other mem n told'
    rcases List.mem_cons.mp mem with same | mem
    · rw [same] at told'
      have own : n = bound := told'.bound_unique told
      omega
    · have below := h.largest other mem n told'
      omega

end Bounds

def Event.withoutInput : Event → Event
  | .ran arguments _ limit outcome => .ran arguments none limit outcome
  | event => event

/-- The host on which this becomes of the program after the next one. -/
def Host.withSecond (host : Host) (outcome : Outcome) : Host :=
  { host with outcomes := host.upcoming :: outcome :: host.outcomes.drop 2 }

namespace Engine

variable {settings : Settings} {host : Host} {path entry program : String} {more : List String}
  {options : EngineOptions} {most : Nat}

/-! ## What is done -/

theorem command_passes (settings : Settings) (path entry : String) (host : Host) :
    (command settings path entry).Passes
      (.listing path entry >>= fun _ => .known fun _ => True) host := by
  rw [command]
  refine .bind (entryAddress_passes path entry host) fun address _ => ?_
  refine .skip (Act.run_note _ _ _ _) rfl (.ofExcept ?_ _)
  exact fun _ _ => trivial

theorem command_inOrder (path entry : String) :
    (Phase.listing path entry >>= fun _ => .known fun _ : List String => True).InOrder
      (· = [.runs ["/usr/bin/arm-none-eabi-nm", path] none none]) :=
  .bind_exact Phase.listing_inOrder fun _ => .known _

/-- Before the engine the listing is asked for, and nothing else. -/
theorem deeds_command (settings : Settings) (path entry : String) (host : Host) :
    deeds ((command settings path entry).run host).events <+:
      [.runs ["/usr/bin/arm-none-eabi-nm", path] none none] := by
  have passed := (command_passes settings path entry host).leaves (command_inOrder path entry).leaves
  obtain ⟨full, ordered, start⟩ := passed
  rw [deeds_external, ordered] at start
  exact start

theorem deeds_command_of_ok {arguments : List String}
    (reached : ((command settings path entry).run host).result = .ok arguments) :
    deeds ((command settings path entry).run host).events =
      [.runs ["/usr/bin/arm-none-eabi-nm", path] none none] := by
  have passed := (command_passes settings path entry host).of_ok reached
  have listed := (command_inOrder path entry).through _ _ passed
  rw [deeds_external] at listed
  exact listed

/-! ## What is found -/

def estimated (path program : String) (more : List String) (outcome : Outcome) : Except Fault Nat :=
  (explored path program more outcome).bind fun bounds => (Bounds.worst bounds).mapError .engine

theorem estimated_eq_ok (path program : String) (more : List String) {outcome : Outcome} :
    estimated path program more outcome = .ok most ↔
      ∃ output errors, outcome = .ended 0 output errors ∧
        Bounds.Estimates (Text.lines output.toList) most := by
  have found : estimated path program more outcome = .ok most ↔
      ∃ bounds, explored path program more outcome = .ok bounds ∧ Bounds.worst bounds = .ok most := by
    rw [estimated]
    cases explored path program more outcome with
    | error fault => simp [Except.bind]
    | ok bounds => simp [Except.bind, mapError_eq_ok]
  rw [found]
  constructor
  · intro h
    obtain ⟨bounds, ended, largest⟩ := h
    obtain ⟨output, errors, same, parsed⟩ := explored_eq_ok.mp ended
    exact ⟨output, errors, same, Bounds.estimates_iff.mpr ⟨bounds, Bounds.parse_eq_ok.mp parsed, largest⟩⟩
  · intro h
    obtain ⟨output, errors, same, estimates⟩ := h
    obtain ⟨bounds, lists, largest⟩ := Bounds.estimates_iff.mp estimates
    exact ⟨bounds, explored_eq_ok.mpr ⟨output, errors, same, Bounds.parse_eq_ok.mpr lists⟩, largest⟩

theorem bound_of_error {fault : Fault}
    (failed : ((command settings path entry).run host).result = .error fault)
    (options : EngineOptions) :
    (bound settings options path entry).run host =
      ⟨.error fault, ((command settings path entry).run host).events,
        ((command settings path entry).run host).final⟩ := by
  rw [bound_eq_command, Act.run_bind_of_error failed]

theorem bound_of_command
    (reached : ((command settings path entry).run host).result = .ok (program :: more))
    (options : EngineOptions) :
    ∃ notes, external notes = [] ∧
      (bound settings options path entry).run host =
        ⟨estimated path program more (host.skip 1).upcoming,
          ((command settings path entry).run host).events ++
            .ran (program :: more) (some options.text) none (host.skip 1).upcoming :: notes,
          host.skip 2⟩ := by
  obtain ⟨notes, silent, run⟩ := explore_of_command reached options
  refine ⟨notes, silent, ?_⟩
  rw [bound, Act.run_bind, run, estimated]
  cases explored path program more (host.skip 1).upcoming with
  | error fault => rfl
  | ok bounds =>
      rw [Course.follow_ok, Act.run_ofExcept, List.append_nil]
      rfl

theorem bound_eq_ok (made : settings.exploreArguments path entry = .ok (program :: more)) :
    ((bound settings options path entry).run host).result = .ok most ↔
      (∃ address, host.Finds entry address) ∧ ∃ output errors,
        (host.skip 1).upcoming = .ended 0 output errors ∧
          Bounds.Estimates (Text.lines output.toList) most := by
  rw [← estimated_eq_ok path program more]
  cases reached : ((command settings path entry).run host).result with
  | error fault =>
      have unlisted : ¬ ∃ address, host.Finds entry address := by
        intro found
        rw [(command_eq_ok made).mpr ⟨found, rfl⟩] at reached
        cases reached
      rw [bound_of_error reached]
      simp [unlisted]
  | ok arguments =>
      obtain ⟨listed, rfl⟩ := (command_eq_ok made).mp reached
      obtain ⟨notes, silent, run⟩ := bound_of_command reached options
      rw [run]
      simp [listed]

theorem deeds_of_silent {events : List Event} (silent : external events = []) : deeds events = [] := by
  rw [← deeds_external, silent, deeds_nil]

/-- The engine is started at most once, behind the listing and with the options for its input. -/
theorem deeds_bound (made : settings.exploreArguments path entry = .ok (program :: more))
    (options : EngineOptions) (host : Host) :
    deeds ((bound settings options path entry).run host).events <+:
      [.runs ["/usr/bin/arm-none-eabi-nm", path] none none,
        .runs (program :: more) (some options.text) none] := by
  cases reached : ((command settings path entry).run host).result with
  | error fault =>
      rw [bound_of_error reached]
      exact (deeds_command settings path entry host).trans (List.prefix_append _ _)
  | ok arguments =>
      obtain ⟨-, rfl⟩ := (command_eq_ok made).mp reached
      obtain ⟨notes, silent, run⟩ := bound_of_command reached options
      have engine : deeds (.ran (program :: more) (some options.text) none (host.skip 1).upcoming ::
          notes) = [.runs (program :: more) (some options.text) none] :=
        congrArg (_ :: ·) (deeds_of_silent silent)
      rw [run, deeds_append, deeds_command_of_ok reached, engine]
      exact List.prefix_rfl

/-- Other options are another input for the engine, and other messages. -/
theorem bound_same_of_options (made : settings.exploreArguments path entry = .ok (program :: more))
    (options options' : EngineOptions) (host : Host) :
    let course := (bound settings options path entry).run host
    let course' := (bound settings options' path entry).run host
    course.result = course'.result ∧ course.final = course'.final ∧
      (external course.events).map Event.withoutInput =
        (external course'.events).map Event.withoutInput := by
  intro course course'
  cases reached : ((command settings path entry).run host).result with
  | error fault =>
      have run : course = _ := bound_of_error reached options
      have run' : course' = _ := bound_of_error reached options'
      rw [run, run']
      exact ⟨rfl, rfl, rfl⟩
  | ok arguments =>
      obtain ⟨-, rfl⟩ := (command_eq_ok made).mp reached
      obtain ⟨notes, silent, run⟩ := bound_of_command reached options
      obtain ⟨notes', silent', run'⟩ := bound_of_command reached options'
      have events (text : String) {notes : List Event} (silent : external notes = []) :
          external (.ran (program :: more) (some text) none (host.skip 1).upcoming :: notes) =
            [.ran (program :: more) (some text) none (host.skip 1).upcoming] :=
        congrArg (_ :: ·) silent
      rw [show course = _ from run, show course' = _ from run']
      refine ⟨rfl, rfl, ?_⟩
      rw [external_append, external_append, events _ silent, events _ silent']
      simp [Event.withoutInput]

theorem bound_withSecond (made : settings.exploreArguments path entry = .ok (program :: more))
    {code : Int} {output errors : String} :
    ((bound settings options path entry).run
        (host.withSecond (.ended code output errors))).result = .ok most ↔
      (∃ address, host.Finds entry address) ∧ code = 0 ∧
        Bounds.Estimates (Text.lines output.toList) most := by
  have same : (host.withSecond (.ended code output errors)).Finds entry = host.Finds entry := rfl
  have next : ((host.withSecond (.ended code output errors)).skip 1).upcoming =
      .ended code output errors := rfl
  rw [bound_eq_ok made, same, next]
  constructor
  · intro h
    obtain ⟨listed, own, other, ended, estimates⟩ := h
    cases ended
    exact ⟨listed, rfl, estimates⟩
  · intro h
    obtain ⟨listed, rfl, estimates⟩ := h
    exact ⟨listed, output, errors, rfl, estimates⟩

/-- Of an engine that does not end with 0 the output does not count. -/
theorem bound_of_failed (made : settings.exploreArguments path entry = .ok (program :: more))
    (options : EngineOptions) (host : Host) {code : Int} (failed : code ≠ 0)
    (output output' errors : String) :
    ((bound settings options path entry).run
        (host.withSecond (.ended code output errors))).result =
      ((bound settings options path entry).run
        (host.withSecond (.ended code output' errors))).result := by
  have commands := (takes_command settings path entry).same
    (host.withSecond (.ended code output errors)) (host.withSecond (.ended code output' errors)) rfl
    ⟨rfl, rfl, fun i hi => by obtain rfl : i = 0 := Nat.lt_one_iff.mp hi; rfl⟩
  cases reached : ((command settings path entry).run
      (host.withSecond (.ended code output errors))).result with
  | error fault =>
      rw [bound_of_error reached, bound_of_error (commands.1 ▸ reached)]
  | ok arguments =>
      obtain ⟨-, rfl⟩ := (command_eq_ok made).mp reached
      obtain ⟨notes, silent, run⟩ := bound_of_command reached options
      obtain ⟨notes', silent', run'⟩ := bound_of_command (commands.1 ▸ reached) options
      have refused (output : String) : explored path program more (.ended code output errors) =
          .error (.engine (.failed path code (Text.trimmed errors))) := if_pos failed
      rw [run, run']
      change estimated path program more (.ended code output errors) =
        estimated path program more (.ended code output' errors)
      rw [estimated, estimated, refused, refused]

/-- An exploration finds the largest bound among the engine's lines. It finds one just where a listing has
the entry, the engine ends with 0, each line of its output is blank or tells a bound, and not all of them
are blank. The order of the lines has no part in it, and one more line makes it the larger one of both; if
the engine ends otherwise, its output does not count. The engine is started at most once, and options
change its input and messages, but neither what is found nor anything else that is done. -/
theorem bound_of_lines (made : settings.exploreArguments path entry = .ok (program :: more)) :
    (∀ (options : EngineOptions) (host : Host),
      let course := (bound settings options path entry).run host
      let engine := (host.skip 1).upcoming
      (∀ most, course.result = .ok most ↔
        (∃ address, host.Finds entry address) ∧ ∃ output errors, engine = .ended 0 output errors ∧
          Bounds.Estimates (Text.lines output.toList) most) ∧
      ((∃ most, course.result = .ok most) ↔
        (∃ address, host.Finds entry address) ∧ ∃ output errors, engine = .ended 0 output errors ∧
          (∀ line ∈ Text.lines output.toList, Bounds.IsReadable line) ∧
          ∃ line ∈ Text.lines output.toList, ¬ Text.IsBlankLine line) ∧
      deeds course.events <+: [.runs ["/usr/bin/arm-none-eabi-nm", path] none none,
        .runs (program :: more) (some options.text) none]) ∧
    (∀ (options : EngineOptions) (host : Host) (output output' errors : String),
      let found (code : Int) (output : String) := ((bound settings options path entry).run
        (host.withSecond (.ended code output errors))).result
      let ls := Text.lines output.toList
      let ls' := Text.lines output'.toList
      (ls.Perm ls' → ∀ most, found 0 output = .ok most ↔ found 0 output' = .ok most) ∧
      (∀ line bound, ls'.Perm (line :: ls) → Bounds.Tells line (.int (bound : Nat)) →
        ∀ most, found 0 output = .ok most → found 0 output' = .ok (max most bound)) ∧
      ∀ code : Int, code ≠ 0 →
        found code output = found code output' ∧ ∀ most, found code output ≠ .ok most) ∧
    ∀ options options' host,
      let course := (bound settings options path entry).run host
      let course' := (bound settings options' path entry).run host
      course.result = course'.result ∧ course.final = course'.final ∧
        (external course.events).map Event.withoutInput =
          (external course'.events).map Event.withoutInput := by
  constructor
  · intro options host course engine
    have values : ∀ most, course.result = .ok most ↔ _ := fun most => bound_eq_ok made
    refine ⟨values, ?_, deeds_bound made options host⟩
    simp only [values, ← Bounds.exists_estimates]
    constructor
    · intro h
      obtain ⟨most, listed, output, errors, ended, estimates⟩ := h
      exact ⟨listed, output, errors, ended, most, estimates⟩
    · intro h
      obtain ⟨listed, output, errors, ended, most, estimates⟩ := h
      exact ⟨most, listed, output, errors, ended, estimates⟩
  · refine ⟨?_, bound_same_of_options made⟩
    intro options host output output' errors found ls ls'
    refine ⟨fun perm most => ?_, fun line bound perm told most ended => ?_, fun code failed => ?_⟩
    · have same : Bounds.Estimates ls most ↔ Bounds.Estimates ls' most :=
        ⟨.perm perm, .perm perm.symm⟩
      rw [bound_withSecond made, bound_withSecond made, same]
    · obtain ⟨listed, -, estimates⟩ := (bound_withSecond made).mp ended
      exact (bound_withSecond made).mpr ⟨listed, rfl, .perm perm.symm (estimates.cons told)⟩
    · refine ⟨bound_of_failed made options host failed output output' errors, fun most ended => ?_⟩
      exact failed ((bound_withSecond made).mp ended).2.1

/-- Of paths with 7 and 9 cycles the estimate is 9, whichever comes first, and one more path with 12 cycles
makes it 12. -/
theorem bound_of_lines_sorted :
    let listed : Host := ⟨[.ended 0 "00000100 T measure" ""], [], .empty⟩
    let found (output : String) := ((bound Settings.defaults {} "a.elf" "measure").run
      (listed.withSecond (.ended 0 output ""))).result
    Settings.defaults.exploreArguments "a.elf" "measure" =
        .ok ["symex", "--elf", "a.elf", "--function", "measure", "--json"] ∧
      found "\x7b\"max_cycles\": 7\x7d\n\x7b\"max_cycles\": 9\x7d" = .ok 9 ∧
      found "\x7b\"max_cycles\": 9\x7d\n\x7b\"max_cycles\": 7\x7d" = .ok 9 ∧
      found "\x7b\"max_cycles\": 9\x7d\n\x7b\"max_cycles\": 12\x7d\n\x7b\"max_cycles\": 7\x7d" =
        .ok 12 := by
  intro listed found
  have made : Settings.defaults.exploreArguments "a.elf" "measure" =
      .ok ["symex", "--elf", "a.elf", "--function", "measure", "--json"] := rfl
  have entry : ∃ address, listed.Finds "measure" address :=
    ⟨256, "00000100 T measure", "", rfl, by decide +kernel⟩
  have parsed : Bounds.parse "\x7b\"max_cycles\": 7\x7d\n\x7b\"max_cycles\": 9\x7d" = .ok [7, 9] :=
    Bench.eq_ok_of_toOption (by decide +kernel)
  have estimates := Bounds.estimates_iff.mpr ⟨[7, 9], Bounds.parse_eq_ok.mp parsed, rfl⟩
  have nine : found _ = .ok 9 :=
    (((bound_of_lines made).1 {} (listed.withSecond (.ended 0 _ ""))).1 9).mpr
      ⟨entry, _, "", rfl, estimates⟩
  have more : Bounds.Tells "\x7b\"max_cycles\": 12\x7d".toList (.int (12 : Nat)) := by
    have told : Bounds.parse "\x7b\"max_cycles\": 12\x7d" = .ok [12] :=
      Bench.eq_ok_of_toOption (by decide +kernel)
    obtain ⟨line, mem, told⟩ := (Bounds.parse_eq_ok.mp told).mem_iff.mp List.mem_cons_self
    obtain rfl : line = _ := List.mem_singleton.mp mem
    exact told
  have both := (bound_of_lines made).2.1 {} listed
  refine ⟨made, nine, ?_, ?_⟩
  · exact ((both _ _ "").1 (by decide +kernel) 9).mp nine
  · exact (both _ _ "").2.1 _ 12 (by decide +kernel) more 9 nine

end Engine

end TickBound
