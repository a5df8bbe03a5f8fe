import TickBound.Proofs.Deeds
import TickBound.Proofs.Independence
import TickBound.Proofs.Measurement

/-!
# The order of a measurement

What a measurement does comes in one order, and wherever it stops it has done a first part of it. What is
written to the target has been checked, memory is touched only on a target that was written and is
connected, and the engine runs only for an image that has been measured.
-/

namespace TickBound

def Session.Does (session : Session) : Deed → Prop
  | .sends base request timeout =>
      base = session.url ∧ timeout = session.timeout ∧ request ≠ .reset
  | .pauses => True
  | _ => False

theorem Session.does_of_carries {session : Session} {events : List Event}
    (h : ∀ event ∈ events, session.Carries event) : ∀ deed ∈ deeds events, session.Does deed := by
  intro deed mem
  obtain ⟨event, member, same⟩ := List.mem_filterMap.mp mem
  have carried := h event member
  cases event with
  | requested base request timeout reply =>
      cases same
      exact carried
  | slept seconds =>
      cases same
      trivial
  | closed | ran | printed => exact carried.elim
  | noted => cases same

/-- What a measurement does, with its deeds on the target's memory. -/
def measureOrder (settings : Settings) (path : String) (flash explore : List String)
    (session : Session) (traffic : List Deed) : List Deed :=
  (if settings.verifyMarkers then
    [.runs ["/usr/bin/arm-none-eabi-nm", path] none none,
      .runs ["/usr/bin/arm-none-eabi-objdump", "-d", "--disassemble=" ++ settings.entrySymbol, path]
        none none]
  else []) ++
  [.runs ["/usr/bin/arm-none-eabi-nm", path] none none,
    .runs flash none (some settings.flashTimeout), .sends session.url .reset session.timeout] ++
  traffic ++
  [.runs ["/usr/bin/arm-none-eabi-nm", path] none none,
    .runs explore (some ({} : EngineOptions).text) none]

/-- The event is a listing of the image with the symbol. -/
def IsListing (path symbol : String) (event : Event) : Prop :=
  ∃ output errors,
    event = .ran ["/usr/bin/arm-none-eabi-nm", path] none none (.ended 0 output errors) ∧
      (SymbolLine.find? output.toList symbol.toList).isSome

/-- The event is a disassembly of the symbol with two markers. -/
def ShowsMarkers (path symbol : String) (event : Event) : Prop :=
  ∃ output errors,
    event = .ran ["/usr/bin/arm-none-eabi-objdump", "-d", "--disassemble=" ++ symbol, path] none none
      (.ended 0 output errors) ∧
      Disassembly.countMarkers output.toList = 2

def Settings.IsFlashRun (settings : Settings) (flash : List String) (event : Event) : Prop :=
  ∃ outcome, event = .ran flash none (some settings.flashTimeout) outcome

def IsMemoryRequest (event : Event) : Prop :=
  ∃ base request timeout reply, event = .requested base request timeout reply ∧ request ≠ .reset

def IsEngineRun (explore : List String) (event : Event) : Prop :=
  ∃ outcome, event = .ran explore (some ({} : EngineOptions).text) none outcome

/-- What has to be known of an image before it is written. -/
def Settings.Cleared (settings : Settings) (path : String) (past : List Event) : Prop :=
  ∃ checks last, past = checks ++ [last] ∧ IsListing path settings.entrySymbol last ∧
    if settings.verifyMarkers then
      ∃ first second, checks = [first, second] ∧ IsListing path settings.entrySymbol first ∧
        ShowsMarkers path settings.entrySymbol second
    else checks = []

/-- An image was written, and the target is connected behind it. -/
def Settings.Deployed (settings : Settings) (flash : List String) (session : Session)
    (past : List Event) : Prop :=
  ∃ ahead more output errors text,
    past = ahead ++ .ran flash none (some settings.flashTimeout) (.ended 0 output errors) ::
      .requested session.url .reset session.timeout (.answered 200 text) :: more ∧
    ReportsConnected text

/-- The requests are to set up the connection again, and then those that begin the protocol of a
sample. -/
def IsSampling (events : List Event) : Prop :=
  exchanges events = [] ∨
    ∃ reply xs, exchanges events = ⟨.reset, reply⟩ :: xs ∧ Protocol.sampling.Begins xs

theorem IsSampling.behind {ahead events : List Event} (none : exchanges ahead = [])
    (h : IsSampling events) : IsSampling (ahead ++ events) := by
  rwa [IsSampling, exchanges_append, none, List.nil_append]

theorem IsSampling.before {events more : List Event} (h : IsSampling events)
    (none : exchanges more = []) : IsSampling (events ++ more) := by
  rwa [IsSampling, exchanges_append, none, List.append_nil]

/-- The counter was sampled at both markers, and what it lost is not less than the offset. -/
def Settings.Sampled (settings : Settings) (past : List Event) (measured : Int) : Prop :=
  ∃ reply xs words, exchanges past = ⟨.reset, reply⟩ :: xs ∧
    Protocol.sampling.Completes xs words ∧ 0 ≤ measured ∧
    measured = (words.1.toNat % 0x1000000 : Nat) - (words.2.toNat % 0x1000000 : Nat)
      - settings.calibrationOffset

/-- The engine ended with bounds of which this is the largest. -/
def IsLargestBound (explore : List String) (past : List Event) (bound : Int) : Prop :=
  ∃ ahead output errors bounds,
    past = ahead ++ [.ran explore (some ({} : EngineOptions).text) none (.ended 0 output errors)] ∧
    Bounds.parse output = .ok bounds ∧ (∃ n ∈ bounds, bound = (n : Nat)) ∧
    ∀ n ∈ bounds, ((n : Nat) : Int) ≤ bound

theorem Bounds.worst_eq_ok {bounds : List Nat} {most : Nat} :
    worst bounds = .ok most ↔ most ∈ bounds ∧ ∀ n ∈ bounds, n ≤ most := by
  cases bounds with
  | nil => simp [worst]
  | cons bound more =>
      rw [← List.max?_eq_some_iff, List.max?_cons', worst, Except.ok.injEq, Option.some.injEq]

namespace Phase

variable {settings : Settings} {files : FileTree} {path symbol : String} {flash explore : List String}
  {session : Session}

/-! ## What is done -/

theorem tool_inOrder (line : List String) : (tool line).InOrder (· = [.runs line none none]) :=
  .bind_exact (.runs _ _ _) fun _ => .known _

theorem listing_inOrder :
    (listing path symbol).InOrder (· = [.runs ["/usr/bin/arm-none-eabi-nm", path] none none]) :=
  .bind_exact (tool_inOrder _) fun _ => .known _

theorem marking_inOrder :
    (marking path symbol).InOrder (· = [.runs ["/usr/bin/arm-none-eabi-nm", path] none none,
      .runs ["/usr/bin/arm-none-eabi-objdump", "-d", "--disassemble=" ++ symbol, path] none none]) :=
  .bind_exact (.bind_exact (tool_inOrder _) fun _ => .bind_exact (.known _) fun _ =>
    .bind_exact (tool_inOrder _) fun _ => .known _) fun _ => .known _

theorem checking_inOrder :
    (checking settings path).InOrder (· = (if settings.verifyMarkers then
      [.runs ["/usr/bin/arm-none-eabi-nm", path] none none,
        .runs ["/usr/bin/arm-none-eabi-objdump", "-d", "--disassemble=" ++ settings.entrySymbol, path]
          none none]
      else []) ++ [.runs ["/usr/bin/arm-none-eabi-nm", path] none none]) := by
  have last : (listing path settings.entrySymbol >>= fun _ => Pure.pure ()).InOrder
      (· = [.runs ["/usr/bin/arm-none-eabi-nm", path] none none]) :=
    .bind_exact listing_inOrder fun _ => .pure _
  unfold checking
  split
  · exact .bind_exact marking_inOrder fun _ => last
  · exact last

theorem flashing_inOrder :
    (flashing settings files path flash).InOrder
      (· = [.runs flash none (some settings.flashTimeout)]) :=
  .bind_exact (.known _) fun _ => .bind_exact (.runs _ _ _) fun _ => .known _

theorem deploying_inOrder :
    (deploying settings files path flash session).InOrder
      (· = [.runs flash none (some settings.flashTimeout),
        .sends session.url .reset session.timeout]) := by
  have connects : (connecting session).InOrder (· = [.sends session.url .reset session.timeout]) :=
    { begun := fun _ ⟨_, h⟩ => ⟨_, rfl, by rw [h]; exact List.prefix_rfl⟩
      through := fun _ _ ⟨_, h, _⟩ => by rw [h]; rfl }
  exact .bind_exact flashing_inOrder fun _ => .bind_exact connects fun _ => .pure _

theorem sampling_inOrder (offset : Int) :
    (sampling session offset).InOrder (∀ deed ∈ ·, session.Does deed) where
  begun _ h := ⟨_, Session.does_of_carries h.1, List.prefix_rfl⟩
  through _ _ h := Session.does_of_carries h.1

theorem measuring_inOrder :
    (measuring settings files path flash session).InOrder fun full =>
      ∃ traffic, (∀ deed ∈ traffic, session.Does deed) ∧
        full = [.runs flash none (some settings.flashTimeout),
          .sends session.url .reset session.timeout] ++ traffic := by
  refine (deploying_inOrder.bind (fun _ => sampling_inOrder _) ⟨[], by simp⟩).mono ?_
  rintro full ⟨ds, traffic, rfl, rfl, does⟩
  exact ⟨traffic, does, rfl⟩

theorem bounding_inOrder :
    (bounding settings path explore).InOrder
      (· = [.runs ["/usr/bin/arm-none-eabi-nm", path] none none,
        .runs explore (some ({} : EngineOptions).text) none]) :=
  .bind_exact (.bind_exact listing_inOrder fun _ => .bind_exact (.runs _ _ _) fun _ => .known _)
    fun _ => .known _

theorem recording_inOrder :
    (recording settings files path flash explore session).InOrder fun full =>
      ∃ traffic, (∀ deed ∈ traffic, session.Does deed) ∧
        full = measureOrder settings path flash explore session traffic := by
  refine (checking_inOrder.bind (fun _ => measuring_inOrder.bind (fun _ =>
    bounding_inOrder.bind_exact fun _ => .known _) ⟨_, rfl⟩)
    ⟨_, _, _, rfl, ⟨[], by simp, rfl⟩, rfl⟩).mono ?_
  rintro full ⟨checks, _, rfl, rfl, _, rest, rfl, ⟨traffic, does, rfl⟩, rfl⟩
  exact ⟨traffic, does, by simp [measureOrder]⟩

/-! ## What has come of a phase -/

theorem through_tool {line : List String} {output : String} {events : List Event}
    (h : (tool line).through output events) :
    ∃ errors, events = [.ran line none none (.ended 0 output errors)] := by
  obtain ⟨finished, ran, _, rfl, ended, rfl, code, rfl⟩ := h
  obtain rfl : ran = _ := ended
  exact ⟨finished.errors, by rw [code, List.append_nil]⟩

theorem through_listing {address : Nat} {events : List Event}
    (h : (listing path symbol).through address events) :
    ∃ event, events = [event] ∧ IsListing path symbol event := by
  obtain ⟨output, ran, _, rfl, listed, rfl, found⟩ := h
  obtain ⟨errors, rfl⟩ := through_tool listed
  exact ⟨_, rfl, output, errors, rfl, by rw [found]; rfl⟩

theorem through_marking {u : Unit} {events : List Event}
    (h : (marking path symbol).through u events) :
    ∃ first second, events = [first, second] ∧ IsListing path symbol first ∧
      ShowsMarkers path symbol second := by
  obtain ⟨found, inspected, _, rfl, h, rfl, both⟩ := h
  obtain ⟨output, ran, _, rfl, listed, address, _, _, rfl, ⟨rfl, known⟩, h⟩ := h
  obtain ⟨text, more, _, rfl, shown, rfl, rfl⟩ := h
  obtain ⟨errors, rfl⟩ := through_tool listed
  obtain ⟨errors', rfl⟩ := through_tool shown
  exact ⟨_, _, rfl, ⟨output, errors, rfl, by rw [known]; rfl⟩, text, errors', rfl, both⟩

theorem through_checking {u : Unit} {events : List Event}
    (h : (checking settings path).through u events) : settings.Cleared path events := by
  unfold checking at h
  split at h
  · next verify =>
      obtain ⟨_, checks, _, rfl, marked, _, last, _, rfl, listed, rfl, -⟩ := h
      obtain ⟨event, rfl, listing⟩ := through_listing listed
      refine ⟨checks, event, by simp, listing, ?_⟩
      rw [if_pos verify]
      exact through_marking marked
  · next skip =>
      obtain ⟨_, last, _, rfl, listed, rfl, -⟩ := h
      obtain ⟨event, rfl, listing⟩ := through_listing listed
      exact ⟨[], event, rfl, listing, by rw [if_neg skip]⟩

theorem through_deploying {u : Unit} {events : List Event}
    (h : (deploying settings files path flash session).through u events) :
    ∃ output errors text,
      events = [.ran flash none (some settings.flashTimeout) (.ended 0 output errors),
        .requested session.url .reset session.timeout (.answered 200 text)] ∧
      ReportsConnected text := by
  obtain ⟨_, flashed, _, rfl, h, status, setup, _, rfl, connected, rfl, -⟩ := h
  obtain ⟨_, _, _, rfl, ⟨rfl, -⟩, finished, ran, _, rfl, ended, rfl, code⟩ := h
  obtain rfl : ran = _ := ended
  obtain ⟨text, rfl, reports⟩ := connected
  exact ⟨finished.output, finished.errors, text, by rw [code]; rfl, reports⟩

theorem exchanges_listing {address : Nat} {events : List Event}
    (h : (listing path symbol).through address events) : exchanges events = [] := by
  obtain ⟨event, rfl, output, errors, rfl, -⟩ := through_listing h
  rfl

theorem exchanges_checking : (checking settings path).Leaves (exchanges · = []) := by
  refine checking_inOrder.exchanges_nil fun deed mem => ?_
  split at mem
  · simp at mem
    rcases mem with rfl | rfl | rfl
    all_goals trivial
  · simp at mem
    exact mem ▸ trivial

theorem exchanges_flashing : (flashing settings files path flash).Leaves (exchanges · = []) :=
  flashing_inOrder.exchanges_nil (by simp [Deed.IsRun])

theorem exchanges_bounding : (bounding settings path explore).Leaves (exchanges · = []) :=
  bounding_inOrder.exchanges_nil (by simp [Deed.IsRun])

theorem through_measuring {past events : List Event} {measured : Int} (none : exchanges past = [])
    (h : (measuring settings files path flash session).through measured events) :
    settings.Sampled (past ++ events) measured := by
  obtain ⟨_, deployed, traffic, rfl, h, -, words, complete, counted⟩ := h
  obtain ⟨output, errors, text, rfl, -⟩ := through_deploying h
  obtain ⟨nonneg, rfl⟩ := Sample.cycles_eq_ok.mp counted
  exact ⟨.answered 200 text, exchanges traffic, words, by simp [none]; rfl, complete, nonneg, rfl⟩

/-! ## What comes only after something else -/

variable {g : Event → Prop} {due : List Event → Prop} {past : List Event}

def SparesTools (g : Event → Prop) : Prop :=
  ∀ line outcome, ¬ g (.ran line none none outcome)

theorem tool_keeps (spares : SparesTools g) (line : List String) :
    (tool line).Keeps g due past :=
  .bind (.runs fun outcome started => absurd started (spares line outcome)) fun _ _ _ => .known _

theorem listing_keeps (spares : SparesTools g) : (listing path symbol).Keeps g due past :=
  .bind (tool_keeps spares _) fun _ _ _ => .known _

theorem checking_keeps (spares : SparesTools g) : (checking settings path).Keeps g due past := by
  have last : ∀ {past}, (listing path settings.entrySymbol >>= fun _ => Pure.pure ()).Keeps g due past :=
    .bind (listing_keeps spares) fun _ _ _ => .pure _
  have inspects : (inspection path settings.entrySymbol).Keeps g due past :=
    .bind (tool_keeps spares _) fun _ _ _ => .bind (.known _) fun _ _ _ =>
      .bind (tool_keeps spares _) fun _ _ _ => .known _
  unfold checking
  split
  · exact .bind (.bind inspects fun _ _ _ => .known _) fun _ _ _ => last
  · exact last

theorem bounding_keeps (spares : SparesTools g)
    (engine : ∀ address events, (listing path settings.entrySymbol).through address events →
      ∀ outcome, g (.ran explore (some ({} : EngineOptions).text) none outcome) →
        due (past ++ events)) : (bounding settings path explore).Keeps g due past :=
  .bind (.bind (listing_keeps spares) fun address events listed =>
    .bind (.runs (engine address events listed)) fun _ _ _ => .known _) fun _ _ _ => .known _

theorem connecting_keeps
    (spares : ∀ reply, ¬ g (.requested session.url .reset session.timeout reply)) :
    (connecting session).Keeps g due past := by
  refine .of_absent ?_ ?_
  · rintro events ⟨reply, rfl⟩ event mem
    exact List.mem_singleton.mp mem ▸ spares reply
  · rintro status events ⟨text, rfl, -⟩ event mem
    exact List.mem_singleton.mp mem ▸ spares _

theorem sampling_keeps {offset : Int} (spares : ∀ event, session.Carries event → ¬ g event) :
    (sampling session offset).Keeps g due past :=
  .of_absent (fun _ h event mem => spares event (h.1 event mem))
    fun _ _ h event mem => spares event (h.1 event mem)

theorem flashing_keeps
    (tool : ∀ outcome, files.HasImage path →
      g (.ran flash none (some settings.flashTimeout) outcome) → due past) :
    (flashing settings files path flash).Keeps g due past := by
  refine .bind (.known _) fun _ none ⟨none, image⟩ => ?_
  rw [none, List.append_nil]
  exact .bind (.runs fun outcome => tool outcome image) fun _ _ _ => .known _

/-- The image is written only when it is cleared. -/
theorem recording_keeps_cleared :
    (recording settings files path flash explore session).Keeps (settings.IsFlashRun flash)
      (fun past => settings.Cleared path past ∧ files.HasImage path) [] := by
  have spares : SparesTools (settings.IsFlashRun flash) := by
    rintro line outcome ⟨_, same⟩
    cases same
  refine .bind (checking_keeps spares) fun _ checks checked => ?_
  refine .bind (.bind (.bind (flashing_keeps fun _ image _ => ?_) fun _ _ _ => ?_) fun _ _ _ => ?_)
    fun _ _ _ => .bind (bounding_keeps spares ?_) fun _ _ _ => .known _
  · exact ⟨through_checking checked, image⟩
  · refine .bind (connecting_keeps ?_) fun _ _ _ => .pure _
    rintro reply ⟨_, same⟩
    cases same
  · refine sampling_keeps ?_
    rintro event carried ⟨outcome, rfl⟩
    exact carried
  · rintro address events - outcome ⟨_, same⟩
    cases same

/-- Memory is touched only on a target that was written and is connected. -/
theorem recording_keeps_deployed :
    (recording settings files path flash explore session).Keeps IsMemoryRequest
      (settings.Deployed flash session) [] := by
  have spares : ∀ arguments input limit outcome,
      ¬ IsMemoryRequest (.ran arguments input limit outcome) := by
    rintro arguments input limit outcome ⟨_, _, _, _, same, -⟩
    cases same
  have tools : SparesTools IsMemoryRequest := fun _ _ => spares _ _ _ _
  refine .bind (checking_keeps tools) fun _ checks _ => ?_
  refine .bind (.bind (.bind (flashing_keeps fun _ _ touched => ?_) fun _ _ _ => ?_)
    fun _ _ deployed => ?_)
    fun _ _ _ => .bind (bounding_keeps tools fun _ _ _ _ touched => ?_) fun _ _ _ => .known _
  · exact absurd touched (spares _ _ _ _)
  · refine .bind (connecting_keeps ?_) fun _ _ _ => .pure _
    rintro reply ⟨_, _, _, _, same, memory⟩
    cases same
    exact memory rfl
  · obtain ⟨output, errors, text, rfl, reports⟩ := through_deploying deployed
    refine .of_due ?_ ⟨checks, [], output, errors, text, rfl, reports⟩ _
    rintro past more ⟨ahead, between, output, errors, text, rfl, reports⟩
    exact ⟨ahead, between ++ more, output, errors, text, by simp, reports⟩
  · exact absurd touched (spares _ _ _ _)

/-- The engine runs only for an image that has been sampled. -/
theorem recording_keeps_sampled :
    (recording settings files path flash explore session).Keeps (IsEngineRun explore)
      (fun past => ∃ measured, settings.Sampled past measured) [] := by
  have tools : SparesTools (IsEngineRun explore) := by
    rintro line outcome ⟨_, same⟩
    cases same
  refine .bind (checking_keeps tools) fun _ checks checked => ?_
  refine .bind (.bind (.bind (flashing_keeps ?_) fun _ _ _ => ?_) fun _ _ _ => ?_)
    fun measured events through => .bind (bounding_keeps tools ?_) fun _ _ _ => .known _
  · rintro outcome - ⟨_, same⟩
    cases same
  · refine .bind (connecting_keeps ?_) fun _ _ _ => .pure _
    rintro reply ⟨_, same⟩
    cases same
  · refine sampling_keeps ?_
    rintro event carried ⟨outcome, rfl⟩
    exact carried
  · intro address last listed outcome _
    refine ⟨measured, ?_⟩
    have sampled := through_measuring (exchanges_checking.through _ _ checked) through
    rw [Settings.Sampled, exchanges_append, exchanges_listing listed, List.append_nil]
    exact sampled

/-! ## Requests -/

theorem measuring_isSampling :
    (measuring settings files path flash session).Leaves IsSampling where
  begun := by
    rintro events ((flashed | ⟨_, ahead, rest, rfl, flashed, connected⟩) |
      ⟨_, deployed, traffic, rfl, through, -, begun⟩)
    · exact .inl (exchanges_flashing.begun _ flashed)
    · have none := exchanges_flashing.through _ _ flashed
      rcases connected with ⟨reply, rfl⟩ | ⟨_, _, _, rfl, _, impossible⟩
      · exact .inr ⟨reply, [], by simp [none], .nothing _⟩
      · exact impossible.elim
    · obtain ⟨output, errors, text, rfl, -⟩ := through_deploying through
      exact .inr ⟨_, _, rfl, begun⟩
  through := by
    rintro measured events through
    obtain ⟨reply, xs, words, same, complete, -⟩ := through_measuring exchanges_nil through
    exact .inr ⟨reply, xs, same, complete.begins⟩

theorem recording_isSampling :
    (recording settings files path flash explore session).Leaves IsSampling where
  begun := by
    rintro events (checked | ⟨_, checks, _, rfl, checked, h⟩)
    · exact .inl (exchanges_checking.begun _ checked)
    refine .behind (exchanges_checking.through _ _ checked) ?_
    rcases h with begun | ⟨_, ahead, _, rfl, through, h⟩
    · exact measuring_isSampling.begun _ begun
    refine .before (measuring_isSampling.through _ _ through) ?_
    rcases h with begun | ⟨_, last, _, rfl, bounded, rfl⟩
    · exact exchanges_bounding.begun _ begun
    · rw [List.append_nil, exchanges_bounding.through _ _ bounded]
  through := by
    rintro record events ⟨_, checks, _, rfl, checked, _, ahead, _, rfl, through, _, last, _, rfl,
      bounded, rfl, -⟩
    refine .behind (exchanges_checking.through _ _ checked) ?_
    refine .before (measuring_isSampling.through _ _ through) ?_
    rw [List.append_nil, exchanges_bounding.through _ _ bounded]

/-! ## Records -/

theorem through_bounding {bound : Nat} {events : List Event}
    (h : (bounding settings path explore).through bound events) :
    IsLargestBound explore events bound := by
  obtain ⟨bounds, _, _, rfl, ⟨address, listed, _, rfl, h, finished, ran, _, rfl, ended, rfl, code,
    parsed⟩, rfl, worst⟩ := h
  obtain rfl : ran = _ := ended
  obtain ⟨mem, most⟩ := Bounds.worst_eq_ok.mp worst
  refine ⟨listed, finished.output, finished.errors, bounds, ?_, parsed, ⟨bound, mem, rfl⟩,
    fun n hn => Int.ofNat_le.mpr (most n hn)⟩
  rw [code, List.append_nil, List.append_nil]

theorem through_recording {record : Record} {events : List Event}
    (h : (recording settings files path flash explore session).through record events) :
    record.name = Path.name path ∧ settings.Sampled events record.measured ∧
      IsLargestBound explore events record.bound := by
  obtain ⟨_, checks, _, rfl, checked, measured, deployed, _, rfl, through, bound, last, _, rfl,
    bounded, rfl, rfl⟩ := h
  have sampled := through_measuring (exchanges_checking.through _ _ checked) through
  have none := exchanges_bounding.through _ _ bounded
  obtain ⟨ahead, output, errors, bounds, rfl, largest⟩ := through_bounding bounded
  refine ⟨rfl, ?_, checks ++ deployed ++ ahead, output, errors, bounds, by simp, largest⟩
  rw [Settings.Sampled] at sampled ⊢
  simpa only [exchanges_append, none, List.append_nil, List.append_assoc] using sampled

end Phase

namespace Bench

variable {settings : Settings} {path : String} {flash explore : List String}

/-- Wherever it stops, a measurement has done a first part of what is in order; it writes what is
cleared, touches memory of what is deployed and starts the engine for what is sampled. Its record holds
what was counted and the largest bound. -/
theorem record_in_order (hf : settings.flashArguments path = .ok flash)
    (he : settings.exploreArguments path settings.entrySymbol = .ok explore) (bench : Bench) :
    let course := (record settings path).run bench
    let session := bench.connection.session
    let events := external course.events
    (∃ traffic, (∀ deed ∈ traffic, session.Does deed) ∧
      deeds events <+: measureOrder settings path flash explore session traffic) ∧
    IsSampling events ∧
    OnlyAfter (settings.IsFlashRun flash)
      (fun past => settings.Cleared path past ∧ bench.host.files.HasImage path) [] events ∧
    OnlyAfter IsMemoryRequest (settings.Deployed flash session) [] events ∧
    OnlyAfter (IsEngineRun explore) (fun past => ∃ measured, settings.Sampled past measured) []
      events ∧
    ∀ record, course.result = .ok record →
      record.name = Path.name path ∧ settings.Sampled events record.measured ∧
        IsLargestBound explore events record.bound := by
  have passes := record_passes hf he bench
  refine ⟨?_, passes.leaves Phase.recording_isSampling, passes.leaves Phase.recording_keeps_cleared,
    passes.leaves Phase.recording_keeps_deployed, passes.leaves Phase.recording_keeps_sampled,
    fun record ok => Phase.through_recording (passes.of_ok ok)⟩
  obtain ⟨full, ⟨traffic, does, rfl⟩, start⟩ := passes.leaves Phase.recording_inOrder.leaves
  exact ⟨traffic, does, start⟩

/-- A measurement that comes to its end: the target is written before its memory is touched, and the
record holds what was sampled then and what the engine found. -/
theorem record_in_order_defaults :
    let flash := ["probe-rs", "download", "--chip", "RP2040", "--verify", "a.elf"]
    let explore := ["symex", "--elf", "a.elf", "--function", "measure", "--json"]
    let course := (record Settings.defaults "a.elf").run (serving "\x7b\"max_cycles\": 7\x7d" 0)
    let events := external course.events
    Settings.defaults.flashArguments "a.elf" = .ok flash ∧
      Settings.defaults.exploreArguments "a.elf" "measure" = .ok explore ∧
      course.result = .ok ⟨"a.elf", 250, 7⟩ ∧
      OnlyAfter IsMemoryRequest
        (Settings.defaults.Deployed flash { url := "http://192.168.4.1/api" }) [] events ∧
      Settings.defaults.Sampled events 250 ∧ IsLargestBound explore events 7 := by
  intro flash explore course events
  have flashes : Settings.defaults.flashArguments "a.elf" = .ok flash := by rfl
  have explores : Settings.defaults.exploreArguments "a.elf" "measure" = .ok explore := by rfl
  have measured : course.result = .ok ⟨"a.elf", 250, 7⟩ :=
    record_serving (eq_ok_of_toOption (by decide +kernel)) 0
  obtain ⟨-, -, -, memory, -, returned⟩ := record_in_order flashes explores (serving _ 0)
  exact ⟨flashes, explores, measured, memory, (returned _ measured).2⟩

end Bench

end TickBound
