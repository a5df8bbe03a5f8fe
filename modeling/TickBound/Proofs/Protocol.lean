import TickBound.Probe.Core
import TickBound.Proofs.Calculus

/-!
# Protocols

A protocol says which requests a probe gets, one after another, and how they depend on the words that
came back. Exchanges complete a protocol, or begin it: every request is the one that is asked for, and
every reply but the last is one that the protocol goes on from. An activity that follows a protocol may
stop at any point of it, but it has a result exactly when the protocol is complete.
-/

namespace TickBound

structure Exchange where
  request : Request
  reply : Reply

def Event.exchange? : Event → Option Exchange
  | .requested _ request _ reply => some ⟨request, reply⟩
  | _ => none

def exchanges (events : List Event) : List Exchange :=
  events.filterMap Event.exchange?

@[simp] theorem exchanges_nil : exchanges [] = [] := rfl

@[simp] theorem exchanges_append (first second : List Event) :
    exchanges (first ++ second) = exchanges first ++ exchanges second :=
  List.filterMap_append

@[simp] theorem exchanges_requested (base : String) (request : Request) (timeout : Float)
    (reply : Reply) (events : List Event) :
    exchanges (.requested base request timeout reply :: events) =
      ⟨request, reply⟩ :: exchanges events := rfl

@[simp] theorem exchanges_noted (level : Level) (source : Source) (text : String)
    (events : List Event) : exchanges (.noted level source text :: events) = exchanges events := rfl

namespace Reply

/-- The word that a reply to a read brings. -/
def word? : Reply → Option Word
  | answered status text => if status = 200 then Session.wordIn? text else none
  | _ => none

def isTaken : Reply → Bool
  | answered status _ => status = 200
  | _ => false

theorem word?_answered {text : String} {w : Word} (h : Session.wordIn? text = some w) :
    (answered 200 text).word? = some w := by
  simpa [word?] using h

def ones : Reply := .answered 200 "\x7b\"data\": \"0xFFFFFFFF\"\x7d"

theorem word?_ones : ones.word? = some 0xFFFFFFFF#32 :=
  word?_answered (by decide +kernel)

theorem isTaken_ones : ones.isTaken = true := rfl

end Reply

inductive Protocol (α : Type) where
  | done (a : α)
  | read (address : Int) (next : Word → Protocol α)
  | write (address value : Int) (next : Protocol α)
  /-- Reads of one address until a word has the bit; behind the first there may be `more` of them, or any
  number. -/
  | poll (address : Int) (bit : Fin 32) (more : Option Nat) (next : Protocol α)

namespace Protocol

variable {α β : Type}

def asks : Protocol α → Option Request
  | done _ => none
  | read address _ => some (.read address)
  | write address value _ => some (.write address value)
  | poll address _ _ _ => some (.read address)

/-- How many polls there may be behind one more. -/
def fewer? : Option Nat → Option (Option Nat)
  | none => some none
  | some 0 => none
  | some (n + 1) => some (some n)

/-- What is left to do when the reply is one to go on from. -/
def after : Protocol α → Reply → Option (Protocol α)
  | done _, _ => none
  | read _ next, reply => reply.word?.map next
  | write _ _ next, reply => if reply.isTaken then some next else none
  | poll address bit more next, reply =>
      reply.word?.bind fun w =>
        if w.getLsbD bit then some next
        else (fewer? more).map fun fewer => poll address bit fewer next

/-- What a poll goes on with behind a word: what comes behind the polls, or more of them. -/
def behindPoll (address : Int) (bit : Fin 32) (more : Option Nat) (next : Protocol α) (w : Word) :
    Option (Protocol α) :=
  if w.getLsbD bit then some next
  else (fewer? more).map fun fewer => poll address bit fewer next

theorem after_poll (address : Int) (bit : Fin 32) (more : Option Nat) (next : Protocol α)
    (reply : Reply) :
    (poll address bit more next).after reply =
      reply.word?.bind (behindPoll address bit more next) := rfl

section BehindPoll

variable {address : Int} {bit : Fin 32} {more : Option Nat} {next q : Protocol α} {w : Word}

theorem behindPoll_of_set (set : w.getLsbD bit = true) :
    behindPoll address bit more next w = some next :=
  if_pos set

theorem behindPoll_of_clear (clear : w.getLsbD bit = false) :
    behindPoll address bit more next w =
      (fewer? more).map fun fewer => poll address bit fewer next :=
  if_neg (Bool.eq_false_iff.mp clear)

theorem behindPoll_eq_some (h : behindPoll address bit more next w = some q) :
    w.getLsbD bit = true ∧ q = next ∨
      w.getLsbD bit = false ∧ ∃ fewer, fewer? more = some fewer ∧ q = poll address bit fewer next := by
  cases hw : w.getLsbD bit with
  | true =>
      rw [behindPoll_of_set hw] at h
      exact .inl ⟨rfl, (Option.some.inj h).symm⟩
  | false =>
      rw [behindPoll_of_clear hw] at h
      obtain ⟨fewer, hf, same⟩ := Option.map_eq_some_iff.mp h
      exact .inr ⟨rfl, fewer, hf, same.symm⟩

theorem behindPoll_eq_none (h : behindPoll address bit more next w = none) :
    w.getLsbD bit = false ∧ fewer? more = none := by
  cases hw : w.getLsbD bit with
  | true =>
      rw [behindPoll_of_set hw] at h
      cases h
  | false =>
      rw [behindPoll_of_clear hw] at h
      exact ⟨rfl, Option.map_eq_none_iff.mp h⟩

end BehindPoll

/-- The exchanges are a whole run of the protocol, and `a` is what it was for. -/
inductive Completes : Protocol α → List Exchange → α → Prop where
  | done (a : α) : Completes (.done a) [] a
  | step {p q : Protocol α} {x : Exchange} {xs : List Exchange} {a : α} :
      p.asks = some x.request → p.after x.reply = some q → Completes q xs a →
        Completes p (x :: xs) a

/-- The exchanges are a run of the protocol up to some point. -/
inductive Begins : Protocol α → List Exchange → Prop where
  | nothing (p : Protocol α) : Begins p []
  | last {p : Protocol α} {x : Exchange} : p.asks = some x.request → Begins p [x]
  | step {p q : Protocol α} {x : Exchange} {xs : List Exchange} :
      p.asks = some x.request → p.after x.reply = some q → Begins q xs → Begins p (x :: xs)

theorem eq_done_of_asks {p : Protocol α} (h : p.asks = none) : ∃ a, p = .done a := by
  cases p with
  | done a => exact ⟨a, rfl⟩
  | read | write | poll => cases h

theorem Completes.of_done {a b : α} {xs : List Exchange} (h : (Protocol.done a).Completes xs b) :
    xs = [] ∧ b = a := by
  cases h with
  | done => exact ⟨rfl, rfl⟩
  | step asks => cases asks

theorem Begins.of_done {a : α} {xs : List Exchange} (h : (Protocol.done a).Begins xs) : xs = [] := by
  cases h with
  | nothing => rfl
  | last asks => cases asks
  | step asks => cases asks

theorem Completes.asks_of_nil {p : Protocol α} {a : α} (h : p.Completes [] a) : p.asks = none := by
  cases h
  rfl

theorem completes_cons_iff {p : Protocol α} {x : Exchange} {xs : List Exchange} {a : α} :
    p.Completes (x :: xs) a ↔
      p.asks = some x.request ∧ ∃ q, p.after x.reply = some q ∧ q.Completes xs a := by
  constructor
  · intro h
    cases h with
    | step asks after rest => exact ⟨asks, _, after, rest⟩
  · rintro ⟨asks, q, after, rest⟩
    exact .step asks after rest

/-! ## One protocol behind another -/

def bind : Protocol α → (α → Protocol β) → Protocol β
  | done a, k => k a
  | read address next, k => read address fun w => (next w).bind k
  | write address value next, k => write address value (next.bind k)
  | poll address bit more next, k => poll address bit more (next.bind k)

instance : Monad Protocol where
  pure := done
  bind := bind

def get (address : Int) : Protocol Word :=
  read address done

def put (address value : Int) : Protocol Unit :=
  write address value (done ())

def await (address : Int) (bit : Fin 32) (more : Option Nat) : Protocol Unit :=
  poll address bit more (done ())

theorem bind_done (p : Protocol α) : p >>= done = p := by
  induction p with
  | done a => rfl
  | read address next ih => exact congrArg (read address) (funext ih)
  | write address value next ih => exact congrArg (write address value) ih
  | poll address bit more next ih => exact congrArg (poll address bit more) ih

theorem bind_bind {γ : Type} (p : Protocol α) (k : α → Protocol β) (l : β → Protocol γ) :
    (p >>= k) >>= l = p >>= fun a => k a >>= l := by
  induction p with
  | done a => rfl
  | read address next ih => exact congrArg (read address) (funext ih)
  | write address value next ih => exact congrArg (write address value) ih
  | poll address bit more next ih => exact congrArg (poll address bit more) ih

instance : LawfulMonad Protocol :=
  LawfulMonad.mk' Protocol bind_done (fun _ _ => rfl) bind_bind

theorem asks_bind {p : Protocol α} {request : Request} (h : p.asks = some request)
    (k : α → Protocol β) : (p >>= k).asks = some request := by
  cases p with
  | done a => simp [asks] at h
  | read | write | poll => exact h

theorem after_bind {p : Protocol α} {request : Request} (h : p.asks = some request)
    (k : α → Protocol β) (reply : Reply) :
    (p >>= k).after reply = (p.after reply).map (· >>= k) := by
  cases p with
  | done a => simp [asks] at h
  | read address next =>
      change reply.word?.map _ = (reply.word?.map next).map _
      rw [Option.map_map]
      rfl
  | write address value next =>
      change (if reply.isTaken then _ else _) = (if reply.isTaken then _ else _ : Option _).map _
      split <;> rfl
  | poll address bit more next =>
      change (reply.word?.bind _) = (reply.word?.bind _).map _
      cases reply.word? with
      | none => rfl
      | some w =>
          simp only [Option.bind_some]
          split
          · rfl
          · rw [Option.map_map]
            rfl

theorem Completes.bind {p : Protocol α} {k : α → Protocol β} {xs ys : List Exchange} {a : α} {b : β}
    (first : p.Completes xs a) (second : (k a).Completes ys b) :
    (p >>= k).Completes (xs ++ ys) b := by
  induction first with
  | done a => exact second
  | step asks after _ ih =>
      exact .step (asks_bind asks k) (by rw [after_bind asks, after]; rfl) (ih second)

theorem Begins.bind_left {p : Protocol α} {xs : List Exchange} (first : p.Begins xs)
    (k : α → Protocol β) : (p >>= k).Begins xs := by
  induction first with
  | nothing p => exact .nothing _
  | last asks => exact .last (asks_bind asks k)
  | step asks after _ ih => exact .step (asks_bind asks k) (by rw [after_bind asks, after]; rfl) ih

theorem Begins.bind {p : Protocol α} {k : α → Protocol β} {xs ys : List Exchange} {a : α}
    (first : p.Completes xs a) (second : (k a).Begins ys) : (p >>= k).Begins (xs ++ ys) := by
  induction first with
  | done a => exact second
  | step asks after _ ih =>
      exact .step (asks_bind asks k) (by rw [after_bind asks, after]; rfl) (ih second)

theorem Completes.of_bind {p : Protocol α} {k : α → Protocol β} {zs : List Exchange} {b : β}
    (whole : (p >>= k).Completes zs b) :
    ∃ xs ys a, zs = xs ++ ys ∧ p.Completes xs a ∧ (k a).Completes ys b := by
  induction zs generalizing p with
  | nil =>
      cases hp : p.asks with
      | none =>
          obtain ⟨a, rfl⟩ := eq_done_of_asks hp
          exact ⟨[], [], a, rfl, .done a, whole⟩
      | some request =>
          have asked := whole.asks_of_nil
          rw [asks_bind hp] at asked
          cases asked
  | cons x zs ih =>
      cases hp : p.asks with
      | none =>
          obtain ⟨a, rfl⟩ := eq_done_of_asks hp
          exact ⟨[], x :: zs, a, rfl, .done a, whole⟩
      | some request =>
          obtain ⟨asks, r, after, rest⟩ := completes_cons_iff.mp whole
          rw [asks_bind hp] at asks
          rw [after_bind hp] at after
          obtain ⟨q, hq, rfl⟩ := Option.map_eq_some_iff.mp after
          obtain ⟨xs, ys, a, rfl, first, second⟩ := ih rest
          exact ⟨x :: xs, ys, a, rfl, .step (hp.trans asks) hq first, second⟩

theorem Begins.of_bind {p : Protocol α} {k : α → Protocol β} {zs : List Exchange}
    (whole : (p >>= k).Begins zs) :
    p.Begins zs ∨ ∃ xs ys a, zs = xs ++ ys ∧ p.Completes xs a ∧ (k a).Begins ys := by
  induction zs generalizing p with
  | nil => exact .inl (.nothing p)
  | cons x zs ih =>
      cases hp : p.asks with
      | none =>
          obtain ⟨a, rfl⟩ := eq_done_of_asks hp
          exact .inr ⟨[], x :: zs, a, rfl, .done a, whole⟩
      | some request =>
          cases whole with
          | last asks =>
              rw [asks_bind hp] at asks
              exact .inl (.last (hp.trans asks))
          | step asks after rest =>
              rw [asks_bind hp] at asks
              rw [after_bind hp] at after
              obtain ⟨q, hq, rfl⟩ := Option.map_eq_some_iff.mp after
              rcases ih rest with begun | ⟨xs, ys, a, rfl, first, second⟩
              · exact .inl (.step (hp.trans asks) hq begun)
              · exact .inr ⟨x :: xs, ys, a, rfl, .step (hp.trans asks) hq first, second⟩

theorem completes_map {p : Protocol α} {f : α → β} {xs : List Exchange} {b : β} :
    (p >>= fun a => pure (f a)).Completes xs b ↔ ∃ a, p.Completes xs a ∧ b = f a := by
  constructor
  · intro whole
    obtain ⟨xs, ys, a, rfl, first, second⟩ := whole.of_bind
    obtain ⟨rfl, rfl⟩ := Completes.of_done second
    exact ⟨a, by simpa using first, rfl⟩
  · rintro ⟨a, first, rfl⟩
    simpa using first.bind (k := fun a => pure (f a)) (.done (f a))

/-! ## Complete runs -/

theorem Completes.begins {p : Protocol α} {xs : List Exchange} {a : α} (h : p.Completes xs a) :
    p.Begins xs := by
  induction h with
  | done a => exact .nothing _
  | step asks after _ ih => exact .step asks after ih

theorem Begins.of_map {p : Protocol α} {f : α → β} {xs : List Exchange}
    (h : (p >>= fun a => pure (f a)).Begins xs) : p.Begins xs := by
  rcases h.of_bind with begun | ⟨xs, ys, a, rfl, first, second⟩
  · exact begun
  · obtain rfl := Begins.of_done second
    simpa using first.begins

/-- Behind a complete run nothing is left of a protocol. -/
theorem Completes.nothing_left {p : Protocol α} {xs ys : List Exchange} {a : α}
    (complete : p.Completes xs a) (begun : p.Begins (xs ++ ys)) : ys = [] := by
  induction complete with
  | done a => exact begun.of_done
  | @step p q x xs a asks after complete ih =>
      rw [List.cons_append] at begun
      generalize hzs : xs ++ ys = zs at begun ih
      cases begun with
      | last => exact (List.append_eq_nil_iff.mp hzs).2
      | step _ after' rest =>
          rw [after] at after'
          cases after'
          exact ih rest

/-- Exchanges are complete at one point only, and for one thing. -/
theorem Completes.unique {p : Protocol α} {xs xs' ys ys' : List Exchange} {a a' : α}
    (h : p.Completes xs a) (h' : p.Completes xs' a') (same : xs ++ ys = xs' ++ ys') :
    xs = xs' ∧ ys = ys' ∧ a = a' := by
  induction h generalizing xs' with
  | done a =>
      obtain ⟨rfl, rfl⟩ := h'.of_done
      exact ⟨rfl, same, rfl⟩
  | step asks after complete ih =>
      cases h' with
      | done => simp [Protocol.asks] at asks
      | step asks' after' complete' =>
          obtain ⟨rfl, rest⟩ := List.cons.inj same
          rw [after] at after'
          cases after'
          obtain ⟨rfl, rfl, rfl⟩ := ih complete' rest
          exact ⟨rfl, rfl, rfl⟩

theorem after_poll_ones (address : Int) (bit : Fin 32) (more : Option Nat) (next : Protocol α) :
    (poll address bit more next).after .ones = some next := by
  have set : (0xFFFFFFFF#32).getLsbD bit = true := by decide +revert
  simp only [after, Reply.word?_ones, Option.bind_some, set, if_true]

/-- A memory in which every bit is set answers whatever is asked for. -/
theorem after_ones {p : Protocol α} {request : Request} (h : p.asks = some request) :
    ∃ q, p.after .ones = some q := by
  cases p with
  | done a => simp [asks] at h
  | read address next => exact ⟨next 0xFFFFFFFF#32, by rw [after, Reply.word?_ones]; rfl⟩
  | write address value next => exact ⟨next, by rw [after, Reply.isTaken_ones]; rfl⟩
  | poll address bit more next => exact ⟨next, after_poll_ones address bit more next⟩

/-- Every protocol has a complete run. -/
theorem exists_completes (p : Protocol α) : ∃ xs a, p.Completes xs a := by
  induction p with
  | done a => exact ⟨[], a, .done a⟩
  | read address next ih =>
      obtain ⟨xs, a, h⟩ := ih 0xFFFFFFFF#32
      exact ⟨⟨.read address, .ones⟩ :: xs, a, .step rfl (by rw [after, Reply.word?_ones]; rfl) h⟩
  | write address value next ih =>
      obtain ⟨xs, a, h⟩ := ih
      exact ⟨⟨.write address value, .ones⟩ :: xs, a,
        .step rfl (by rw [after, Reply.isTaken_ones]; rfl) h⟩
  | poll address bit more next ih =>
      obtain ⟨xs, a, h⟩ := ih
      exact ⟨⟨.read address, .ones⟩ :: xs, a, .step rfl (after_poll_ones address bit more next) h⟩

/-- The requests are those that `full` begins with, and so are the replies up to the last request. -/
def IsStartOf (xs full : List Exchange) : Prop :=
  xs.map (·.request) <+: full.map (·.request) ∧ xs.dropLast <+: full

/-- What begins a protocol is the start of a complete run. -/
theorem Begins.isStartOf {p : Protocol α} {xs : List Exchange} (h : p.Begins xs) :
    ∃ full a, p.Completes full a ∧ IsStartOf xs full := by
  induction h with
  | nothing p =>
      obtain ⟨full, a, complete⟩ := p.exists_completes
      exact ⟨full, a, complete, List.nil_prefix, List.nil_prefix⟩
  | @last p x asks =>
      obtain ⟨q, hq⟩ := after_ones asks
      obtain ⟨rest, a, complete⟩ := q.exists_completes
      refine ⟨⟨x.request, .ones⟩ :: rest, a, .step asks hq complete, ?_, List.nil_prefix⟩
      exact List.cons_prefix_cons.mpr ⟨rfl, List.nil_prefix⟩
  | @step p q x xs asks after _ ih =>
      obtain ⟨full, a, complete, requests, replies⟩ := ih
      refine ⟨x :: full, a, .step asks after complete, ?_, ?_⟩
      · exact List.cons_prefix_cons.mpr ⟨rfl, requests⟩
      · cases xs with
        | nil => exact List.nil_prefix
        | cons y xs => exact List.cons_prefix_cons.mpr ⟨rfl, replies⟩

/-! ## What a protocol may ask for -/

def AsksOnly (allowed : Request → Prop) : Protocol α → Prop
  | done _ => True
  | read address next => allowed (.read address) ∧ ∀ w, (next w).AsksOnly allowed
  | write address value next => allowed (.write address value) ∧ next.AsksOnly allowed
  | poll address _ _ next => allowed (.read address) ∧ next.AsksOnly allowed

variable {allowed : Request → Prop}

theorem asksOnly_get {address : Int} (h : allowed (.read address)) :
    (get address).AsksOnly allowed :=
  ⟨h, fun _ => trivial⟩

theorem asksOnly_put {address value : Int} (h : allowed (.write address value)) :
    (put address value).AsksOnly allowed :=
  ⟨h, trivial⟩

theorem asksOnly_await {address : Int} {bit : Fin 32} {more : Option Nat}
    (h : allowed (.read address)) : (await address bit more).AsksOnly allowed :=
  ⟨h, trivial⟩

theorem AsksOnly.asks {p : Protocol α} {request : Request} (h : p.AsksOnly allowed)
    (asked : p.asks = some request) : allowed request := by
  cases p with
  | done a => simp [Protocol.asks] at asked
  | read | write | poll =>
      obtain rfl := Option.some.inj asked
      exact h.1

theorem AsksOnly.after {p q : Protocol α} {reply : Reply} (h : p.AsksOnly allowed)
    (left : p.after reply = some q) : q.AsksOnly allowed := by
  cases p with
  | done a => simp [Protocol.after] at left
  | read address next =>
      obtain ⟨w, -, rfl⟩ := Option.map_eq_some_iff.mp left
      exact h.2 w
  | write address value next =>
      simp only [Protocol.after] at left
      split at left
      · exact Option.some.inj left ▸ h.2
      · cases left
  | poll address bit more next =>
      obtain ⟨w, -, left⟩ := Option.bind_eq_some_iff.mp left
      rcases behindPoll_eq_some left with ⟨-, rfl⟩ | ⟨-, fewer, -, rfl⟩
      · exact h.2
      · exact h

theorem AsksOnly.bind {p : Protocol α} {k : α → Protocol β} (first : p.AsksOnly allowed)
    (second : ∀ a, (k a).AsksOnly allowed) : (p >>= k).AsksOnly allowed := by
  induction p with
  | done a => exact second a
  | read address next ih => exact ⟨first.1, fun w => ih w (first.2 w)⟩
  | write address value next ih => exact ⟨first.1, ih first.2⟩
  | poll address bit more next ih => exact ⟨first.1, ih first.2⟩

theorem AsksOnly.forM {ι : Type} {f : ι → Protocol Unit} (items : List ι)
    (h : ∀ i ∈ items, (f i).AsksOnly allowed) : (items.forM f).AsksOnly allowed := by
  induction items with
  | nil => trivial
  | cons i items ih =>
      exact .bind (h i (by simp)) fun _ => ih fun j hj => h j (by simp [hj])

theorem Begins.mem_allowed {p : Protocol α} {xs : List Exchange} (h : p.Begins xs)
    (only : p.AsksOnly allowed) : ∀ x ∈ xs, allowed x.request := by
  induction h with
  | nothing p => simp
  | last asks => simpa using only.asks asks
  | step asks after _ ih => simpa using ⟨only.asks asks, ih (only.after after)⟩

/-! ## What a complete run has asked for -/

def Requires (p : Protocol α) (request : Request) : Prop :=
  ∀ xs a, p.Completes xs a → ∃ x ∈ xs, x.request = request

variable {request : Request}

theorem requires_put (address value : Int) : (put address value).Requires (.write address value) := by
  intro xs a complete
  cases complete with
  | step asks => exact ⟨_, by simp, (Option.some.inj asks).symm⟩

theorem Requires.bind_right {p : Protocol α} {k : α → Protocol β}
    (h : ∀ a, (k a).Requires request) : (p >>= k).Requires request := by
  intro zs b whole
  obtain ⟨xs, ys, a, rfl, -, second⟩ := whole.of_bind
  obtain ⟨y, hy, asked⟩ := h a ys b second
  exact ⟨y, by simp [hy], asked⟩

theorem Completes.of_get {address : Int} {xs : List Exchange} {w : Word}
    (h : (get address).Completes xs w) :
    ∃ x, xs = [x] ∧ x.request = .read address ∧ x.reply.word? = some w := by
  cases h with
  | step asks after rest =>
      obtain ⟨v, hv, rfl⟩ := Option.map_eq_some_iff.mp after
      obtain ⟨rfl, rfl⟩ := rest.of_done
      exact ⟨_, rfl, (Option.some.inj asks).symm, hv⟩

/-- Polls end with a word that has the bit. -/
theorem Completes.of_await {address : Int} {bit : Fin 32} {more : Option Nat} {xs : List Exchange}
    {u : Unit} (h : (await address bit more).Completes xs u) :
    ∃ before x w, xs = before ++ [x] ∧ x.request = .read address ∧ x.reply.word? = some w ∧
      w.getLsbD bit = true := by
  induction xs generalizing more with
  | nil => cases h
  | cons x xs ih =>
      obtain ⟨asks, q, after, rest⟩ := completes_cons_iff.mp h
      obtain ⟨w, hw, goes⟩ := Option.bind_eq_some_iff.mp after
      rcases behindPoll_eq_some goes with ⟨set, rfl⟩ | ⟨-, fewer, -, rfl⟩
      · obtain ⟨rfl, -⟩ := rest.of_done
        exact ⟨[], x, w, rfl, (Option.some.inj asks).symm, hw, set⟩
      · obtain ⟨before, y, v, rfl, found⟩ := ih rest
        exact ⟨x :: before, y, v, rfl, found⟩

/-! ## Where in a run a request stands -/

variable {p : Exchange → Prop} {g : List Exchange → Prop} {past : List Exchange}

theorem Begins.onlyAfter_get {address : Int} {xs : List Exchange} (h : (get address).Begins xs)
    (due : ∀ x : Exchange, x.request = .read address → p x → g past) : OnlyAfter p g past xs := by
  cases h with
  | nothing => exact .of_absent (by simp)
  | last asks =>
      exact .cons (fun hx => due _ (Option.some.inj asks).symm hx) (.of_absent (by simp))
  | step asks after rest =>
      refine .cons (fun hx => due _ (Option.some.inj asks).symm hx) ?_
      obtain ⟨v, -, rfl⟩ := Option.map_eq_some_iff.mp after
      obtain rfl := rest.of_done
      exact .of_absent (by simp)

theorem Begins.onlyAfter_bind {q : Protocol α} {k : α → Protocol β} {zs : List Exchange}
    (whole : (q >>= k).Begins zs) (first : ∀ xs, q.Begins xs → OnlyAfter p g past xs)
    (second : ∀ xs a ys, q.Completes xs a → (k a).Begins ys → OnlyAfter p g (past ++ xs) ys) :
    OnlyAfter p g past zs := by
  rcases whole.of_bind with begun | ⟨xs, ys, a, rfl, complete, rest⟩
  · exact first zs begun
  · exact (first xs complete.begins).append (second xs a ys complete rest)

end Protocol

end TickBound
