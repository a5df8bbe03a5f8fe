import TickBound.Bench.Act

/-!
# The link to the probe

The link answers requests one after another until it has no more replies; from then on it refuses.
Every request takes its time, and so does a pause.
-/

namespace TickBound

/-- A reply and the time that it takes beyond the usual. -/
structure Answer where
  reply : Reply
  took : Float := 0

structure Link where
  /-- The replies that are still to come. -/
  answers : List Answer
  clock : Float := 0
  /-- What every request takes. -/
  tick : Float := 0

namespace Link

/-- What a link answers when it has no more replies. -/
def exhausted : Answer := ⟨.refused "no more replies", 0⟩

def next (link : Link) : Reply × Link :=
  let answer := link.answers.headD exhausted
  (answer.reply, ⟨link.answers.tail, link.clock + link.tick + answer.took, link.tick⟩)

def request (base : String) (timeout : Float) (request : Request) : Act Link Reply :=
  ⟨fun link =>
    let (reply, behind) := link.next
    ⟨.ok reply, [.requested base request timeout reply], behind⟩⟩

def now : Act Link Float :=
  .reads clock

def sleep (seconds : Float) : Act Link Unit :=
  ⟨fun link => ⟨.ok (), [.slept seconds], { link with clock := link.clock + seconds }⟩⟩

end Link

end TickBound
