import SiteClient.Remote.RoundTrip
/-!
# The dispatcher

A dispatcher sends batches and hands out a handle for each call. A batch is sent at once or left
pending until its round trip is run; a pending batch can also be given up. A handle can be looked at
any number of times, and waited for or dropped once.

Between a round trip and each of its handles there is a channel that holds one result. The sending
ends belong to the round trip and go away with it, whether it has come to its end or was given up. A
look at a handle moves the result out of the channel and keeps it in the handle; a wait takes it
away.

Everything that can happen is an `Event`, so a run of a dispatcher is a list of events, in any
order.
-/

namespace SiteClient

/-- The channel from a round trip to one handle, and the handle. -/
structure Slot where
  /-- What has been sent and not been received. -/
  buffer : Option CallResult := none
  /-- What a look has received, kept for later looks and for the wait. -/
  settled : Option CallResult := none
  /-- Whether the handle has been waited for or dropped. -/
  taken : Bool := false

/-- What a look at a handle shows. -/
inductive Sight where
  | pending
  | result (r : CallResult)
  /-- The handle has been waited for or dropped, or there never was one. -/
  | taken

namespace Slot

/-- Sends a result. A full channel refuses it, and so does one whose handle is gone. -/
def send (slot : Slot) (r : CallResult) : Slot :=
  if slot.taken || slot.buffer.isSome then slot else { slot with buffer := some r }

/-- What the receiving end finds in the channel: a result, or that none will come because the
sending end is gone. -/
def receive? (slot : Slot) (sending : Bool) : Option CallResult :=
  match slot.buffer with
  | some r => some r
  | none => if sending then none else some (.error .dropped)

/-- A look: receives the result, unless the handle has it already, and keeps it. -/
def tryResult (slot : Slot) (sending : Bool) : Slot :=
  if slot.taken || slot.settled.isSome then slot
  else { slot with buffer := none, settled := slot.receive? sending }

/-- The handle goes out of hand, and the channel with it. -/
def take (_ : Slot) : Slot :=
  { taken := true }

/-- What a look shows. -/
def sight (slot : Slot) (sending : Bool) : Sight :=
  if slot.taken then .taken
  else match (slot.tryResult sending).settled with
    | none => .pending
    | some r => .result r

/-- A wait: takes the result that a look has kept, else receives it. While there is none the wait
goes on. -/
def wait (slot : Slot) (sending : Bool) : Sight × Slot :=
  if slot.taken then (.taken, slot)
  else match slot.settled with
    | some r => (.result r, slot.take)
    | none =>
      match slot.receive? sending with
      | some r => (.result r, slot.take)
      | none => (.pending, slot)

end Slot

/-- A batch that has been dispatched, and the handles of its calls. -/
structure Flight where
  calls : List Call
  slots : List Slot
  /-- Whether the round trip is still to be run. It holds the sending ends. -/
  pending : Bool

namespace Flight

/-- A batch whose round trip has not been run. No calls, no round trip. -/
def start (calls : List Call) : Flight :=
  ⟨calls, calls.map fun _ ↦ {}, !calls.isEmpty⟩

def rejectAll (e : RemoteError) (slots : List Slot) : List Slot :=
  slots.map fun slot ↦ slot.send (.error e)

/-- Walks the handles, from `place` on, beside the responses, and sends each handle the data of its
response. The walk stops at the first response that is missing or failed, and says where and why. -/
def walk (place : Nat) : List Slot → List CallResponse → List Slot × Option (Nat × RemoteError)
  | [], _ => ([], none)
  | slots@(_ :: _), [] => (slots, some (place, .missingResponse place))
  | slot :: slots, r :: rest =>
    if r.error then (slot :: slots, some (place, .exception (r.exception.getD .unknown)))
    else
      let (walked, failure) := walk (place + 1) slots rest
      (slot.send (.ok r.data) :: walked, failure)

/-- Sends every handle its result by the responses. The handles from where the walk stopped on are
all rejected alike. -/
def settleBatch (slots : List Slot) (responses : List CallResponse) : List Slot :=
  match walk 0 slots responses with
  | (walked, none) => walked
  | (walked, some (first, e)) => walked.take first ++ rejectAll e (walked.drop first)

/-- What the end of the round trip leaves, by what came of it. -/
def settle (f : Flight) (reply : Except RemoteError Body) : Flight :=
  { f with
    pending := false
    slots :=
      match reply with
      | .error e => rejectAll e f.slots
      | .ok body =>
        match Wire.decodeResponses body with
        | .error e => rejectAll e f.slots
        | .ok responses => settleBatch f.slots responses }

/-- Gives up the round trip. -/
def abandon (f : Flight) : Flight :=
  { f with pending := false }

def modifySlot (f : Flight) (index : Nat) (change : Slot → Slot) : Flight :=
  { f with slots := f.slots.modify index change }

end Flight

/-- How a batch is sent. -/
inductive CallMode where
  /-- The round trip is left pending. -/
  | async
  /-- The round trip is run at once. -/
  | blocking
  deriving DecidableEq, Repr

/-- A dispatcher: the state of the other side, the batches so far, and whether pending round trips
are still going to be run. -/
structure Dispatcher (ω : Type) where
  site : ω
  flights : List Flight := []
  closed : Bool := false

namespace Dispatcher

variable {ω : Type}

/-- Runs the round trip of a batch, if it is pending. -/
def execute (transport : Transport ω) (d : Dispatcher ω) (batch : Nat) : Dispatcher ω :=
  match d.flights[batch]? with
  | none => d
  | some f =>
    if f.pending then
      let (reply, site) := transport.roundTrip (Wire.encodeRequests (Call.batch f.calls)) d.site
      { d with site, flights := d.flights.set batch (f.settle reply) }
    else d

/-- Gives up the round trip of a batch, if it is pending. -/
def abandon (d : Dispatcher ω) (batch : Nat) : Dispatcher ω :=
  { d with flights := d.flights.modify batch Flight.abandon }

/-- A batch more, whose round trip is still to be run. -/
def enqueue (d : Dispatcher ω) (calls : List Call) : Dispatcher ω :=
  { d with flights := d.flights ++ [.start calls] }

/-- Sends a batch. Once round trips are no longer run, a batch that would be left pending is given
up. -/
def dispatch (transport : Transport ω) (d : Dispatcher ω) (calls : List Call) :
    CallMode → Dispatcher ω
  | .blocking => (d.enqueue calls).execute transport d.flights.length
  | .async => if d.closed then (d.enqueue calls).abandon d.flights.length else d.enqueue calls

/-- Runs all pending round trips, oldest first. -/
def runPending (transport : Transport ω) (d : Dispatcher ω) : Dispatcher ω :=
  (List.range d.flights.length).foldl (execute transport) d

/-- From now on round trips are run only at once; those that are pending are given up. -/
def shutdown (d : Dispatcher ω) : Dispatcher ω :=
  { d with flights := d.flights.map Flight.abandon, closed := true }

/-- The handle of a call, and whether the round trip of its batch is pending. -/
def slot? (d : Dispatcher ω) (batch index : Nat) : Option (Slot × Bool) :=
  d.flights[batch]?.bind fun f ↦ f.slots[index]?.map fun slot ↦ (slot, f.pending)

/-- What a look at the handle of a call shows. -/
def look (d : Dispatcher ω) (batch index : Nat) : Sight :=
  match d.slot? batch index with
  | none => .taken
  | some (slot, sending) => slot.sight sending

def modifySlot (d : Dispatcher ω) (batch index : Nat) (change : Slot → Bool → Slot) :
    Dispatcher ω :=
  { d with flights := d.flights.modify batch fun f ↦ f.modifySlot index (change · f.pending) }

/-- Looks at a handle without waiting. -/
def inspect (d : Dispatcher ω) (batch index : Nat) : Sight × Dispatcher ω :=
  (d.look batch index, d.modifySlot batch index Slot.tryResult)

/-- Drops a handle. -/
def take (d : Dispatcher ω) (batch index : Nat) : Dispatcher ω :=
  d.modifySlot batch index fun slot _ ↦ slot.take

/-- Waits for a call. While the call is pending the wait goes on; when it has a result, the handle
is out of hand. -/
def wait (d : Dispatcher ω) (batch index : Nat) : Sight × Dispatcher ω :=
  let sight := match d.slot? batch index with
    | none => .taken
    | some (slot, sending) => (slot.wait sending).1
  (sight, d.modifySlot batch index fun slot sending ↦ (slot.wait sending).2)

/-! ## Runs -/

/-- Something that happens to a dispatcher. -/
inductive Event where
  | dispatch (calls : List Call) (mode : CallMode)
  | execute (batch : Nat)
  | abandon (batch : Nat)
  | look (batch index : Nat)
  | wait (batch index : Nat)
  | drop (batch index : Nat)
  | shutdown

/-- What comes of an event; a look and a wait show something. -/
def step (transport : Transport ω) (d : Dispatcher ω) : Event → Option Sight × Dispatcher ω
  | .dispatch calls mode => (none, d.dispatch transport calls mode)
  | .execute batch => (none, d.execute transport batch)
  | .abandon batch => (none, d.abandon batch)
  | .look batch index =>
    let (sight, d) := d.inspect batch index
    (some sight, d)
  | .wait batch index =>
    let (sight, d) := d.wait batch index
    (some sight, d)
  | .drop batch index => (none, d.take batch index)
  | .shutdown => (none, d.shutdown)

/-- What comes of events, one after the other: what each shows, and the dispatcher after them. -/
def run (transport : Transport ω) (d : Dispatcher ω) :
    List Event → List (Option Sight) × Dispatcher ω
  | [] => ([], d)
  | e :: rest =>
    let (sight, d) := step transport d e
    let (sights, d) := run transport d rest
    (sight :: sights, d)

end Dispatcher

/-- The line that describes a dispatcher over a transport. -/
def Transport.describeDispatcher {ω : Type} (transport : Transport ω) : Text :=
  "Dispatcher [".toList ++ transport.name ++ " transport]".toList

end SiteClient
