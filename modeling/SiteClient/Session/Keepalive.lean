import SiteClient.Session.Monitor
/-!
# Keeping a session alive

A keepalive is stopped or running. A running one has a loop that polls the session, in one of two
modes fixed when it starts: it extends the session at equal intervals, or it checks the session and
goes by the answer. The first poll comes a full interval after the start. A poll that fails is
reported and ends the loop, but the keepalive counts as running until it is stopped.

A loop goes on by itself once it has been started. So the loops stand beside what the keepalive
knows of them, which is the mode and the place of the one that counts as running.

Time is a number of nanoseconds and moves only by `Keepalive.advance`; polls take no time. A poll
takes place at a whole thousandth of a second: an interval that ends between two of them is rounded
up.
-/

namespace SiteClient

/-- What a loop does. -/
inductive KeepaliveMode where
  /-- Extends the session at equal intervals. -/
  | touch (frequency : Duration)
  /-- Watches the remaining time. -/
  | check
  deriving DecidableEq, Repr

/-- A loop that was started. -/
structure PollLoop where
  mode : KeepaliveMode
  /-- When the next poll takes place; `none` once the loop has ended. -/
  due : Option Nat
  deriving DecidableEq, Repr

/-- A keepalive at a moment. -/
structure Keepalive where
  now : Nat := 0
  /-- All loops that were started, oldest first. -/
  loops : List PollLoop := []
  /-- The mode and the place of the loop that counts as running. -/
  running : Option (KeepaliveMode × Nat) := none
  deriving DecidableEq, Repr

/-- A poll that is to come. -/
structure Poll where
  /-- The place of the loop that makes it. -/
  place : Nat
  mode : KeepaliveMode
  moment : Nat
  deriving DecidableEq, Repr

/-- What a request to start comes to. -/
inductive StartOutcome where
  | started (mode : KeepaliveMode)
  /-- There is a loop already, in this mode; nothing has changed. -/
  | alreadyRunning (mode : KeepaliveMode)
  deriving DecidableEq, Repr

namespace Keepalive

/-- The mode of the loop, if the keepalive is running. -/
def status (k : Keepalive) : Option KeepaliveMode :=
  k.running.map Prod.fst

/-- The nanoseconds between two moments at which a poll can take place. -/
def tick : Nat := 1000000

/-- The moment of the poll that is due an interval after `start`. -/
def pollTime (start : Nat) (interval : Duration) : Nat :=
  (start + interval.total + (tick - 1)) / tick * tick

/-- The time from the start to the first poll. -/
def firstDelay (settings : KeepaliveSettings) : KeepaliveMode → Duration
  | .touch frequency => frequency
  | .check => settings.checkFrequency

/-- Starts a loop, unless one counts as running. -/
def start (settings : KeepaliveSettings) (k : Keepalive) (mode : KeepaliveMode) :
    StartOutcome × Keepalive :=
  match k.running with
  | some (running, _) => (.alreadyRunning running, k)
  | none =>
    let first := pollTime k.now (firstDelay settings mode)
    (.started mode,
      { k with loops := k.loops ++ [⟨mode, some first⟩], running := some (mode, k.loops.length) })

/-- The mode for a frequency: no frequency means to watch the remaining time. -/
def modeOf (frequency : Duration) : KeepaliveMode :=
  if frequency = .zero then .check else .touch frequency

/-- Stops the loop that counts as running, if there is one: it makes no further poll. -/
def stop (k : Keepalive) : Bool × Keepalive :=
  match k.running with
  | some (_, place) =>
    (true, { k with
      loops := k.loops.modify place fun loop ↦ { loop with due := none }
      running := none })
  | none => (false, k)

/-- The polls that are to come, one for each loop that has not ended. -/
def pending (k : Keepalive) : List Poll :=
  k.loops.zipIdx.filterMap fun (loop, place) ↦ loop.due.map fun due ↦ ⟨place, loop.mode, due⟩

/-- The poll that comes first, if it is due by the moment `limit`. -/
def nextPoll (k : Keepalive) (limit : Nat) : Option Poll :=
  (k.pending.minOn? Poll.moment).filter fun poll ↦ poll.moment ≤ limit

variable {ω : Type}

/-- One poll of a loop: the time to the next poll, or the error that ends the loop. -/
def pollOnce (env : Surroundings ω) (settings : KeepaliveSettings) (mode : KeepaliveMode) (s : ω) :
    Except RemoteError Duration × ω :=
  match mode with
  | .touch frequency =>
    let (result, s) := Session.touch env s
    (result.map fun () ↦ frequency, s)
  | .check => Session.check env settings s

/-- A poll of a loop at the moment `due`: the loop after it. -/
def runPoll (env : Surroundings ω) (settings : KeepaliveSettings) (mode : KeepaliveMode) (due : Nat)
    (s : ω) : PollLoop × ω :=
  match pollOnce env settings mode (env.setClock due s) with
  | (.ok delay, s) => (⟨mode, some (pollTime due delay)⟩, s)
  | (.error e, s) => (⟨mode, none⟩, env.report e s)

/-- Lets a poll that is to come take place. -/
def makePoll (env : Surroundings ω) (settings : KeepaliveSettings) (k : Keepalive)
    (poll : Poll) (s : ω) : Keepalive × ω :=
  let (loop, s) := runPoll env settings poll.mode poll.moment s
  ({ k with now := poll.moment, loops := k.loops.set poll.place loop }, s)

/-- All polls that are due by the moment `limit`, but at most `polls` of them. -/
def pollUntil (env : Surroundings ω) (settings : KeepaliveSettings) (limit : Nat) :
    (polls : Nat) → Keepalive → ω → Keepalive × ω
  | 0, k, s => (k, s)
  | polls + 1, k, s =>
    match k.nextPoll limit with
    | none => (k, s)
    | some poll =>
      let (k, s) := makePoll env settings k poll s
      pollUntil env settings limit polls k s

/-- Lets time pass: every poll that is due takes place at its own moment. Where no interval is zero,
polls are at least a tick apart, so no more can be due than the time has nanoseconds. -/
def advance (env : Surroundings ω) (settings : KeepaliveSettings) (k : Keepalive)
    (time : Nat) (s : ω) : Keepalive × ω :=
  let limit := k.now + time
  let (k, s) := pollUntil env settings limit (time + 1) k s
  ({ k with now := limit }, env.setClock limit s)

end Keepalive
end SiteClient
