import SiteClient.Localized.Request
import SiteClient.Remote.RoundTrip
import SiteClient.Session.Settings
/-!
# Polling a session

One poll asks the site about the session of the user or extends it. A poll is written against its
surroundings: the site, the localized strings and the user, with a state of any type. So it can be
run against a site that changes with time and a user who answers at will.

A check asks for the remaining time. If the session is about to end, the user is asked whether to
extend it; a question that cannot be put and an extension that fails are reported and change nothing
else.
-/

namespace SiteClient

/-- A question to the user, and the labels of its two answers. -/
structure Prompt where
  title : Text
  question : Text
  yes : Text
  no : Text
  deriving DecidableEq, Repr

/-- What a poll can do, with a state of type `ω`. -/
structure Surroundings (ω : Type) where
  /-- Sends one call and waits for its result. -/
  call : Call → ω → CallResult × ω
  /-- Looks up localized strings. -/
  strings : List StringRequest → ω → Except RemoteError (List Text) × ω
  /-- Asks the user; whether the answer is yes. -/
  confirm : Prompt → ω → Bool × ω
  /-- Tells the user about a failure. -/
  report : RemoteError → ω → ω
  /-- Moves the clock to a moment, in nanoseconds. -/
  setClock : Nat → ω → ω

namespace Session

def touchMethod : Text := "core_session_touch".toList

def remainingMethod : Text := "core_session_time_remaining".toList

/-- A number as a number of seconds. An integer that a signed word holds is taken as it is. Any
other number goes through a double, which loses its fraction and is brought into the range of a
signed word. What is negative counts as zero. -/
def wholeSeconds (n : Number) : Nat :=
  (n.toInt64?.getD (Binary.ofFloat n.toFloat).saturate).toNat

/-- The remaining seconds in an answer: a number, or a record with the number in it. -/
def remainingSeconds (payload : Json) : Except RemoteError Nat :=
  let seconds := match payload with
    | .object fields => Fields.get? fields "timeremaining".toList
    | v => some v
  match seconds with
  | some (.number n) => .ok (wholeSeconds n)
  | _ => .error (.serialization ("unexpected time remaining payload: ".toList ++ payload.text))

variable {ω : Type}

/-- Extends the session. -/
def touch (env : Surroundings ω) (s : ω) : Except RemoteError Unit × ω :=
  let (result, s) := env.call ⟨touchMethod, []⟩ s
  (result.map fun _ ↦ (), s)

/-- Asks for the remaining time. -/
def timeRemaining (env : Surroundings ω) (s : ω) : Except RemoteError Duration × ω :=
  let (result, s) := env.call ⟨remainingMethod, []⟩ s
  (result.bind fun payload ↦ (remainingSeconds payload).map Duration.ofSeconds, s)

def promptStrings : List StringRequest :=
  [.of "inactive".toList "moodle".toList, .of "sessiontimeoutsoon".toList "error".toList]

def extendPrompt (title question : Text) : Prompt :=
  ⟨title, question, "Extend session".toList, "Cancel".toList⟩

/-- The error for another number of prompt strings than two. -/
def promptError (got : Nat) : RemoteError :=
  .serialization ("expected 2 prompt strings, got ".toList ++ Text.ofNat got)

/-- Asks the user whether to extend the session, and extends it if the answer is yes. -/
def offerExtension (env : Surroundings ω) (s : ω) : ω :=
  match env.strings promptStrings s with
  | (.ok [title, question], s) =>
    match env.confirm (extendPrompt title question) s with
    | (true, s) =>
      match touch env s with
      | (.ok (), s) => s
      | (.error e, s) => env.report e s
    | (false, s) => s
  | (.ok texts, s) => env.report (promptError texts.length) s
  | (.error e, s) => env.report e s

/-- Checks the session: the time to the next check. -/
def check (env : Surroundings ω) (settings : KeepaliveSettings) (s : ω) :
    Except RemoteError Duration × ω :=
  match timeRemaining env s with
  | (.error e, s) => (.error e, s)
  | (.ok remaining, s) =>
    if settings.warningLimit ≤ remaining then (.ok settings.checkFrequency, s)
    else (.ok settings.warningLimit, offerExtension env s)

end Session
end SiteClient
