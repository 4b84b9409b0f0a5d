import SiteClient.Localized.Resolver
import SiteClient.Remote.Script
import SiteClient.Session.Monitor
/-!
# Surroundings with a journal

Surroundings made of a site in the same process, a source of strings and a user whose answers are
given in advance. What happens is written into a journal with its moment: each call that reaches a
scripted handler, each question and each failure. A user who does not keep a journal only writes
calls, declines every question and hears of no failure.
-/

namespace SiteClient

/-- Something worth a line in the journal. -/
inductive Notice where
  | called (method : Text)
  | asked (prompt : Prompt)
  | failed (e : RemoteError)

/-- The answers of a user, in order; the last one repeats, and without one every question is
declined. -/
abbrev Answers := List Bool

/-- The next answer and those after it. -/
def Answers.next : Answers → Bool × Answers
  | [] => (false, [])
  | [last] => (last, [last])
  | answer :: more => (answer, more)

/-- The state of the surroundings. -/
structure Simulation where
  site : LocalSite Repertoire
  strings : StringMemory := {}
  source : StringSource := .site
  /-- The answers of the user; `none` for one who only looks on. -/
  answers : Option Answers := none
  now : Nat := 0
  /-- What has happened, oldest first. -/
  journal : List (Nat × Notice) := []

namespace Simulation

/-- Writes a line into the journal. -/
def note (s : Simulation) (notice : Notice) : Simulation :=
  { s with journal := s.journal ++ [(s.now, notice)] }

/-- Moves the calls that reached handlers into the journal. -/
def noteCalls (s : Simulation) : Simulation :=
  let invoked := s.site.memory.invoked
  let site := { s.site with memory := { s.site.memory with invoked := [] } }
  invoked.foldl (fun s method ↦ s.note (.called method)) { s with site }

def call (c : Call) (s : Simulation) : CallResult × Simulation :=
  let (result, site) := LocalSite.transport.exchangeOne c s.site
  (result, noteCalls { s with site })

def lookUp (requests : List StringRequest) (s : Simulation) :
    Except RemoteError (List Text) × Simulation :=
  let (result, strings, site) :=
    (s.source.resolve requests).run LocalSite.transport s.strings s.site
  (result, noteCalls { s with strings, site })

def confirm (prompt : Prompt) (s : Simulation) : Bool × Simulation :=
  match s.answers with
  | none => (false, s)
  | some answers =>
    let (answer, answers) := answers.next
    (answer, { s with answers := some answers }.note (.asked prompt))

def report (e : RemoteError) (s : Simulation) : Simulation :=
  if s.answers.isSome then s.note (.failed e) else s

def surroundings : Surroundings Simulation where
  call := call
  strings := lookUp
  confirm := confirm
  report := report
  setClock now s := { s with now }

def takeJournal (s : Simulation) : List (Nat × Notice) × Simulation :=
  (s.journal, { s with journal := [] })

end Simulation
end SiteClient
