import SiteClient.Remote.LocalSite
/-!
# Scripted handlers

A script says how a handler answers: always the same, with one of its arguments, differently from
one invocation to the next, or from a table of templates or strings. A script that has been invoked
goes on as another script, so handlers with a memory need no other state.
-/

namespace SiteClient

/-- How a handler answers. -/
inductive Script where
  | reply (v : Json)
  | refuse (e : RemoteException)
  /-- Answers with an argument. -/
  | echo (name : Text)
  /-- Each invocation acts as the next script; the last one repeats. -/
  | sequence (scripts : List Script)
  /-- Answers with a template of a table. -/
  | templates (table : Fields)
  /-- Answers with strings of a table. -/
  | strings (table : Fields)

namespace Script

def entryName (component name : Text) : Text :=
  component ++ '/' :: name

/-- A text argument; empty if it is missing. -/
def textArg (args : Fields) (name : String) : Text :=
  ((args.get? name.toList).bind Json.asText?).getD []

def template (table args : Fields) : Except RemoteException Json :=
  let name := entryName (textArg args "component") (textArg args "template")
  match table.get? name with
  | some v => .ok v
  | none => .error {
      message := "Template ".toList ++ name ++ " not found".toList
      errorCode := some "filenotfound".toList }

/-- The string that an entry of the argument `strings` names. -/
def stringEntry (table : Fields) (wanted : Json) : Json :=
  let text (name : String) := ((wanted.field? name.toList).bind Json.asText?).getD []
  let name := entryName (text "component") (text "stringid")
  (table.get? name).getD (.string ("[[".toList ++ name ++ "]]".toList))

def stringList (table args : Fields) : Json :=
  match args.get? "strings".toList with
  | some (.array wanted) => .array (wanted.map (stringEntry table))
  | _ => .array []

/-- Answers one call; also how to go on. -/
def invoke (args : Fields) : Script → Except RemoteException Json × Script
  | .reply v => (.ok v, .reply v)
  | .refuse e => (.error e, .refuse e)
  | .echo name => (.ok ((args.get? name).getD .null), .echo name)
  | .sequence [] => (.ok .null, .sequence [])
  | .sequence [last] =>
    let (answer, last) := invoke args last
    (answer, .sequence [last])
  | .sequence (next :: more) =>
    let (answer, _) := invoke args next
    (answer, .sequence more)
  | .templates table => (template table args, .templates table)
  | .strings table => (.ok (stringList table args), .strings table)

end Script

/-- The scripts of handlers by method, and the methods invoked so far, oldest first. -/
structure Repertoire where
  scripts : List (Text × Script) := []
  invoked : List Text := []

namespace Repertoire

/-- The handler of a method that has a script. -/
def handler (method : Text) : Handler Repertoire := fun args memory ↦
  let memory := { memory with invoked := memory.invoked ++ [method] }
  match memory.scripts.lookup method with
  | none => (.ok .null, memory)
  | some script =>
    let (answer, next) := script.invoke args
    (answer, { memory with scripts := memory.scripts.map fun s ↦
        if s.1 = method then (method, next) else s })

end Repertoire

/-- Registers the script of a method, in the place of an earlier one. -/
def LocalSite.registerScript (site : LocalSite Repertoire) (method : Text) (script : Script) :
    LocalSite Repertoire :=
  let site := site.register method (Repertoire.handler method)
  let others := site.memory.scripts.filter fun s ↦ s.1 ≠ method
  { site with memory := { site.memory with scripts := (method, script) :: others } }

end SiteClient
