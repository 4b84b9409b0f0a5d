import SiteClient.Json.Printer
import SiteClient.Json.Record
/-!
# Messages between client and site

Calls travel in batches. A batch is an array of requests, each a call with its place in the batch;
the reply is an array of responses, matched to the requests by their place in the array. Only an
explicit `false` in its error field makes a response a success.
-/

namespace SiteClient

/-- A call of a function of the site. -/
structure Call where
  method : Text
  args : Fields := []
  deriving DecidableEq

/-- A call as it stands in a batch. -/
structure CallRequest where
  index : UInt64
  method : Text
  args : Fields
  deriving DecidableEq

/-- What a site says about a call that failed. -/
structure RemoteException where
  message : Text := []
  errorCode : Option Text := none
  link : Option Text := none
  moreInfoUrl : Option Text := none
  debugInfo : Option Text := none
  deriving DecidableEq, Repr

/-- What a site answers to one call. -/
structure CallResponse where
  error : Bool
  data : Json
  exception : Option RemoteException
  deriving DecidableEq

namespace Call

/-- The call with one more argument, or another value for one it has. -/
def arg (call : Call) (name : Text) (v : Json) : Call :=
  { call with args := call.args.insert name v }

def atIndex (call : Call) (index : UInt64) : CallRequest :=
  ⟨index, call.method, call.args⟩

/-- Calls as a batch, at places from zero on. -/
def batch (calls : List Call) : List CallRequest :=
  calls.mapIdx fun i call ↦ call.atIndex i.toUInt64

end Call

namespace RemoteException

/-- The message, with the error code behind it in parentheses if there is one. -/
def display (e : RemoteException) : Text :=
  match e.errorCode with
  | none => e.message
  | some code => e.message ++ " (".toList ++ code ++ [')']

end RemoteException

namespace CallResponse

def success (data : Json) : CallResponse := ⟨false, data, none⟩

def failure (e : RemoteException) : CallResponse := ⟨true, .null, some e⟩

end CallResponse

/-! ## Writing -/

def Json.ofText? : Option Text → Json
  | none => .null
  | some t => .string t

namespace CallRequest

def toJson (r : CallRequest) : Json :=
  .object [
    ("index".toList, .number (.ofUInt64 r.index)),
    ("methodname".toList, .string r.method),
    ("args".toList, .object r.args)]

end CallRequest

namespace RemoteException

def toJson (e : RemoteException) : Json :=
  .object [
    ("message".toList, .string e.message),
    ("errorcode".toList, .ofText? e.errorCode),
    ("link".toList, .ofText? e.link),
    ("moreinfourl".toList, .ofText? e.moreInfoUrl),
    ("debuginfo".toList, .ofText? e.debugInfo)]

end RemoteException

namespace CallResponse

def toJson (r : CallResponse) : Json :=
  .object [
    ("error".toList, .bool r.error),
    ("data".toList, r.data),
    ("exception".toList, (r.exception.map RemoteException.toJson).getD .null)]

end CallResponse

/-! ## Reading -/

namespace Call

/-- The fields of a call that have been met. -/
structure Partial where
  method : Option Text := none
  args : Option Fields := none

def record : Record Partial Call where
  name := "RemoteCall".toList
  empty := {}
  fields := [
    .of "methodname" Partial.method (fun p x ↦ { p with method := some x }) .text,
    .of "args" Partial.args (fun p x ↦ { p with args := some x }) .fields]
  finish p := do
    let method ← Record.require 0 "methodname" p.method
    let args ← Record.require 1 "args" p.args
    return { method, args }

end Call

namespace CallRequest

/-- The fields of a request that have been met. -/
structure Partial where
  index : Option UInt64 := none
  method : Option Text := none
  args : Option Fields := none

def record : Record Partial CallRequest where
  name := "CallRequest".toList
  empty := {}
  fields := [
    .of "index" Partial.index (fun p x ↦ { p with index := some x }) (.uint64 "usize".toList),
    .of "methodname" Partial.method (fun p x ↦ { p with method := some x }) .text,
    .of "args" Partial.args (fun p x ↦ { p with args := some x }) .fields]
  finish p := do
    let index ← Record.require 0 "index" p.index
    let method ← Record.require 1 "methodname" p.method
    let args ← Record.require 2 "args" p.args
    return { index, method, args }

end CallRequest

namespace RemoteException

/-- The fields of an exception that have been met. -/
structure Partial where
  message : Option Text := none
  errorCode : Option (Option Text) := none
  link : Option (Option Text) := none
  moreInfoUrl : Option (Option Text) := none
  debugInfo : Option (Option Text) := none

def record : Record Partial RemoteException where
  name := "RemoteException".toList
  empty := {}
  fields := [
    .of "message" Partial.message (fun p x ↦ { p with message := some x }) .text,
    .of "errorcode" Partial.errorCode (fun p x ↦ { p with errorCode := some x }) (.optional .text),
    .of "link" Partial.link (fun p x ↦ { p with link := some x }) (.optional .text),
    .of "moreinfourl" Partial.moreInfoUrl (fun p x ↦ { p with moreInfoUrl := some x })
      (.optional .text),
    .of "debuginfo" Partial.debugInfo (fun p x ↦ { p with debugInfo := some x }) (.optional .text)]
  finish p := .ok {
    message := p.message.getD []
    errorCode := p.errorCode.join
    link := p.link.join
    moreInfoUrl := p.moreInfoUrl.join
    debugInfo := p.debugInfo.join }

end RemoteException

namespace CallResponse

/-- The fields of a response that have been met. -/
structure Partial where
  error : Option Bool := none
  data : Option Json := none
  exception : Option (Option RemoteException) := none

def record : Record Partial CallResponse where
  name := "CallResponse".toList
  empty := {}
  fields := [
    .of "error" Partial.error (fun p x ↦ { p with error := some x }) .bool,
    .of "data" Partial.data (fun p x ↦ { p with data := some x }) .json,
    .of "exception" Partial.exception (fun p x ↦ { p with exception := some x })
      (.optional RemoteException.record.decoder)]
  finish p := .ok {
    error := p.error.getD true
    data := p.data.getD .null
    exception := p.exception.join }

end CallResponse
end SiteClient
