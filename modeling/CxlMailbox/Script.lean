/-
# CxlMailbox.Script — a backend that answers as it is told

A `Script` holds prepared answers and a record of every call. Catalog queries are served from a
fixed catalog, if there is one, and otherwise take the next prepared answer, as sends do; when
none is left, the call fails.
-/
import CxlMailbox.Backend

namespace CxlMailbox

set_option autoImplicit false

/-- A prepared answer to a catalog query. What is absent stays as the caller left it. -/
structure QueryStep where
  count? : Option UInt32 := none
  entries : List CatalogEntry := []
  deriving DecidableEq, Repr

/-- A prepared answer to a send. Without a size of its own it reports as many bytes as were
copied, and without data it leaves the size as it was. -/
structure SendStep where
  data? : Option Bytes := none
  outSize? : Option UInt32 := none
  returnWord : UInt32 := 0
  deriving DecidableEq, Repr

/-- A call that a backend got, with what it was given. -/
inductive Call where
  | discover
  | query (device : UInt32) (count : UInt32) (capacity : Nat)
  | send (device : UInt32) (request : SendRequest)
  deriving DecidableEq, Repr

structure Script where
  devices : List DeviceInfo := []
  catalog? : Option (List CatalogEntry) := none
  queries : List (Except Error QueryStep) := []
  sends : List (Except Error SendStep) := []
  /-- Every call so far, in order. -/
  calls : Array Call := #[]

namespace Script

/-- The failure of a call for which nothing is prepared. -/
def exhausted : Error := .backend "script exhausted"

/-- The script after one more call. -/
def recorded (script : Script) (call : Call) : Script :=
  { script with calls := script.calls.push call }

/-- Answers a catalog query from a catalog. -/
def serve (script : Script) (catalog : List CatalogEntry) (buffer : QueryBuffer) :
    QueryReply Script :=
  if buffer.requested = 0 then
    { verdict := .ok (UInt32.ofNat catalog.length), device := script }
  else { verdict := .ok buffer.count, written := catalog, device := script }

/-- Answers a catalog query as prepared. -/
def answerQuery (script : Script) (buffer : QueryBuffer) : QueryReply Script :=
  match script.catalog?, script.queries with
  | some catalog, _ => script.serve catalog buffer
  | none, [] => { verdict := .error exhausted, device := script }
  | none, .error e :: rest => { verdict := .error e, device := { script with queries := rest } }
  | none, .ok step :: rest =>
    { verdict := .ok (step.count?.getD buffer.count)
      written := step.entries
      device := { script with queries := rest } }

/-- Answers a send as prepared. -/
def answerSend (script : Script) (request : SendRequest) : SendReply Script :=
  match script.sends with
  | [] => { verdict := .error exhausted, device := script }
  | .error e :: rest => { verdict := .error e, device := { script with sends := rest } }
  | .ok step :: rest =>
    let copied := step.data?.map fun data => data.take request.output.length
    let outSize := step.outSize?.getD
      ((copied.map fun bytes => UInt32.ofNat bytes.length).getD request.outSize)
    { verdict := .ok ⟨outSize, step.returnWord⟩
      written := copied.getD []
      device := { script with sends := rest } }

/-- The script as a backend. -/
def backend : Backend Script where
  discover _ script := { found := script.devices, device := script.recorded .discover }
  query _ info buffer script :=
    (script.recorded (.query info.id buffer.count buffer.capacity)).answerQuery buffer
  send _ info request script := (script.recorded (.send info.id request)).answerSend request

end Script

end CxlMailbox
