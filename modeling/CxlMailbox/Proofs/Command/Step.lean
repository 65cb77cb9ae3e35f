/-
# CxlMailbox.Proofs.Command.Step — what an operation can do to a command

A backend may answer anything, so from the command's side a query brings any catalog, and a send
leaves any bytes in the output and any receipt.  `Command.Step` lists what an operation can make
of a command under every backend, and `Operation.perform_step` says that the list is complete: an
invariant of commands is proved over the list, one case per step.

`Reachable` are the commands of all histories: made in one of the three ways, then changed by any
operations, the backend and the files in any state before each of them.
-/
import CxlMailbox.Proofs.Session

namespace CxlMailbox

set_option autoImplicit false

variable {δ : Type}

/-- What an operation can make of a command, whatever the backend answers. -/
inductive Command.Step (c : Command) : Command → Prop
  | same : Step c c
  /-- A query brought a catalog. -/
  | fetched (unsettled : c.queryVerdict? = none) (catalog : List CatalogEntry) :
      Step c (c.receiveCatalog catalog)
  | validated (id : UInt32) : Step c (c.validate id).2
  | allocated (id : UInt32) : Step c (c.allocSend id).2
  | inputSet (buffer? : Option Bytes) (size : Int) : Step c (c.setInput buffer? size).2
  | outputSet (buffer? : Option Bytes) (size : Int) : Step c (c.setOutput buffer? size).2
  | inputWritten (data : Bytes) : Step c (c.writeInput data).2
  /-- A send failed, after the backend may have written to the output. -/
  | undelivered (clear : c.sendFault? = none) (content : Bytes) : Step c (c.withOutput content)
  /-- A send reached the device. -/
  | delivered (clear : c.sendFault? = none) (content : Bytes) (receipt : Receipt) :
      Step c ((c.withOutput content).completeSend receipt)

namespace Session

/-- A query leaves the command as it was or brings it a catalog. -/
theorem query_ends (backend : Backend δ) (s : Session δ) :
    (query backend s).2.command = s.command ∨
      s.command.queryVerdict? = none ∧
        ∃ catalog, (query backend s).2.command = s.command.receiveCatalog catalog := by
  rcases settled : s.command.queryVerdict? with _ | verdict
  · rcases query_cases backend settled with
      ⟨e, log, -, ran⟩ | ⟨count, -, ⟨e, log, -, ran⟩ | ⟨header, log, -, ran⟩⟩ <;> rw [ran]
    · exact .inl rfl
    · exact .inl rfl
    · exact .inr ⟨rfl, _, rfl⟩
  · rw [query_settled settled]
    exact .inl rfl

theorem query_step (backend : Backend δ) (s : Session δ) :
    s.command.Step (query backend s).2.command := by
  rcases query_ends backend s with same | ⟨unsettled, catalog, fetched⟩
  · rw [same]
    exact .same
  · rw [fetched]
    exact .fetched unsettled catalog

theorem query_eq (backend : Backend δ) (s : Session δ) :
    ∃ catalog, (query backend s).2.command = { s.command with catalog } := by
  rcases query_ends backend s with same | ⟨-, catalog, fetched⟩
  · exact ⟨s.command.catalog, same⟩
  · exact ⟨some catalog, fetched⟩

theorem validate_step (id : UInt32) (s : Session δ) :
    s.command.Step (validate id s).2.command := by
  obtain ⟨log, ran⟩ := validate_apply id s
  rw [ran]
  exact .validated id

theorem submit_step (backend : Backend δ) (s : Session δ) :
    s.command.Step (submit backend s).2.command := by
  rcases fault : s.command.sendFault? with _ | e
  · obtain ⟨log, ran⟩ := submit_sends backend fault
    rw [ran]
    generalize backend.send s.world.files s.command.device s.command.request s.world.device = reply
    rcases verdict : reply.verdict with e | receipt <;> simp only [verdict]
    · exact .undelivered fault _
    · exact .delivered fault _ receipt
  · rw [submit_refused fault]
    exact .same

end Session

/-- Every operation is a step of the command. -/
theorem Operation.perform_step (backend : Backend δ) (op : Operation) (s : Session δ) :
    s.command.Step (op.perform backend s).2.command := by
  cases op <;> simp only [perform, Effect.bind_pure_apply]
  case query => exact Session.query_step backend s
  case validate id => exact Session.validate_step id s
  case allocSend id => exact .allocated id
  case setInput buffer? size => exact .inputSet buffer? size
  case setOutput buffer? size => exact .outputSet buffer? size
  case writeInput data => exact .inputWritten data
  case submit => exact Session.submit_step backend s

/-- What every operation keeps, operations one after the other keep. -/
theorem Operation.performAll_keeps {backend : Backend δ} {P : Session δ → Prop}
    (keeps : ∀ op : Operation, Effect.Keeps P (op.perform backend)) (ops : List Operation)
    {s : Session δ} (holds : P s) : P (performAll backend ops s) := by
  induction ops generalizing s with
  | nil => exact holds
  | cons op ops ih => exact ih (keeps op s holds)

/-! ## Histories -/

/-- The way a command is made. -/
inductive Origin where
  /-- With nothing settled. -/
  | unvalidated
  /-- For an id, queried, validated and allocated. -/
  | known (id : UInt32)
  /-- For a mailbox opcode. -/
  | raw (opcode : UInt16)
  deriving DecidableEq, Repr

namespace Origin

/-- Makes the command out of an unvalidated one. -/
def make (backend : Backend δ) : Origin → Drive δ Unit
  | unvalidated => pure ()
  | known id => Session.prepare backend id
  | raw opcode => Session.prepareRaw backend opcode

/-- The mailbox opcode the command is made with. -/
def opcode : Origin → UInt16
  | raw opcode => opcode
  | _ => 0

end Origin

/-- The commands of a device that histories over a backend lead to.  Other commands may be at work
in between, so every operation finds a world of its own. -/
inductive Reachable (backend : Backend δ) (info : DeviceInfo) (origin : Origin) : Command → Prop
  | made (world : World δ) :
      (origin.make backend ⟨.unvalidated info, world⟩).1 = .ok () →
      Reachable backend info origin (origin.make backend ⟨.unvalidated info, world⟩).2.command
  | performed {c : Command} (op : Operation) (world : World δ) :
      Reachable backend info origin c →
      Reachable backend info origin (op.perform backend ⟨c, world⟩).2.command

/-- What a command is made with, and every step keeps, it has after every history. -/
theorem Reachable.keeps {backend : Backend δ} {info : DeviceInfo} {origin : Origin}
    {P : Command → Prop}
    (begins : ∀ world : World δ, (origin.make backend ⟨.unvalidated info, world⟩).1 = .ok () →
      P (origin.make backend ⟨.unvalidated info, world⟩).2.command)
    (keeps : ∀ c c', c.Step c' → P c → P c') {c : Command}
    (reach : Reachable backend info origin c) : P c := by
  induction reach with
  | made world made => exact begins world made
  | performed op world _ holds => exact keeps _ _ (op.perform_step backend ⟨_, world⟩) holds

/-- Operations one after the other in one world are a history. -/
theorem Reachable.performAll {backend : Backend δ} {info : DeviceInfo} {origin : Origin}
    {s : Session δ} (reach : Reachable backend info origin s.command) (ops : List Operation) :
    Reachable backend info origin (Operation.performAll backend ops s).command :=
  Operation.performAll_keeps (P := fun t => Reachable backend info origin t.command)
    (fun op t reach => .performed op t.world reach) ops reach

end CxlMailbox
