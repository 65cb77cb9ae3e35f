/-
# CxlMailbox.Proofs.Command.Opcode — the opcodes that reach the backend

A command is made with an opcode, 0 unless it is made as a raw command, and nothing changes it
later.

* `Operation.perform_sends`: an operation sends nothing, or it is a submission and sends the command
  as it was;
* `Operation.perform_opcode`: so every send has the opcode that the command was made with, and only
  a pass-through command has one;
* `sent_opcodes` says so of every way of making a command and everything done with it afterwards.

The reserved opcode is refused by the making of a raw command alone.  A pass-through command that is
made by its id has no other opcode, and is sent all the same: `reserved_opcode_sent`.
-/
import CxlMailbox.Proofs.Reply

namespace CxlMailbox

set_option autoImplicit false

variable {δ : Type}

/-- Every send so far has the opcode, which is 0 unless it was for the pass-through command. -/
def Session.SentWith (opcode : UInt16) (s : Session (Recorded δ)) : Prop :=
  ∀ device request verdict written, .send device request verdict written ∈ s.exchanges →
    request.rawOpcode = opcode ∧ (opcode ≠ 0 → request.id = CommandId.raw)

/-- Before anything is sent, every opcode is that of all sends. -/
theorem Session.Unsent.sentWith {s : Session (Recorded δ)} (unsent : s.Unsent) (opcode : UInt16) :
    s.SentWith opcode := by
  intro device request verdict written member
  cases unsent _ member

namespace Operation

/-- An operation adds no send but that of a submission, which sends the command as it was. -/
theorem perform_sends (backend : Backend δ) (op : Operation) (s : Session (Recorded δ))
    {device : DeviceInfo} {request : SendRequest} {verdict : Except Error Receipt} {written : Bytes}
    (member : .send device request verdict written ∈ (op.perform backend.recorded s).2.exchanges) :
    .send device request verdict written ∈ s.exchanges ∨
      op = .submit ∧ s.command.sendFault? = none ∧ request = s.command.request := by
  obtain ⟨new, made, kinds⟩ := op.perform_exchanges backend s
  rw [made, List.mem_append] at member
  rcases member with old | added
  · exact .inl old
  rcases kinds _ added with ⟨query, -⟩ | ⟨-, rfl, clear⟩
  · cases query
  refine .inr ⟨rfl, clear, ?_⟩
  simp only [perform, Effect.bind_pure_apply] at made
  rcases Session.submit_exchanges backend s with
    ⟨e, fault, -⟩ | ⟨-, state, log, verdict', written', ran⟩
  · rw [clear] at fault
    cases fault
  have one : (Session.submit backend.recorded s).2.exchanges =
      s.exchanges ++ [.send s.command.device s.command.request verdict' written'] := by
    rw [ran]
    cases verdict' <;> rfl
  rw [one, List.append_cancel_left_eq] at made
  rw [← made, List.mem_singleton] at added
  injection added

/-- An operation leaves the opcode of the command, and sends no other. -/
theorem perform_opcode (backend : Backend δ) (info : DeviceInfo) (opcode : UInt16)
    (op : Operation) :
    Effect.Keeps (fun s => s.command.Coherent info opcode ∧ s.SentWith opcode)
      (op.perform backend.recorded) := by
  intro s ⟨coherent, sent⟩
  refine ⟨coherent.step (op.perform_step backend.recorded s), ?_⟩
  intro device request verdict written member
  rcases op.perform_sends backend s member with old | ⟨-, -, rfl⟩
  · exact sent device request verdict written old
  · refine ⟨coherent.rawOpcode, fun nonzero => ?_⟩
    rw [← coherent.rawOpcode] at nonzero
    exact (coherent.raw_found nonzero).1

end Operation

namespace Origin

/-- A command is made without a send. -/
theorem make_unsent (backend : Backend δ) (origin : Origin) :
    Effect.Keeps Session.Unsent (origin.make backend.recorded) := by
  cases origin with
  | unvalidated => exact .pure ()
  | known id => exact Session.prepare_unsent backend id
  | raw opcode => exact Session.prepareRaw_unsent backend opcode

/-- The opcode that a command is made with is not the reserved one exactly if it is made raw. -/
theorem opcode_ne_zero_iff {backend : Backend δ} {origin : Origin} {info : DeviceInfo}
    {world : World δ} (made : (origin.make backend ⟨.unvalidated info, world⟩).1 = .ok ()) :
    origin.opcode ≠ 0 ↔ ∃ opcode, origin = .raw opcode := by
  cases origin with
  | unvalidated | known id => simp [opcode]
  | raw opcode => exact ⟨fun _ => ⟨opcode, rfl⟩, fun _ => raw_ne_zero made⟩

end Origin

/-- **What opcodes reach the backend**, over every backend, for every way of making a command and
everything done with it afterwards.  The making of a raw command refuses the reserved opcode and
asks nobody; no making sends.  After that every send has the opcode that the command was made with:
none unless its id is that of the pass-through command, and none exactly if the command was not made
as a raw one. -/
theorem sent_opcodes (backend : Backend δ) (info : DeviceInfo) (origin : Origin) (world : World δ)
    (ops : List Operation) :
    let made := origin.make backend.recorded (Session.recording ⟨.unvalidated info, world⟩)
    (origin = .raw 0 → made.1 = .error .reservedOpcode ∧ made.2.exchanges = []) ∧
    (∀ exchange ∈ made.2.exchanges, exchange.isSend = false) ∧
    (made.1 = .ok () → ∀ device request verdict written,
      .send device request verdict written ∈
        (Operation.performAll backend.recorded ops made.2).exchanges →
      request.rawOpcode = origin.opcode ∧
      (request.id ≠ CommandId.raw → request.rawOpcode = 0) ∧
      (request.rawOpcode ≠ 0 ↔ ∃ opcode, origin = .raw opcode)) := by
  intro made
  have unsent : made.2.Unsent := by
    refine origin.make_unsent backend _ ?_
    intro exchange member
    cases member
  refine ⟨?_, unsent, fun done device request verdict written member => ?_⟩
  · rintro rfl
    exact ⟨rfl, rfl⟩
  · have start : made.2.command.Coherent info origin.opcode ∧ made.2.SentWith origin.opcode :=
      ⟨origin.make_coherent done, unsent.sentWith _⟩
    obtain ⟨-, sent⟩ :=
      Operation.performAll_keeps (Operation.perform_opcode backend info origin.opcode) ops start
    obtain ⟨same, only⟩ := sent device request verdict written member
    refine ⟨same, fun other => ?_, ?_⟩
    · by_cases zero : request.rawOpcode = 0
      · exact zero
      · rw [same] at zero
        exact absurd (only zero) other
    · rw [same]
      exact Origin.opcode_ne_zero_iff done

/-- A raw command is sent with its opcode. -/
theorem boundless_opcode_sent :
    let info : DeviceInfo := { payloadMax := 16 }
    let made := (Origin.raw 0x0300).make Script.backend.recorded
      (Session.recording ⟨.unvalidated info, .boundless⟩)
    ∃ request verdict written, .send info request verdict written ∈
        (Operation.performAll Script.backend.recorded [.submit] made.2).exchanges ∧
      request.id = CommandId.raw ∧ request.rawOpcode = 0x0300 := by
  intro info made
  have sent := (sent_opcodes Script.backend info (.raw 0x0300) .boundless [.submit]).2.2 rfl
  have member : ∃ request verdict written, .send info request verdict written ∈
      (Operation.performAll Script.backend.recorded [.submit] made.2).exchanges ∧
      request.id = CommandId.raw := ⟨_, _, _, .tail _ (.tail _ (.head _)), rfl⟩
  obtain ⟨request, verdict, written, member, id⟩ := member
  exact ⟨request, verdict, written, member, id, (sent info request verdict written member).1⟩

/-- The reserved opcode reaches the backend with a pass-through command that is made by its id, and
with one that is looked up step by step. -/
theorem reserved_opcode_sent :
    let info : DeviceInfo := { payloadMax := 16 }
    let start : Session (Recorded Script) := Session.recording ⟨.unvalidated info, .boundless⟩
    let made := (Origin.known CommandId.raw).make Script.backend.recorded start
    made.1 = .ok () ∧
    (∃ request verdict written, .send info request verdict written ∈
        (Operation.performAll Script.backend.recorded [.submit] made.2).exchanges ∧
      request.id = CommandId.raw ∧ request.rawOpcode = 0) ∧
    ∃ request verdict written, .send info request verdict written ∈
        (Operation.performAll Script.backend.recorded
          [.query, .validate CommandId.raw, .submit] start).exchanges ∧
      request.id = CommandId.raw ∧ request.rawOpcode = 0 :=
  ⟨rfl, ⟨_, _, _, .tail _ (.tail _ (.head _)), rfl, rfl⟩,
    ⟨_, _, _, .tail _ (.tail _ (.head _)), rfl, rfl⟩⟩

end CxlMailbox
