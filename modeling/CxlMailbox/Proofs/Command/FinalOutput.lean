/-
# CxlMailbox.Proofs.Command.FinalOutput — whose bytes a final output has

A final output is there only for a command whose last send that came back (`LastDelivered`)
returned the word 0.  Status and output are fields of their own, though: a send sets both, but
later operations may change the output and leave the status.  `Undisturbed` are the operations
that do not:

* `Operation.perform_delivery`: an operation leaves the reply of a send that came back, or it
  leaves the status, and the output as well if it spares it;
* `performAll_delivery`: so after every history the status is that of the last delivery, and the
  output too, provided it was not disturbed since;
* `final_output_delivered` says so of what the command gives out as final, and
  `replaced_output_final` is a history without the proviso: a payload that was given to a completed
  command passes for its output (`Command.finalResult_setOutput`).
-/
import CxlMailbox.Proofs.Command.Allocation
import CxlMailbox.Proofs.Reply
import Mathlib.Data.List.Induction

namespace CxlMailbox

set_option autoImplicit false

variable {δ : Type}

/-! ## Deliveries -/

/-- A send that came back: what was asked, what was returned and what was written. -/
structure Delivery where
  device : DeviceInfo
  request : SendRequest
  receipt : Receipt
  written : Bytes

namespace Delivery

def exchange (delivery : Delivery) : Exchange :=
  .send delivery.device delivery.request (.ok delivery.receipt) delivery.written

/-- The bytes of the buffer, as the send left it, that were reported. -/
def output (delivery : Delivery) : Bytes :=
  delivery.request.reply delivery.receipt delivery.written

/-- The status that was returned. -/
def status (delivery : Delivery) : Status := .ofWord delivery.receipt.returnWord

end Delivery

/-- Whether it is a send that came back. -/
def Exchange.isDelivery : Exchange → Bool
  | .send _ _ (.ok _) _ => true
  | _ => false

/-- Among the exchanges, no send came back. -/
def Undelivered (exchanges : List Exchange) : Prop :=
  ∀ exchange ∈ exchanges, exchange.isDelivery = false

theorem Undelivered.append {old new : List Exchange} (first : Undelivered old)
    (rest : Undelivered new) : Undelivered (old ++ new) := by
  intro exchange member
  rcases List.mem_append.mp member with earlier | later
  · exact first exchange earlier
  · exact rest exchange later

/-! ## Operations that spare the output -/

/-- The operation gives the command no other output, and it does not fail to send after the backend
has written to the output. -/
def Operation.Spares (backend : Backend δ) (s : Session δ) (op : Operation) : Prop :=
  match op with
  | allocSend id => ∃ e, (s.command.allocSend id).1 = .error e
  | setOutput buffer? size => ∃ e, (s.command.setOutput buffer? size).1 = .error e
  | submit => s.command.sendFault? = none →
      let reply := backend.send s.world.files s.command.device s.command.request s.world.device
      ∀ e, reply.verdict = .error e → reply.written = []
  | _ => True

/-- One after the other, the operations spare the output. -/
def Undisturbed (backend : Backend δ) : Session δ → List Operation → Prop
  | _, [] => True
  | s, op :: ops => op.Spares backend s ∧ Undisturbed backend (op.perform backend s).2 ops

theorem undisturbed_concat {backend : Backend δ} {s : Session δ} {ops : List Operation}
    {op : Operation} :
    Undisturbed backend s (ops ++ [op]) ↔
      Undisturbed backend s ops ∧ op.Spares backend (Operation.performAll backend ops s) := by
  induction ops generalizing s with
  | nil => simp [Undisturbed, Operation.performAll]
  | cons first rest ih =>
      simp only [List.cons_append, Undisturbed, ih, and_assoc]
      rfl

/-! ## One operation -/

theorem Payload.withBytes_bytes (payload : Payload) : payload.withBytes payload.bytes = payload := by
  cases payload <;> simp [withBytes, bytes, overlay_of_length_eq]

/-- What an operation makes of a session, as far as deliveries go. -/
inductive Delivers (backend : Backend δ) (op : Operation) (s t : Session (Recorded δ)) : Prop
  /-- A send came back, and the command has its status and its output. -/
  | delivered (delivery : Delivery) (sends : op = .submit)
      (made : t.exchanges = s.exchanges ++ [delivery.exchange])
      (status : t.command.status = some delivery.status)
      (result : t.command.result = delivery.output)
  /-- None did, and the status stayed; so did the output, if it was spared. -/
  | kept (new : List Exchange) (undelivered : Undelivered new)
      (made : t.exchanges = s.exchanges ++ new)
      (status : t.command.status = s.command.status)
      (result : op.Spares backend.recorded s → t.command.result = s.command.result)

namespace Session

variable (backend : Backend δ) (s : Session (Recorded δ))

/-- An operation that asks nobody, and leaves the status, delivers nothing. -/
theorem silent_delivery {op : Operation} {t : Session (Recorded δ)}
    (silent : t.exchanges = s.exchanges) (status : t.command.status = s.command.status)
    (result : op.Spares backend.recorded s → t.command.result = s.command.result) :
    Delivers backend op s t :=
  .kept [] (by simp [Undelivered]) (by simpa using silent) status result

theorem query_delivery : Delivers backend .query s (query backend.recorded s).2 := by
  rcases settled : s.command.queryVerdict? with _ | verdict
  · have command : (query backend.recorded s).2.command.status = s.command.status ∧
        (query backend.recorded s).2.command.result = s.command.result := by
      rcases query_cases backend.recorded settled with
        ⟨e, log, -, ran⟩ | ⟨count, -, ⟨e, log, -, ran⟩ | ⟨header, log, -, ran⟩⟩ <;>
        rw [ran] <;> exact ⟨rfl, rfl⟩
    rcases query_exchanges backend settled with
      ⟨e, written, -, made⟩ | ⟨count, written, verdict, written', -, made⟩ <;>
      exact .kept _ (by simp [Undelivered, Exchange.isDelivery]) made command.1
        fun _ => command.2
  · rw [query_settled settled]
    exact silent_delivery backend s rfl rfl fun _ => rfl

theorem submit_delivery : Delivers backend .submit s (submit backend.recorded s).2 := by
  rcases fault : s.command.sendFault? with _ | e
  case some =>
    rw [submit_refused fault]
    exact silent_delivery backend s rfl rfl fun _ => rfl
  case none =>
    obtain ⟨log, ran⟩ := submit_sends backend.recorded fault
    -- What is recorded and what is spared, both in terms of the one reply.
    have spared (spares : Operation.submit.Spares backend.recorded s) := spares fault
    have made : (backend.recorded.send s.world.files s.command.device s.command.request
        s.world.device).device.exchanges = s.exchanges ++ [.send s.command.device s.command.request
          (backend.recorded.send s.world.files s.command.device s.command.request
            s.world.device).verdict
          (backend.recorded.send s.world.files s.command.device s.command.request
            s.world.device).written] := rfl
    generalize backend.recorded.send s.world.files s.command.device s.command.request
      s.world.device = reply at ran spared made
    rcases verdict : reply.verdict with e | receipt <;>
      simp only [verdict] at ran made <;> rw [ran]
    · refine .kept _ (by simp [Undelivered, Exchange.isDelivery]) made rfl fun spares => ?_
      rw [withCommand_command, spared spares e verdict, overlay_nil]
      simp only [Command.withOutput, Payload.withBytes_bytes]
    · exact .delivered ⟨s.command.device, s.command.request, receipt, reply.written⟩ rfl made rfl
        (s.command.received_result receipt reply.written)

end Session

/-- An operation leaves a delivery, or what was there. -/
theorem Operation.perform_delivery (backend : Backend δ) (op : Operation)
    (s : Session (Recorded δ)) : Delivers backend op s (op.perform backend.recorded s).2 := by
  cases op <;> simp only [perform, Effect.bind_pure_apply]
  case query => exact Session.query_delivery backend s
  case validate id =>
    obtain ⟨log, ran⟩ := Session.validate_apply id s
    obtain ⟨_, _, _, same⟩ := s.command.validate_eq id
    rw [ran, same]
    exact Session.silent_delivery backend s rfl rfl fun _ => rfl
  case allocSend id =>
    obtain ⟨_, _, _, same⟩ := s.command.allocSend_eq id
    rw [Session.allocSend_apply]
    refine Session.silent_delivery backend s rfl (by rw [Session.withCommand_command, same]) ?_
    rintro ⟨e, refused⟩
    obtain ⟨_, kept⟩ := s.command.allocSend_error refused
    rw [Session.withCommand_command, kept]
    rfl
  case setInput buffer? size =>
    obtain ⟨_, same⟩ := s.command.setInput_eq buffer? size
    rw [Session.setInput_apply, same]
    exact Session.silent_delivery backend s rfl rfl fun _ => rfl
  case setOutput buffer? size =>
    obtain ⟨_, _, same⟩ := s.command.setOutput_eq buffer? size
    rw [Session.setOutput_apply]
    refine Session.silent_delivery backend s rfl (by rw [Session.withCommand_command, same]) ?_
    rintro ⟨e, refused⟩
    rw [Session.withCommand_command, s.command.setOutput_error refused]
  case writeInput data =>
    obtain ⟨_, same⟩ := s.command.writeInput_eq data
    rw [Session.writeInput_apply, same]
    exact Session.silent_delivery backend s rfl rfl fun _ => rfl
  case submit => exact Session.submit_delivery backend s

/-! ## Histories -/

theorem Operation.performAll_append (backend : Backend δ) (ops ops' : List Operation)
    (s : Session δ) :
    performAll backend (ops ++ ops') s = performAll backend ops' (performAll backend ops s) :=
  List.foldl_append

/-- The submission after the operations `before` has brought the delivery, and none of the
operations `after` it has brought another. -/
structure LastDelivered (backend : Backend δ) (start : Session (Recorded δ))
    (before after : List Operation) (delivery : Delivery) : Prop where
  sent : (Operation.performAll backend.recorded (before ++ [.submit]) start).exchanges =
    (Operation.performAll backend.recorded before start).exchanges ++ [delivery.exchange]
  since : ∃ later, Undelivered later ∧
    (Operation.performAll backend.recorded (before ++ .submit :: after) start).exchanges =
      (Operation.performAll backend.recorded (before ++ [.submit]) start).exchanges ++ later

/-- A command without a status, to which nothing was delivered, goes on so, or it has the status of
the last delivery, and its output too, unless an operation since has disturbed it. -/
theorem performAll_delivery (backend : Backend δ) {start : Session (Recorded δ)}
    (nothing : Undelivered start.exchanges) (unsent : start.command.status = none)
    (ops : List Operation) :
    let s := Operation.performAll backend.recorded ops start
    (Undelivered s.exchanges ∧ s.command.status = none) ∨
      ∃ before after delivery, ops = before ++ .submit :: after ∧
        LastDelivered backend start before after delivery ∧
        s.command.status = some delivery.status ∧
        (Undisturbed backend.recorded
            (Operation.performAll backend.recorded (before ++ [.submit]) start) after →
          s.command.result = delivery.output) := by
  -- From the end: the last operation brings a delivery itself, or it comes after the last one.
  induction ops using List.reverseRecOn with
  | nil => exact .inl ⟨nothing, unsent⟩
  | append_singleton ops op ih =>
      have last : Operation.performAll backend.recorded (ops ++ [op]) start =
          (op.perform backend.recorded (Operation.performAll backend.recorded ops start)).2 :=
        Operation.performAll_append ..
      have step := op.perform_delivery backend (Operation.performAll backend.recorded ops start)
      rw [← last] at step
      cases step with
      | delivered delivery sends made status result =>
          subst sends
          refine .inr ⟨ops, [], delivery, rfl, ⟨made, [], by simp [Undelivered], ?_⟩, status,
            fun _ => result⟩
          rw [List.append_nil]
      | kept new undelivered made status result =>
          rcases ih with ⟨none_, unsent⟩ | ⟨before, after, delivery, split, came, held, output⟩
          · refine .inl ⟨?_, status.trans unsent⟩
            rw [made]
            exact none_.append undelivered
          · obtain ⟨later, silent, grown⟩ := came.since
            have split' : ops ++ [op] = before ++ .submit :: (after ++ [op]) := by
              rw [split, List.append_assoc, List.cons_append]
            refine .inr ⟨before, after ++ [op], delivery, split', ⟨came.sent, later ++ new,
              silent.append undelivered, ?_⟩, status.trans held, fun undisturbed => ?_⟩
            · rw [← split', made, split, grown, List.append_assoc]
            · obtain ⟨earlier, spares⟩ := undisturbed_concat.mp undisturbed
              rw [← Operation.performAll_append, List.append_assoc, List.singleton_append,
                ← split] at spares
              exact (result spares).trans (output earlier)

/-! ## Final outputs -/

/-- No send came back, and the command has no status. -/
def Session.Fresh (s : Session (Recorded δ)) : Prop :=
  Undelivered s.exchanges ∧ s.command.status = none

theorem Delivers.fresh {backend : Backend δ} {op : Operation} {s t : Session (Recorded δ)}
    (step : Delivers backend op s t) (silent : op ≠ .submit) (fresh : s.Fresh) : t.Fresh := by
  cases step with
  | delivered _ sends => exact absurd sends silent
  | kept new undelivered made status =>
      refine ⟨?_, status.trans fresh.2⟩
      rw [made]
      exact fresh.1.append undelivered

theorem Session.prepare_fresh (backend : Backend δ) (id : UInt32) :
    Effect.Keeps Fresh (prepare backend.recorded id) := by
  have keeps (op : Operation) (silent : op ≠ .submit) :
      Effect.Keeps Fresh (op.perform backend.recorded) :=
    fun s fresh => (op.perform_delivery backend s).fresh silent fresh
  have queries := keeps .query (by simp)
  have validates := keeps (.validate id) (by simp)
  have allocates := keeps (.allocSend id) (by simp)
  simp only [Effect.Keeps, Operation.perform, Effect.bind_pure_apply] at queries validates allocates
  exact .bind queries fun _ => .bind validates fun _ => allocates

/-- A command is made without a send. -/
theorem Origin.make_fresh (backend : Backend δ) (origin : Origin) (info : DeviceInfo)
    (world : World δ) :
    (origin.make backend.recorded ⟨.unvalidated info, world.recording⟩).2.Fresh := by
  have start : Session.Fresh ⟨.unvalidated info, world.recording⟩ := by
    refine ⟨?_, rfl⟩
    intro exchange member
    cases member
  cases origin with
  | unvalidated => exact start
  | known id => exact Session.prepare_fresh backend id _ start
  | raw opcode =>
      exact Session.prepareRaw_keeps (Session.prepare_fresh backend _) (fun _ _ fresh => fresh)
        opcode _ start

namespace Command

/-- The command gives out the bytes as final, whichever way it is asked. -/
def GivesOut (c : Command) (bytes : Bytes) : Prop :=
  (∃ id, c.outputFor id = .ok bytes) ∨ ∃ opcode, c.rawOutputFor opcode = .ok bytes

variable {c : Command} {bytes : Bytes}

theorem GivesOut.finalResult (final : c.GivesOut bytes) : c.finalResult = .ok bytes := by
  rcases final with ⟨id, asked⟩ | ⟨opcode, asked⟩
  · unfold outputFor at asked
    split at asked
    · cases asked
    · exact asked
  · unfold rawOutputFor at asked
    split at asked
    · cases asked
    · exact asked

/-- Only a completed command has a final output, and then it is its output. -/
theorem finalResult_eq_ok_iff :
    c.finalResult = .ok bytes ↔
      ∃ status, c.status = some status ∧ status.completion = .ok .complete ∧ c.result = bytes := by
  rcases at_ : c.status with _ | status
  · simp [finalResult, at_]
  · rcases ended : status.completion with e | _ | _ <;> simp [finalResult, at_, ended]

/-- A payload that a completed command is given becomes its final output. -/
theorem finalResult_setOutput (final : c.finalResult = .ok bytes) {buffer? : Option Bytes}
    {n : Nat} (fits : n ≤ c.device.payloadMax.toNat)
    (room : ∀ buffer ∈ buffer?, n ≤ buffer.length) :
    (c.setOutput buffer? n).2.finalResult = .ok (Payload.make n buffer?).bytes := by
  obtain ⟨status, at_, complete, -⟩ := finalResult_eq_ok_iff.mp final
  rw [setOutput_of_le fits room, finalResult_eq_ok_iff]
  refine ⟨status, at_, complete, ?_⟩
  rw [result, List.take_of_length_le]
  rw [Payload.length_make]
  cases buffer? with
  | none => exact Nat.le_refl n
  | some buffer => exact Nat.min_le_left n buffer.length

end Command

/-- **A final output is what the device produced**, as long as nobody disturbs it: over every
backend and after every history, the last send that came back has returned the word 0, and if the
output was not disturbed since, the final one has the bytes that it reported. -/
theorem final_output_delivered (backend : Backend δ) (origin : Origin) (info : DeviceInfo)
    (world : World δ) (ops : List Operation) {bytes : Bytes} :
    let start := (origin.make backend.recorded ⟨.unvalidated info, world.recording⟩).2
    (Operation.performAll backend.recorded ops start).command.GivesOut bytes →
      ∃ before after delivery, ops = before ++ .submit :: after ∧
        LastDelivered backend start before after delivery ∧ delivery.receipt.returnWord = 0 ∧
        (Undisturbed backend.recorded
            (Operation.performAll backend.recorded (before ++ [.submit]) start) after →
          bytes = delivery.output) := by
  intro start final
  obtain ⟨nothing, unsent⟩ := origin.make_fresh backend info world
  obtain ⟨status, at_, complete, result⟩ := Command.finalResult_eq_ok_iff.mp final.finalResult
  rcases performAll_delivery backend nothing unsent ops with
    ⟨-, none_⟩ | ⟨before, after, delivery, split, last, held, output⟩
  · rw [none_] at at_
    cases at_
  · have returned : delivery.status = status := Option.some.inj (held.symm.trans at_)
    have zero : delivery.receipt.returnWord = 0 := by
      rw [← returned, Delivery.status, Status.completion_ofWord] at complete
      by_contra other
      rw [if_neg other] at complete
      split at complete <;> cases complete
    exact ⟨before, after, delivery, split, last, zero,
      fun undisturbed => result.symm.trans (output undisturbed)⟩

/-! ## A replaced output -/

/-- A device whose one reply has four bytes. -/
def World.fourBytes : World Script :=
  { device :=
      { catalog? := some [.enabled CommandId.identify 0 4]
        sends := [.ok { data? := some [1, 2, 3, 4] }] } }

/-- A command for that device, not sent yet. -/
def Session.fourBytes : Session (Recorded Script) :=
  ((Origin.known CommandId.identify).make Script.backend.recorded
    ⟨.unvalidated { payloadMax := 16 }, World.recording .fourBytes⟩).2

/-- A refused payload and a send for which there is no reply leave the four bytes. -/
theorem final_output_delivered_fourBytes :
    let ops : List Operation := [.submit, .setOutput none 99, .submit]
    (Operation.performAll Script.backend.recorded ops .fourBytes).command.GivesOut [1, 2, 3, 4] ∧
      ∃ before after delivery, ops = before ++ .submit :: after ∧
        LastDelivered Script.backend .fourBytes before after delivery ∧
        delivery.receipt.returnWord = 0 ∧
        (Undisturbed Script.backend.recorded
            (Operation.performAll Script.backend.recorded (before ++ [.submit]) .fourBytes) after →
          [1, 2, 3, 4] = delivery.output) := by
  intro ops
  have final : (Operation.performAll Script.backend.recorded ops .fourBytes).command.GivesOut
      [1, 2, 3, 4] := .inl ⟨CommandId.identify, by decide +kernel⟩
  exact ⟨final, final_output_delivered Script.backend (.known CommandId.identify)
    { payloadMax := 16 } .fourBytes ops final⟩

/-- Zeros, or bytes of the caller, pass for the four bytes that the device has produced. -/
theorem replaced_output_final :
    let replaced buffer? : Session (Recorded Script) :=
      Operation.performAll Script.backend.recorded [.submit, .setOutput buffer? 4] .fourBytes
    let delivery : Delivery :=
      { device := { payloadMax := 16 }
        request := .ofBuffers CommandId.identify 0 [] (Bytes.zeros 4)
        receipt := ⟨4, 0⟩
        written := [1, 2, 3, 4] }
    LastDelivered Script.backend .fourBytes [] [.setOutput none 4] delivery ∧
      delivery.output = [1, 2, 3, 4] ∧
      (replaced none).command.outputFor CommandId.identify = .ok [0, 0, 0, 0] ∧
      (replaced (some [9, 9, 9, 9])).command.outputFor CommandId.identify = .ok [9, 9, 9, 9] := by
  intro replaced delivery
  have sent : (Operation.performAll Script.backend.recorded [.submit] .fourBytes).exchanges =
      Session.fourBytes.exchanges ++ [delivery.exchange] := rfl
  have since : (replaced none).exchanges =
      (Operation.performAll Script.backend.recorded [.submit] .fourBytes).exchanges := rfl
  have last : LastDelivered Script.backend .fourBytes [] [.setOutput none 4] delivery :=
    ⟨sent, [], by simp [Undelivered], by rw [List.append_nil]; exact since⟩
  exact ⟨last, by decide +kernel, by decide +kernel, by decide +kernel⟩

end CxlMailbox
