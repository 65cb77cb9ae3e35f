/-
# CxlMailbox.Proofs.Inquiry.Outcome — a result only for the right status

A device ends every command with a 32-bit word, and says how many bytes it has produced.  Three
conventions turn these into an answer:

* a setter tells completion and a started background operation apart (`Setter.Tells`);
* a getter has a result only for a completed command, and then exactly the decoding of the bytes
  that were reported (`Getter.Tells`);
* a label call succeeds only for success, and a read only if all its bytes were reported
  (`LabelCall.Tells`).

None of them has a result or succeeds before a send has come back (`NeedsReply`).

`answers_tell_status` says so of every typed command, over every backend and for every reply.
-/
import CxlMailbox.Proofs.Inquiry.Typed
import CxlMailbox.Proofs.Labels.Request
import CxlMailbox.Proofs.Reply

namespace CxlMailbox

set_option autoImplicit false

open Effect Session

/-! ## Drives that send one command -/

/-- The output that a reply makes final: none unless the command completed. -/
def finalReply (request : SendRequest) (receipt : Receipt) (written : Bytes) :
    Except Error Bytes :=
  match (Status.ofWord receipt.returnWord).completion with
  | .error e => .error e
  | .ok .backgroundStarted => .error .backgroundStarted
  | .ok .complete => .ok (request.reply receipt written)

theorem Command.received_finalResult (c : Command) (receipt : Receipt) (written : Bytes) :
    (c.received receipt written).finalResult = finalReply c.request receipt written := by
  rcases ended : (Status.ofWord receipt.returnWord).completion with e | _ | _ <;>
    simp only [finalResult, received_status, received_result, finalReply, ended]

theorem finalReply_of_error {request : SendRequest} {receipt : Receipt} {written : Bytes}
    {e : Error} (failed : (Status.ofWord receipt.returnWord).completion = .error e) :
    finalReply request receipt written = .error e := by
  rw [finalReply, failed]

namespace Inquiry

variable {δ ε α : Type} {backend : Backend δ}

/-- The end of a getter: the output for its command is decoded, and nothing else happens. -/
theorem decoding_apply (output : Command → Except Error Bytes) (decode : Bytes → Except Error α)
    (s : Session δ) :
    (do decode (← (do output (← current) : Drive δ Bytes)) : Drive δ α) s =
      ((output s.command).bind decode, s) := by
  have read : (do output (← current) : Drive δ Bytes) s = (output s.command, s) := by
    rw [bind_ok (current_apply s)]
    exact except_apply _ s
  rcases got : output s.command with e | bytes <;> rw [got] at read
  · exact bind_error read _
  · rw [bind_ok read]
    exact except_apply _ s

/-- A run whose final output is decoded answers with the decoding of the reply. -/
theorem run_decoding {P : Command → Prop} {output : Command → Except Error Bytes}
    (decode : Bytes → Except Error α)
    (input_free : ∀ c payload, P c → P { c with input := payload })
    (final : ∀ c receipt written, P c →
      output (c.received receipt written) = finalReply c.request receipt written) :
    Answers P
      (do
        let _ ← run backend.recorded []
        decode (← (do output (← current) : Drive (Recorded δ) Bytes)))
      fun request receipt written => (finalReply request receipt written).bind decode := by
  refine Answers.run_then [] (fun _ s => by rw [decoding_apply]) input_free ?_ ?_
  · intro e request receipt written failed
    rw [finalReply_of_error failed]
    rfl
  · intro c a receipt written t holds ended received
    rw [decoding_apply, received, final c receipt written holds]

theorem get_answers (id : UInt32) (decode : Bytes → Except Error α) :
    Answers (fun _ => True) (get backend.recorded id decode) fun request receipt written =>
      (finalReply request receipt written).bind decode := by
  refine Answers.after (Q := fun c => c.id = id) (prepare_unsent backend id) ?_ fun _ =>
    run_decoding decode (fun c payload same => same) ?_
  · intro s _ t _ made
    have found := prepare_ok (congrArg Prod.fst made)
    rw [made] at found
    exact found.1
  · intro c receipt written same
    rw [← Command.received_finalResult, Command.outputFor]
    exact if_neg fun other => other same

/-- After a raw command was made, its output may be replaced. -/
theorem raw_answers {outcome : SendRequest → Receipt → Bytes → Except Error α} (opcode : UInt16)
    (size : Nat) {rest : Drive (Recorded δ) α}
    (answers : Answers (fun c => c.id = CommandId.raw ∧ c.rawOpcode = opcode) rest outcome) :
    Answers (fun _ => True)
      (do
        prepareRaw backend.recorded opcode
        Session.setOutput none size
        rest) outcome := by
  refine Answers.after (Q := fun c => c.id = CommandId.raw ∧ c.rawOpcode = opcode)
    (prepareRaw_unsent backend opcode) ?_ fun _ =>
      Answers.after (inCommand_silent _).unsent ?_ fun _ => answers
  · intro s _ t _ made
    by_cases zero : opcode = 0
    · subst zero
      cases made
    · rw [prepareRaw_apply _ zero] at made
      rcases ran : prepare backend.recorded CommandId.raw s with ⟨e | _, u⟩ <;> rw [ran] at made
      · cases made
      · cases made
        have found := prepare_ok (congrArg Prod.fst ran)
        rw [ran] at found
        exact ⟨found.1, rfl⟩
  · intro s _ t holds ran
    obtain ⟨output, outSize, same⟩ := s.command.setOutput_eq none size
    have after : t.command = (s.command.setOutput none size).2 :=
      congrArg Session.command (congrArg Prod.snd ran).symm
    rw [after, same]
    exact holds

theorem getRaw_answers (opcode : UInt16) (size : Nat) (decode : Bytes → Except Error α) :
    Answers (fun _ => True) (getRaw backend.recorded opcode size decode)
      fun request receipt written => (finalReply request receipt written).bind decode := by
  refine raw_answers opcode size (run_decoding decode (fun c payload same => same) ?_)
  intro c receipt written ⟨raw, same⟩
  rw [← Command.received_finalResult, Command.rawOutputFor]
  exact if_neg fun other => other.elim (fun differs => differs raw) fun differs => differs same

theorem setRaw_answers (opcode : UInt16) (input : Bytes) :
    Answers (fun _ => True) (setRaw backend.recorded opcode input) fun _ receipt _ =>
      (Status.ofWord receipt.returnWord).completion :=
  raw_answers opcode 0 (Answers.run input)

/-! ### Results need a reply -/

/-- A run whose final output is decoded has a result only after a send has come back. -/
theorem run_decoding_needsReply (output : Command → Except Error Bytes)
    (decode : Bytes → Except Error α) :
    NeedsReply (do
      let _ ← run backend.recorded []
      decode (← (do output (← current) : Drive (Recorded δ) Bytes))) :=
  (NeedsReply.run backend []).before fun _ =>
    NeedsReply.replied_of_silent fun s => by rw [decoding_apply]

theorem get_needsReply (id : UInt32) (decode : Bytes → Except Error α) :
    NeedsReply (get backend.recorded id decode) :=
  .after _ fun _ => run_decoding_needsReply (·.outputFor id) decode

theorem getRaw_needsReply (opcode : UInt16) (size : Nat) (decode : Bytes → Except Error α) :
    NeedsReply (getRaw backend.recorded opcode size decode) :=
  .after _ fun _ => .after _ fun _ => run_decoding_needsReply (·.rawOutputFor opcode) decode

theorem setRaw_needsReply (opcode : UInt16) (input : Bytes) :
    NeedsReply (setRaw backend.recorded opcode input) :=
  .after _ fun _ => .after _ fun _ => .run backend input

end Inquiry

/-! ## Label calls -/

namespace Labels

variable {δ : Type} {backend : Backend δ}

/-- How a label call ends that was answered; `short?` is the end of an incomplete read. -/
def replyVerdict (receipt : Receipt) (short? : Option Error) : Except Error Unit :=
  if receipt.returnWord = 0 then short?.elim (.ok ()) .error
  else .error (.labelStatus (Status.ofWord receipt.returnWord))

/-- The end of a read whose reply reports fewer bytes than it has room for. -/
def shortReply? (request : SendRequest) (receipt : Receipt) (written : Bytes) : Option Error :=
  let produced := (request.reply receipt written).length
  if produced < request.output.length then some (.shortPayload request.output.length produced)
  else none

theorem successVerdict_received (c : Command) (receipt : Receipt) (written : Bytes) :
    successVerdict (c.received receipt written) = replyVerdict receipt none := by
  simp only [successVerdict, Command.received_status, Status.isSuccess_ofWord, beq_iff_eq,
    replyVerdict]
  rfl

theorem readVerdict_received {c : Command} {n : Nat} (sized : c.request.output.length = n)
    (receipt : Receipt) (written : Bytes) :
    readVerdict n (c.received receipt written) =
      replyVerdict receipt (shortReply? c.request receipt written) := by
  have succeeded := successVerdict_received c receipt written
  have produced : (c.request.reply receipt written).length =
      (c.received receipt written).outSize := by
    rw [Command.received_outSize, SendRequest.reply, List.length_take, length_overlay]
    omega
  by_cases zero : receipt.returnWord = 0
  · simp only [replyVerdict, zero, if_true] at succeeded ⊢
    rw [readVerdict_of_ok succeeded, shortReply?, produced, sized]
    by_cases short : (c.received receipt written).outSize < n
    · simp only [short, if_true, Option.elim_some]
    · simp only [short, if_false, Option.elim_none]
  · simp only [replyVerdict, zero, if_false] at succeeded ⊢
    exact readVerdict_of_error succeeded

theorem fetch_answers {buffer : Bytes} {n : Nat} (offset : UInt32) (covers : n ≤ buffer.length) :
    Answers (fun _ => True) (fetch backend.recorded buffer offset n)
      fun request receipt written =>
        replyVerdict receipt (shortReply? request receipt written) := by
  intro s fresh _ request receipt written delivered
  have kept := prepare_unsent backend CommandId.getLabels s fresh
  rcases made : prepare backend.recorded CommandId.getLabels s with ⟨e | _, t⟩ <;> rw [made] at kept
  · rw [fetch, bind_error made] at delivered
    exact absurd delivered kept.not_delivered
  · by_cases fits : headerSize ≤ t.command.device.payloadMax.toNat ∧
      n ≤ t.command.device.payloadMax.toNat
    · obtain ⟨log, ran⟩ := fetch_sends backend.recorded offset made fits.1 fits.2
        covers
      have sized : (forRead t.command buffer offset n).request.output.length = n := by
        have window : (forRead t.command buffer offset n).request.output = buffer.take n :=
          rfl
        rw [window, List.length_take]
        omega
      have unsent : (t.withCommand (forRead t.command buffer offset n)).Unsent := kept
      rw [ran] at delivered ⊢
      obtain ⟨asked, u, sent, received⟩ := submit_delivered unsent delivered
      simp only [sent, Except.bind, received, asked, withCommand_command]
      exact readVerdict_received sized receipt written
    · obtain ⟨e, input, ran⟩ := fetch_oversized backend.recorded buffer offset made
        (show t.command.device.payloadMax.toNat < headerSize ∨
          t.command.device.payloadMax.toNat < n by omega)
      rw [ran] at delivered
      exact absurd delivered kept.not_delivered

theorem store_answers (data : Bytes) (offset : UInt32) (n : Nat) :
    Answers (fun _ => True) (store backend.recorded data offset n) fun _ receipt _ =>
      replyVerdict receipt none := by
  intro s fresh _ request receipt written delivered
  have kept := prepare_unsent backend CommandId.setLabels s fresh
  rcases made : prepare backend.recorded CommandId.setLabels s with ⟨e | _, t⟩ <;> rw [made] at kept
  · rw [store, bind_error made] at delivered
    exact absurd delivered kept.not_delivered
  · by_cases fits : headerSize + n ≤ t.command.device.payloadMax.toNat
    · obtain ⟨log, ran⟩ := store_sends backend.recorded data offset made fits
      have unsent : (t.withCommand (forWrite t.command data offset n)).Unsent := kept
      rw [ran] at delivered ⊢
      obtain ⟨-, u, sent, received⟩ := submit_delivered unsent delivered
      simp only [sent, Except.bind, received]
      exact successVerdict_received _ receipt written
    · obtain ⟨e, ran⟩ := store_oversized backend.recorded data offset made (Nat.lt_of_not_le fits)
      rw [ran] at delivered
      exact absurd delivered kept.not_delivered

/-! ### Success needs a reply -/

theorem requireSuccess_replied (operation : String) :
    Keeps Replied (requireSuccess operation : Drive (Recorded δ) Unit) :=
  NeedsReply.replied_of_silent fun s => by
    obtain ⟨log, ran⟩ := requireSuccess_apply operation s
    rw [ran]
    rfl

theorem fetch_needsReply (buffer : Bytes) (offset : UInt32) (n : Nat) :
    NeedsReply (fetch backend.recorded buffer offset n) := by
  refine .after _ fun _ => .after _ fun _ => .after _ fun _ => .after _ fun _ =>
    (NeedsReply.submit backend).before fun _ => (requireSuccess_replied "get").bind fun _ =>
      .bind (fun _ replied => replied) fun c => ?_
  split
  · exact .bind (fun _ replied => replied) fun _ => .throw _
  · exact .pure _

theorem store_needsReply (data : Bytes) (offset : UInt32) (n : Nat) :
    NeedsReply (store backend.recorded data offset n) :=
  .after _ fun _ => .after _ fun _ => .after _ fun _ =>
    (NeedsReply.submit backend).before fun _ => requireSuccess_replied "set"

end Labels

/-! ## Whole commands -/

section Tasks

variable {δ α β : Type} {backend : Backend δ} {info : DeviceInfo} {world : World δ}
  {request : SendRequest} {receipt : Receipt} {written : Bytes}

/-- The answer without a record is the answer with one. -/
theorem answer_task {x : Task (Recorded δ) Error α} {y : Task δ Error α}
    (follows : Follows (World.mapDevice Recorded.device) x y) (world : World δ) :
    (y world).1 = (x world.recording).1 :=
  congrArg Prod.fst (follows world.recording)

/-- A command that is driven once answers as its drive does. -/
theorem once_answers {x : Drive (Recorded δ) α}
    {outcome : SendRequest → Receipt → Bytes → Except Error α}
    (answers : Answers (fun _ => True) x outcome)
    (delivered : Delivered (Task.exchanges (x.once info) world) request receipt written) :
    (x.once info world.recording).1 = outcome request receipt written := by
  rw [Task.exchanges, once_apply] at delivered
  rw [once_apply]
  refine answers _ ?_ trivial request receipt written delivered
  simp [Unsent, Session.exchanges, World.recording, World.mapDevice]

/-- So does one that is then noted in the log, under another name. -/
theorem once_noted {x : Drive (Recorded δ) α} {rest : α → Task (Recorded δ) Error β}
    {outcome : SendRequest → Receipt → Bytes → Except Error α} (name : α → β)
    (noted : ∀ a w, ∃ log, rest a w = (.ok (name a), { w with log }))
    (answers : Answers (fun _ => True) x outcome)
    (delivered : Delivered (Task.exchanges (x.once info >>= rest) world) request receipt written) :
    ((x.once info >>= rest) world.recording).1 = (outcome request receipt written).map name := by
  rw [Task.exchanges] at delivered
  rcases ran : x.once info world.recording with ⟨e | a, w⟩
  · rw [bind_error ran] at delivered ⊢
    have came : Delivered (Task.exchanges (x.once info) world) request receipt written := by
      rwa [Task.exchanges, ran]
    rw [← once_answers answers came, ran]
    rfl
  · obtain ⟨log, ended⟩ := noted a w
    rw [bind_ok ran, ended] at delivered ⊢
    have came : Delivered (Task.exchanges (x.once info) world) request receipt written := by
      rwa [Task.exchanges, ran]
    rw [← once_answers answers came, ran]
    rfl

theorem trigger_answer {opcode : UInt16}
    (delivered : Delivered (Task.exchanges (Inquiry.trigger backend.recorded info opcode) world)
      request receipt written) :
    (Inquiry.trigger backend.recorded info opcode world.recording).1 =
      (Status.ofWord receipt.returnWord).completion := by
  refine (once_noted id ?_ (Inquiry.setRaw_answers opcode []) delivered).trans ?_
  · intro completion w
    by_cases started : completion = .backgroundStarted
    · exact ⟨_, by simp only [started, if_true]; rfl⟩
    · exact ⟨w.log, by simp only [started, if_false]; rfl⟩
  · cases (Status.ofWord receipt.returnWord).completion <;> rfl

theorem Setter.answer_eq (setter : Setter)
    (delivered : Delivered (Task.exchanges (setter.perform backend.recorded info) world) request
      receipt written) :
    (setter.perform backend info world).1 = (Status.ofWord receipt.returnWord).completion := by
  rw [answer_task (setter.perform_follows backend.recorded_follows info) world]
  cases setter with
  | setAlertConfig request =>
      exact once_answers (Answers.after (Q := fun _ => True) (prepare_unsent backend _)
        (fun _ _ _ _ _ => trivial) fun _ => Answers.run _) delivered
  | setEventPolicy policy => exact once_answers (Inquiry.setRaw_answers _ _) delivered
  | setTimestamp time => exact once_answers (Inquiry.setRaw_answers _ _) delivered
  | transferFirmware => exact trigger_answer delivered
  | activateFirmware => exact trigger_answer delivered

theorem Getter.answer_eq (getter : Getter α)
    (delivered : Delivered (Task.exchanges (getter.perform backend.recorded info) world) request
      receipt written) :
    (getter.perform backend info world).1 =
      (finalReply request receipt written).bind getter.decode := by
  rw [answer_task (getter.perform_follows backend.recorded_follows info) world]
  cases getter with
  | identify | health | alertConfig | supportedLogs =>
      exact once_answers (Inquiry.get_answers _ _) delivered
  | eventPolicy | timestamp | firmwareInfo =>
      exact once_answers (Inquiry.getRaw_answers _ _ _) delivered
  | backgroundStatus =>
      refine (once_noted BackgroundStatus.ofWord (fun word w => ⟨_, rfl⟩)
        (Inquiry.getRaw_answers _ _ _) delivered).trans ?_
      cases finalReply request receipt written <;> rfl

/-- The end of a label call that was answered with success but is not complete. -/
def LabelCall.incomplete? (call : LabelCall) (request : SendRequest) (receipt : Receipt)
    (written : Bytes) : Option Error :=
  match call with
  | read .. => Labels.shortReply? request receipt written
  | write .. | zero .. => none

theorem LabelCall.answer_eq (call : LabelCall)
    (delivered : Delivered (call.perform backend.recorded info world.recording).2.device.exchanges
      request receipt written) :
    (call.perform backend info world).1.1 =
      Labels.replyVerdict receipt (call.incomplete? request receipt written) := by
  have same := call.perform_follows backend.recorded_follows info world.recording
  rw [show world.recording.mapDevice Recorded.device = world from rfl] at same
  rw [same]
  have fresh (c : Command) (log : Array LogLine) :
      (⟨c, { world.recording with log }⟩ : Session (Recorded δ)).Unsent := by
    simp [Unsent, Session.exchanges, World.recording, World.mapDevice]
  by_cases ranged : ∃ n, Labels.resolveLength info call.offset call.length = .ok n ∧ call.Covers n
  · obtain ⟨n, resolved, covers⟩ := ranged
    obtain ⟨log, ran⟩ := perform_driven backend.recorded resolved covers world.recording
    have answers : Answers (fun _ => True) (call.drive backend.recorded n)
        fun request receipt written =>
          Labels.replyVerdict receipt (call.incomplete? request receipt written) := by
      cases call with
      | read buffer offset length => exact Labels.fetch_answers offset covers
      | write data offset length => exact Labels.store_answers _ offset n
      | zero offset length => exact Labels.store_answers _ offset n
    rw [ran] at delivered ⊢
    exact answers _ (fresh _ log) trivial request receipt written delivered
  · obtain ⟨e, log, ran⟩ := perform_refused backend.recorded
      (fun n resolved covers => ranged ⟨n, resolved, covers⟩) world.recording
    rw [ran] at delivered
    exact absurd delivered (fresh (.unvalidated info) log).not_delivered

/-! ### No result without a reply -/

/-- Neither a new name for the result nor a line in the log takes the reply away. -/
theorem noted_replied {x : Drive (Recorded δ) α} {rest : α → Task (Recorded δ) Error β}
    (needs : NeedsReply x) (noted : ∀ a w, ∃ b log, rest a w = (.ok b, { w with log })) {b : β}
    (answered : ((x.once info >>= rest) world.recording).1 = .ok b) :
    ∃ request receipt written,
      Delivered (Task.exchanges (x.once info >>= rest) world) request receipt written := by
  rw [Task.exchanges]
  rcases ran : x.once info world.recording with ⟨e | a, w⟩
  · rw [bind_error ran] at answered
    cases answered
  · obtain ⟨c, log, ended⟩ := noted a w
    rw [bind_ok ran, ended]
    have replied := needs.once (congrArg Prod.fst ran)
    rwa [ran] at replied

theorem trigger_replied {opcode : UInt16} {completion : Completion}
    (answered : (Inquiry.trigger backend.recorded info opcode world.recording).1 =
      .ok completion) :
    ∃ request receipt written,
      Delivered (Task.exchanges (Inquiry.trigger backend.recorded info opcode) world) request
        receipt written := by
  refine noted_replied (Inquiry.setRaw_needsReply opcode []) (fun a w => ?_) answered
  by_cases started : a = .backgroundStarted
  · exact ⟨a, _, by simp only [started, if_true]; rfl⟩
  · exact ⟨a, w.log, by simp only [started, if_false]; rfl⟩

theorem Setter.replied (setter : Setter) {completion : Completion}
    (answered : (setter.perform backend info world).1 = .ok completion) :
    ∃ request receipt written,
      Delivered (Task.exchanges (setter.perform backend.recorded info) world) request receipt
        written := by
  rw [answer_task (setter.perform_follows backend.recorded_follows info) world] at answered
  cases setter with
  | setAlertConfig request =>
      exact NeedsReply.once (.after _ fun _ => .run backend request.encode) answered
  | setEventPolicy policy => exact (Inquiry.setRaw_needsReply _ _).once answered
  | setTimestamp time => exact (Inquiry.setRaw_needsReply _ _).once answered
  | transferFirmware => exact trigger_replied answered
  | activateFirmware => exact trigger_replied answered

theorem Getter.replied (getter : Getter α) {a : α}
    (answered : (getter.perform backend info world).1 = .ok a) :
    ∃ request receipt written,
      Delivered (Task.exchanges (getter.perform backend.recorded info) world) request receipt
        written := by
  rw [answer_task (getter.perform_follows backend.recorded_follows info) world] at answered
  cases getter with
  | identify | health | alertConfig | supportedLogs =>
      exact (Inquiry.get_needsReply _ _).once answered
  | eventPolicy | timestamp | firmwareInfo =>
      exact (Inquiry.getRaw_needsReply _ _ _).once answered
  | backgroundStatus =>
      exact noted_replied (Inquiry.getRaw_needsReply _ _ _) (fun word w => ⟨_, _, rfl⟩) answered

theorem LabelCall.replied (call : LabelCall)
    (answered : (call.perform backend info world).1.1 = .ok ()) :
    ∃ request receipt written,
      Delivered (call.perform backend.recorded info world.recording).2.device.exchanges request
        receipt written := by
  have same := call.perform_follows backend.recorded_follows info world.recording
  rw [show world.recording.mapDevice Recorded.device = world from rfl] at same
  rw [same] at answered
  rcases faulty : call.fault? info with _ | fault
  · obtain ⟨n, resolved, covers⟩ := fault?_eq_none_iff.mp faulty
    obtain ⟨log, ran⟩ := perform_driven backend.recorded resolved covers world.recording
    rw [ran] at answered ⊢
    have needs : NeedsReply (call.drive backend.recorded n) := by
      cases call with
      | read buffer offset length => exact Labels.fetch_needsReply buffer offset n
      | write data offset length => exact Labels.store_needsReply _ offset n
      | zero offset length => exact Labels.store_needsReply _ offset n
    exact needs _ () _ (Prod.ext answered rfl)
  · obtain ⟨log, ran⟩ := perform_fault backend.recorded faulty world.recording
    rw [ran] at answered
    cases answered

end Tasks

/-! ## What an answer tells -/

/-- The failure of a device carries the word, read as a two's complement number: its status is the
one of that code. -/
def Status.Reads (status : Status) (word : UInt32) : Prop :=
  status.Classified ∧ status.code.toInt = (word.toNat : Int).bmod UInt32.size

theorem Status.ofWord_reads (word : UInt32) : (ofWord word).Reads word := by
  refine ⟨classified_ofCode word.toInt32, ?_⟩
  rw [toInt_code, toWord_ofWord]

/-- A setter tells completion, a started background operation and every failure apart. -/
structure Setter.Tells (word : UInt32) (answer : Except Error Completion) : Prop where
  complete : answer = .ok .complete ↔ word = 0
  started : answer = .ok .backgroundStarted ↔ word = 1
  failed : word ≠ 0 → word ≠ 1 → ∃ status, answer = .error (.device status) ∧ status.Reads word

/-- A getter has a result only for a completed command, and then it is the decoding of the bytes
that were reported, if these are enough. -/
structure Getter.Tells {α : Type} (getter : Getter α) (word : UInt32) (reply : Bytes)
    (answer : Except Error α) : Prop where
  result : ∀ a, answer = .ok a → word = 0 ∧ getter.decode reply = .ok a
  decoded : word = 0 → getter.needed reply ≤ reply.length → ∃ a, answer = .ok a
  short : word = 0 → reply.length < getter.needed reply →
    answer = .error (.shortPayload (getter.needed reply) reply.length)
  started : word = 1 → answer = .error .backgroundStarted
  failed : word ≠ 0 → word ≠ 1 → ∃ status, answer = .error (.device status) ∧ status.Reads word

/-- A label call fails with the status for every word but zero, that of a started background
operation included; for zero it succeeds, unless it is a read that was cut short. -/
structure LabelCall.Tells (call : LabelCall) (word : UInt32) (incomplete? : Option Error)
    (answer : Except Error Unit) : Prop where
  failed : word ≠ 0 → ∃ status, answer = .error (.labelStatus status) ∧ status.Reads word ∧
    (Error.labelStatus status).message =
      s!"I/O error (status {status.code}): {status.description}"
  complete : word = 0 → incomplete? = none → answer = .ok ()
  short : word = 0 → ∀ e, incomplete? = some e → answer = .error e

theorem Setter.tells_completion (word : UInt32) :
    Setter.Tells word (Status.ofWord word).completion := by
  rw [Status.completion_ofWord]
  by_cases zero : word = 0
  · subst zero
    exact ⟨by simp, by simp, fun nonzero => absurd rfl nonzero⟩
  · by_cases one : word = 1
    · subst one
      exact ⟨by simp, by simp, fun _ other => absurd rfl other⟩
    · simp only [zero, one, if_false]
      exact ⟨by simp [zero], by simp [one], fun _ _ => ⟨_, rfl, Status.ofWord_reads word⟩⟩

theorem Getter.tells_decoding {α : Type} (getter : Getter α) (request : SendRequest)
    (receipt : Receipt) (written : Bytes) :
    getter.Tells receipt.returnWord (request.reply receipt written)
      ((finalReply request receipt written).bind getter.decode) := by
  rw [finalReply, Status.completion_ofWord]
  by_cases zero : receipt.returnWord = 0
  · simp only [zero, if_true, Except.bind]
    exact
      { result := fun a got => ⟨rfl, got⟩
        decoded := fun _ long => decode_long long
        short := fun _ short => decode_short short
        started := by simp
        failed := by simp }
  · by_cases one : receipt.returnWord = 1
    · simp only [one, if_true, if_neg (show (1 : UInt32) ≠ 0 by decide), Except.bind]
      exact
        { result := fun a got => by cases got
          decoded := by simp
          short := by simp
          started := fun _ => rfl
          failed := by simp }
    · simp only [zero, one, if_false, Except.bind]
      exact
        { result := fun a got => by cases got
          decoded := fun same => absurd same zero
          short := fun same => absurd same zero
          started := fun same => absurd same one
          failed := fun _ _ => ⟨_, rfl, Status.ofWord_reads _⟩ }

theorem LabelCall.tells_verdict (call : LabelCall) (receipt : Receipt) (short? : Option Error) :
    call.Tells receipt.returnWord short? (Labels.replyVerdict receipt short?) := by
  by_cases zero : receipt.returnWord = 0
  · simp only [Labels.replyVerdict, zero, if_true]
    exact
      { failed := by simp
        complete := fun _ none_ => by rw [none_]; rfl
        short := fun _ e some_ => by rw [some_]; rfl }
  · simp only [Labels.replyVerdict, zero, if_false]
    exact
      { failed := fun _ => ⟨_, rfl, Status.ofWord_reads _, rfl⟩
        complete := fun same => absurd same zero
        short := fun same => absurd same zero }

section Replies

variable {δ : Type} {backend : Backend δ} {info : DeviceInfo} {world : World δ}
  {request : SendRequest} {receipt : Receipt} {written : Bytes}

theorem Setter.tells_reply (setter : Setter)
    (sent : Delivered (Task.exchanges (setter.perform backend.recorded info) world) request receipt
      written) :
    Setter.Tells receipt.returnWord (setter.perform backend info world).1 := by
  rw [setter.answer_eq sent]
  exact Setter.tells_completion receipt.returnWord

theorem Getter.tells_reply {α : Type} (getter : Getter α)
    (sent : Delivered (Task.exchanges (getter.perform backend.recorded info) world) request receipt
      written) :
    getter.Tells receipt.returnWord (request.reply receipt written)
      (getter.perform backend info world).1 := by
  rw [getter.answer_eq sent]
  exact getter.tells_decoding request receipt written

theorem LabelCall.tells_reply (call : LabelCall)
    (sent : Delivered (call.perform backend.recorded info world.recording).2.device.exchanges
      request receipt written) :
    call.Tells receipt.returnWord (call.incomplete? request receipt written)
      (call.perform backend info world).1.1 := by
  rw [call.answer_eq sent]
  exact call.tells_verdict receipt _

end Replies

/-- **Every typed command answers what the reply to its send says**, over every backend, in every
world and for every word, size and output that came back.  And it has a result only after a send
came back that returned zero, or one that a setter reports as started. -/
theorem answers_tell_status {δ : Type} (backend : Backend δ) (info : DeviceInfo)
    (world : World δ) (request : SendRequest) (receipt : Receipt) (written : Bytes) :
    (∀ setter : Setter,
      Delivered (Task.exchanges (setter.perform backend.recorded info) world) request receipt
        written →
      Setter.Tells receipt.returnWord (setter.perform backend info world).1) ∧
    (∀ (α : Type) (getter : Getter α),
      Delivered (Task.exchanges (getter.perform backend.recorded info) world) request receipt
        written →
      getter.Tells receipt.returnWord (request.reply receipt written)
        (getter.perform backend info world).1) ∧
    (∀ call : LabelCall,
      Delivered (call.perform backend.recorded info world.recording).2.device.exchanges request
        receipt written →
      call.Tells receipt.returnWord (call.incomplete? request receipt written)
        (call.perform backend info world).1.1) ∧
    (∀ (setter : Setter) completion, (setter.perform backend info world).1 = .ok completion →
      ∃ request receipt written,
        Delivered (Task.exchanges (setter.perform backend.recorded info) world) request receipt
          written ∧
        receipt.returnWord = if completion = .complete then 0 else 1) ∧
    (∀ (α : Type) (getter : Getter α) a, (getter.perform backend info world).1 = .ok a →
      ∃ request receipt written,
        Delivered (Task.exchanges (getter.perform backend.recorded info) world) request receipt
          written ∧ receipt.returnWord = 0) ∧
    ∀ call : LabelCall, (call.perform backend info world).1.1 = .ok () →
      ∃ request receipt written,
        Delivered (call.perform backend.recorded info world.recording).2.device.exchanges request
          receipt written ∧ receipt.returnWord = 0 := by
  refine ⟨fun setter sent => setter.tells_reply sent, fun α getter sent => getter.tells_reply sent,
    fun call sent => call.tells_reply sent, fun setter completion answered => ?_,
    fun α getter a answered => ?_, fun call answered => ?_⟩
  · obtain ⟨request, receipt, written, sent⟩ := setter.replied answered
    have tells := setter.tells_reply sent
    refine ⟨request, receipt, written, sent, ?_⟩
    cases completion with
    | complete => exact tells.complete.mp answered
    | backgroundStarted => exact tells.started.mp answered
  · obtain ⟨request, receipt, written, sent⟩ := getter.replied answered
    exact ⟨request, receipt, written, sent, ((getter.tells_reply sent).result a answered).1⟩
  · obtain ⟨request, receipt, written, sent⟩ := call.replied answered
    refine ⟨request, receipt, written, sent, Decidable.byContradiction fun nonzero => ?_⟩
    obtain ⟨status, refused, -⟩ := (call.tells_reply sent).failed nonzero
    rw [refused] at answered
    cases answered

/-! ## Three replies -/

/-- A device that takes raw commands and label reads, and a reply to the first send. -/
def World.replying (data : Bytes) (returnWord : UInt32) : World Script :=
  { device :=
      { catalog? := some [.enabled CommandId.raw variableSize variableSize,
          .enabled CommandId.getLabels 8 variableSize]
        sends := [.ok { data? := some data, returnWord }] } }

/-- A started operation is told from a completed one, three bytes are no clock, and a label read
ends with the code that was returned. -/
theorem three_replies_told :
    let info : DeviceInfo := { payloadMax := 16, labelAreaSize := 4 }
    (Setter.transferFirmware.perform Script.backend info (.replying [] 1)).1 =
        .ok .backgroundStarted ∧
      (Getter.timestamp.perform Script.backend info (.replying [1, 2, 3] 0)).1 =
        .error (.shortPayload 8 3) ∧
      ∃ status, ((LabelCall.read [7, 7] 0 2).perform Script.backend info
        (.replying [] 0xffffffff)).1.1 = .error (.labelStatus status) ∧
        status.Reads 0xffffffff := by
  intro info
  refine ⟨?_, ?_, ?_⟩
  · exact ((answers_tell_status Script.backend info (.replying [] 1) _ _ _).1 .transferFirmware
      ⟨_, .tail _ (.tail _ (.head _))⟩).started.mpr rfl
  · exact ((answers_tell_status Script.backend info (.replying [1, 2, 3] 0) _ _ _).2.1 _ .timestamp
      ⟨_, .tail _ (.tail _ (.head _))⟩).short rfl (by decide)
  · obtain ⟨status, answer, reads, -⟩ :=
      ((answers_tell_status Script.backend info (.replying [] 0xffffffff) _ _ _).2.2.1
        (.read [7, 7] 0 2) ⟨_, .tail _ (.tail _ (.head _))⟩).failed (by decide)
    exact ⟨status, answer, reads⟩

end CxlMailbox
