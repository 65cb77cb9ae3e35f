/-
# CxlMailbox.Proofs.Reply — runs that are answered by the reply to their send

A whole command sends at most once, and everything it does before is silent about the outcome.
Here are the rules that read the answer of a run off the reply, over any backend:

* `Status.completion_ofWord` says how a command ended that returned a word;
* `Delivered` says that among some exchanges there is a send that came back, with what was asked
  and what was returned; `Command.received` is the command that the reply leaves;
* `Answers P x outcome`: begun with a command that satisfies `P`, and before anything was sent,
  `x` answers with the `outcome` of the reply to its send.  `Answers.after` puts a step in front
  that does not send, `Answers.run` and `Answers.run_then` are the send.
-/
import CxlMailbox.Proofs.Command.Coherence
import CxlMailbox.Proofs.Exchange

namespace CxlMailbox

set_option autoImplicit false

/-! ## Replies -/

/-- Among the exchanges there is a send of the request that came back. -/
def Delivered (exchanges : List Exchange) (request : SendRequest) (receipt : Receipt)
    (written : Bytes) : Prop :=
  ∃ device, .send device request (.ok receipt) written ∈ exchanges

/-- The output that a reply reports: no more of the buffer than there is. -/
def SendRequest.reply (request : SendRequest) (receipt : Receipt) (written : Bytes) : Bytes :=
  (overlay written request.output).take (min receipt.outSize.toNat request.output.length)

/-- What is reported of the written bytes is their front, if the output has room for it. -/
theorem SendRequest.reply_prefix {request : SendRequest} {response written : Bytes} (word : UInt32)
    (front : response <+: written) (fits : response.length ≤ request.output.length)
    (small : response.length < UInt32.size) :
    request.reply ⟨UInt32.ofNat response.length, word⟩ written = response := by
  have length : (UInt32.ofNat response.length).toNat = response.length :=
    Nat.mod_eq_of_lt small
  obtain ⟨behind, rfl⟩ := front
  have inside : response.length ≤ ((response ++ behind).take request.output.length).length := by
    rw [List.length_take, List.length_append]
    omega
  rw [reply, length, Nat.min_eq_left fits, overlay, List.take_append_of_le_length inside,
    List.take_take, Nat.min_eq_left fits, List.take_left]

/-- The command once a send has come back. -/
def Command.received (c : Command) (receipt : Receipt) (written : Bytes) : Command :=
  (c.withOutput (overlay written c.output.bytes)).completeSend receipt

namespace Command

variable (c : Command) (receipt : Receipt) (written : Bytes)

theorem received_status :
    (c.received receipt written).status = some (Status.ofWord receipt.returnWord) := rfl

theorem received_outSize :
    (c.received receipt written).outSize =
      min receipt.outSize.toNat c.request.output.length := by
  simp [received, completeSend, withOutput, request, SendRequest.ofBuffers]

/-- Written over its own content, an output buffer is as the backend left it. -/
theorem withOutput_bytes :
    (c.withOutput (overlay written c.output.bytes)).output.bytes =
      overlay written c.output.bytes := by
  rw [withOutput]
  rcases c.output with _ | own | ⟨window, rest⟩
  · simp [Payload.withBytes, Payload.bytes, overlay]
  · exact overlay_of_length_eq (length_overlay _ _)
  · exact overlay_of_length_eq (length_overlay _ _)

theorem received_result :
    (c.received receipt written).result = c.request.reply receipt written := by
  have bytes : (c.received receipt written).output.bytes = overlay written c.output.bytes :=
    c.withOutput_bytes written
  rw [result, received_outSize, bytes]
  rfl

end Command

/-! ## Words and statuses -/

namespace Status

theorem ofWord_inj {word word' : UInt32} : ofWord word = ofWord word' ↔ word = word' := by
  constructor
  · intro same
    simpa using congrArg toWord same
  · exact congrArg ofWord

theorem isSuccess_ofWord (word : UInt32) : (ofWord word).isSuccess = (word == 0) := by
  rw [Bool.eq_iff_iff, isSuccess, beq_iff_eq, beq_iff_eq]
  exact show ofWord word = ofWord 0 ↔ word = 0 from ofWord_inj

theorem isBackgroundStarted_ofWord (word : UInt32) :
    (ofWord word).isBackgroundStarted = (word == 1) := by
  rw [Bool.eq_iff_iff, isBackgroundStarted, beq_iff_eq, beq_iff_eq]
  exact show ofWord word = ofWord 1 ↔ word = 1 from ofWord_inj

/-- Word 0 completes a command, word 1 leaves it running, and every other word is a failure. -/
theorem completion_ofWord (word : UInt32) :
    (ofWord word).completion =
      if word = 0 then .ok .complete
      else if word = 1 then .ok .backgroundStarted
      else .error (.device (ofWord word)) := by
  simp only [completion, completion?_eq, isSuccess_ofWord, isBackgroundStarted_ofWord, beq_iff_eq]
  by_cases zero : word = 0
  · simp only [zero, if_true]
  · by_cases one : word = 1 <;> simp [zero, one]

end Status

/-! ## Before the send -/

namespace Session

open Effect

variable {δ α : Type} {backend : Backend δ}

/-- Nothing was sent yet. -/
def Unsent (s : Session (Recorded δ)) : Prop :=
  ∀ exchange ∈ s.exchanges, exchange.isSend = false

theorem Unsent.not_delivered {s : Session (Recorded δ)} (unsent : s.Unsent)
    {request : SendRequest} {receipt : Receipt} {written : Bytes} :
    ¬ Delivered s.exchanges request receipt written := by
  rintro ⟨device, member⟩
  cases unsent _ member

/-- A step that exchanges nothing. -/
def Silent (x : Drive (Recorded δ) α) : Prop := ∀ s, (x s).2.exchanges = s.exchanges

theorem Silent.unsent {x : Drive (Recorded δ) α} (silent : Silent x) : Keeps Unsent x := by
  intro s unsent exchange member
  rw [silent s] at member
  exact unsent exchange member

theorem inCommand_silent (step : Command → Except Error α × Command) :
    Silent (δ := δ) (inCommand step) := fun _ => rfl

theorem query_unsent (backend : Backend δ) : Keeps Unsent (query backend.recorded) := by
  intro s unsent
  rcases settled : s.command.queryVerdict? with _ | verdict
  · rcases query_exchanges backend settled with
      ⟨e, written, -, made⟩ | ⟨count, written, verdict, written', -, made⟩ <;>
      simp only [Unsent, made, List.mem_append, List.mem_cons, List.not_mem_nil, or_false] <;>
      rintro exchange (old | new)
    · exact unsent exchange old
    · rw [new]
      rfl
    · exact unsent exchange old
    · rcases new with rfl | rfl <;> rfl
  · rw [query_settled settled]
    exact unsent

theorem validate_unsent (id : UInt32) : Keeps (Unsent (δ := δ)) (validate id) := by
  intro s unsent
  obtain ⟨log, ran⟩ := validate_apply id s
  rw [ran]
  exact unsent

theorem prepare_unsent (backend : Backend δ) (id : UInt32) :
    Keeps Unsent (prepare backend.recorded id) :=
  (query_unsent backend).bind fun _ =>
    (validate_unsent id).bind fun _ => (inCommand_silent _).unsent

theorem prepareRaw_unsent (backend : Backend δ) (opcode : UInt16) :
    Keeps Unsent (prepareRaw backend.recorded opcode) :=
  prepareRaw_keeps (prepare_unsent backend _) (fun _ _ unsent => unsent) opcode

/-! ## The send -/

variable {request : SendRequest} {receipt : Receipt} {written : Bytes}

/-- A send that came back answers with the returned status, and leaves the reply. -/
theorem submit_delivered {s : Session (Recorded δ)} (unsent : s.Unsent)
    (delivered : Delivered (submit backend.recorded s).2.exchanges request receipt written) :
    request = s.command.request ∧ ∃ t : Session (Recorded δ),
      submit backend.recorded s = (.ok (Status.ofWord receipt.returnWord), t) ∧
      t.command = s.command.received receipt written := by
  rcases submit_exchanges backend s with
    ⟨e, -, ran⟩ | ⟨-, device, log, verdict, written', ran⟩
  · rw [ran] at delivered
    exact absurd delivered unsent.not_delivered
  · have made : (submit backend.recorded s).2.exchanges = s.exchanges ++
        [.send s.command.device s.command.request verdict written'] := by
      rw [ran]
      cases verdict <;> rfl
    obtain ⟨device', member⟩ := delivered
    rw [made, List.mem_append, List.mem_singleton] at member
    rcases member with old | new
    · cases unsent _ old
    · injection new with _ asked came written
      subst asked came written
      exact ⟨rfl, _, ran, rfl⟩

theorem conclude_delivered {s : Session (Recorded δ)} (unsent : s.Unsent)
    (delivered : Delivered (conclude backend.recorded s).2.exchanges request receipt written) :
    request = s.command.request ∧ ∃ t : Session (Recorded δ),
      conclude backend.recorded s = ((Status.ofWord receipt.returnWord).completion, t) ∧
      t.command = s.command.received receipt written := by
  obtain ⟨log, ended⟩ := conclude_apply backend.recorded s
  rw [ended] at delivered
  obtain ⟨asked, t, sent, received⟩ := submit_delivered unsent delivered
  rw [sent] at ended
  exact ⟨asked, _, ended, received⟩

/-- So does a run, whose input may be new. -/
theorem run_delivered {input : Bytes} {s : Session (Recorded δ)} (unsent : s.Unsent)
    (delivered : Delivered (run backend.recorded input s).2.exchanges request receipt written) :
    ∃ (payload : Payload) (t : Session (Recorded δ)),
      let c := { s.command with input := payload }
      request = c.request ∧ t.command = c.received receipt written ∧
      run backend.recorded input s = ((Status.ofWord receipt.returnWord).completion, t) := by
  by_cases empty : input.isEmpty = true
  · rw [run_eq, if_pos empty] at delivered ⊢
    obtain ⟨asked, t, ran, received⟩ := conclude_delivered unsent delivered
    exact ⟨s.command.input, t, asked, received, ran⟩
  · rw [run_eq, if_neg empty] at delivered ⊢
    have sized := setInput_apply none input.length s
    obtain ⟨payload₁, same₁⟩ := s.command.setInput_eq none input.length
    rw [same₁] at sized
    rcases first : (s.command.setInput none input.length).1 with e | _ <;> rw [first] at sized
    · rw [bind_error sized] at delivered
      exact absurd delivered unsent.not_delivered
    · rw [bind_ok sized] at delivered ⊢
      let c := { s.command with input := payload₁ }
      have filled := writeInput_apply input (s.withCommand c)
      obtain ⟨payload₂, same₂⟩ := c.writeInput_eq input
      rw [withCommand_command, same₂] at filled
      rcases second : (c.writeInput input).1 with e | count <;> rw [second] at filled
      · rw [bind_error filled] at delivered
        exact absurd delivered unsent.not_delivered
      · rw [bind_ok filled] at delivered ⊢
        have fresh : ((s.withCommand c).withCommand { c with input := payload₂ }).Unsent := unsent
        obtain ⟨asked, t, ran, received⟩ := conclude_delivered fresh delivered
        exact ⟨payload₂, t, asked, received, ran⟩

end Session

/-! ## Answers -/

/-- Begun with a command that satisfies `P`, and before anything was sent, the drive answers with
the outcome of the reply to its send. -/
def Answers {δ α : Type} (P : Command → Prop) (x : Drive (Recorded δ) α)
    (outcome : SendRequest → Receipt → Bytes → Except Error α) : Prop :=
  ∀ s : Session (Recorded δ), s.Unsent → P s.command → ∀ request receipt written,
    Delivered (x s).2.exchanges request receipt written →
      (x s).1 = outcome request receipt written

namespace Answers

open Effect Session

variable {δ α β : Type} {backend : Backend δ} {P Q : Command → Prop}

/-- A step that sends nothing, and after which `Q` holds, may come before. -/
theorem after {x : Drive (Recorded δ) α} {next : α → Drive (Recorded δ) β}
    {outcome : SendRequest → Receipt → Bytes → Except Error β} (unsent : Keeps Unsent x)
    (leads : ∀ s a t, P s.command → x s = (.ok a, t) → Q t.command)
    (rest : ∀ a, Answers Q (next a) outcome) : Answers P (x >>= next) outcome := by
  intro s fresh holds request receipt written delivered
  have kept := unsent s fresh
  rcases ran : x s with ⟨e | a, t⟩ <;> rw [ran] at kept
  · rw [bind_error ran] at delivered
    exact absurd delivered kept.not_delivered
  · rw [bind_ok ran] at delivered ⊢
    exact rest a t kept (leads s a t holds ran) request receipt written delivered

/-- A run answers with what the returned status says. -/
theorem run (input : Bytes) :
    Answers P (Session.run backend.recorded input) fun _ receipt _ =>
      (Status.ofWord receipt.returnWord).completion := by
  intro s fresh _ request receipt written delivered
  obtain ⟨payload, t, -, -, ran⟩ := run_delivered fresh delivered
  rw [ran]

/-- After a run, the answer of a silent rest is read off the command that the reply leaves. -/
theorem run_then (input : Bytes) {next : Completion → Drive (Recorded δ) β}
    {outcome : SendRequest → Receipt → Bytes → Except Error β} (silent : ∀ a, Silent (next a))
    (input_free : ∀ c payload, P c → P { c with input := payload })
    (failed : ∀ e request receipt written,
      (Status.ofWord receipt.returnWord).completion = .error e →
        outcome request receipt written = .error e)
    (read : ∀ c a receipt written t, P c →
      (Status.ofWord receipt.returnWord).completion = .ok a →
        t.command = c.received receipt written →
        (next a t).1 = outcome c.request receipt written) :
    Answers P (Session.run backend.recorded input >>= next) outcome := by
  intro s fresh holds request receipt written delivered
  have came : Delivered (Session.run backend.recorded input s).2.exchanges request receipt
      written := by
    rcases ran : Session.run backend.recorded input s with ⟨e | a, t⟩
    · rwa [bind_error ran] at delivered
    · rwa [bind_ok ran, silent a t] at delivered
  obtain ⟨payload, t, rfl, received, ran⟩ := run_delivered fresh came
  rcases ended : (Status.ofWord receipt.returnWord).completion with e | a <;> rw [ended] at ran
  · rw [bind_error ran, failed e _ receipt written ended]
  · rw [bind_ok ran]
    exact read _ a receipt written t (input_free _ payload holds) ended received

end Answers

/-! ## Answers that need a reply -/

/-- A send has come back. -/
def Session.Replied {δ : Type} (s : Session (Recorded δ)) : Prop :=
  ∃ request receipt written, Delivered s.exchanges request receipt written

/-- The drive has a result only after a send has come back. -/
def NeedsReply {δ α : Type} (x : Drive (Recorded δ) α) : Prop :=
  ∀ s a t, x s = (.ok a, t) → t.Replied

namespace NeedsReply

open Effect Session

variable {δ α β : Type} {backend : Backend δ} {x : Drive (Recorded δ) α}
  {next : α → Drive (Recorded δ) β}

theorem replied_of_silent (silent : Silent x) : Keeps Replied x := by
  intro s replied
  rwa [Replied, silent s]

/-- Any step may come before. -/
theorem after (x : Drive (Recorded δ) α) (rest : ∀ a, NeedsReply (next a)) :
    NeedsReply (x >>= next) := by
  intro s b t ran
  obtain ⟨a, u, -, second⟩ := bind_eq_ok_iff.mp ran
  exact rest a u b t second

/-- A step behind has only to keep the record. -/
theorem before (first : NeedsReply x) (kept : ∀ a, Keeps Replied (next a)) :
    NeedsReply (x >>= next) := by
  intro s b t ran
  obtain ⟨a, u, answered, second⟩ := bind_eq_ok_iff.mp ran
  have replied := kept a u (first s a u answered)
  rwa [second] at replied

theorem submit (backend : Backend δ) : NeedsReply (Session.submit backend.recorded) := by
  intro s status t ran
  rcases submit_exchanges backend s with
    ⟨e, -, refused⟩ | ⟨-, device, log, verdict, written, sent⟩
  · rw [refused] at ran
    cases ran
  · rw [sent] at ran
    rcases verdict with e | receipt <;> cases ran
    exact ⟨s.command.request, receipt, written, s.command.device, by simp [Session.exchanges]⟩

theorem conclude (backend : Backend δ) : NeedsReply (Session.conclude backend.recorded) := by
  intro s completion t ran
  obtain ⟨log, ended⟩ := conclude_apply backend.recorded s
  rw [ended] at ran
  rcases sent : Session.submit backend.recorded s with ⟨e | status, u⟩ <;> rw [sent] at ran
  · cases ran
  · obtain ⟨-, rfl⟩ := Prod.mk.inj ran
    exact submit backend s status u sent

theorem run (backend : Backend δ) (input : Bytes) :
    NeedsReply (Session.run backend.recorded input) := by
  rw [run_eq]
  split
  · exact conclude backend
  · exact after _ fun _ => after _ fun _ => conclude backend

/-- So it is with a command that is driven once. -/
theorem once (needs : NeedsReply x) {info : DeviceInfo} {world : World (Recorded δ)} {a : α}
    (answered : (x.once info world).1 = .ok a) :
    ∃ request receipt written,
      Delivered (x.once info world).2.device.exchanges request receipt written := by
  rw [once_apply] at answered ⊢
  exact needs _ a _ (Prod.ext answered rfl)

end NeedsReply

end CxlMailbox
