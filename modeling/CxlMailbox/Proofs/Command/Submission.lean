/-
# CxlMailbox.Proofs.Command.Submission — a submission is faithful, and can be repeated

A backend may answer a send with anything: a failure after it has written to the output, or a
receipt with any word and any size.

* `Status.StandsFor`: the status that a word is classified as gives the word back, so no two words
  share one, and only the specified codes have a constructor and a row in the table;
* `Command.Submitted`: what one submission makes of a command; the fields that the next request is
  made of stay, whatever the answer was;
* `performAll_submit`: so submissions one after the other send one request over and over, each with
  the whole output buffer, as the one before has left it (`Resent`).

`submit_faithful` has all of it for every command that a history leads to.
-/
import CxlMailbox.Proofs.Reply

namespace CxlMailbox

set_option autoImplicit false

variable {δ : Type}

/-! ## The status of a word -/

namespace Status

/-- The status stands for a return word, and the word for it: its code is the word, the specified
codes have constructors of their own, and every other code is kept in `unknown`. -/
structure StandsFor (status : Status) (word : UInt32) : Prop where
  ofCode : status = .ofCode word.toInt32
  toWord : status.code.toUInt32 = word
  /-- No other word has the status. -/
  unshared : ∀ other, ofWord other = status → other = word
  /-- No other status that is what its code is classified as has the word. -/
  unique : ∀ other : Status, other.Classified → other.toWord = word → other = status
  specified : (∀ code, status ≠ .unknown code) ↔ word.toNat < table.length
  entry : status.entry? = table[word.toNat]?
  success : status = .success ↔ word = 0
  started : status = .backgroundStarted ↔ word = 1
  failure : status.isFailure = true ↔ word ≠ 0 ∧ word ≠ 1

/-- The table ends before the word of a code that is not specified; that of a negative code has the
high bit. -/
theorem length_table_le {code : Int32} (unspecified : code < 0 ∨ 22 < code) :
    table.length ≤ code.toUInt32.toNat := by
  have size : table.length = 23 := by decide
  have signed : code.toInt = (code.toUInt32.toNat : Int).bmod UInt32.size :=
    toInt_code (.unknown code)
  have bound := code.toUInt32.toNat_lt
  simp only [Int32.lt_iff_toInt_lt, Int32.reduceToInt] at unspecified
  rw [Int.bmod_def, UInt32.size] at signed
  omega

/-- A status that has a constructor of its own has the table's row of its word, and the others have
words past the table's end. -/
theorem specified_iff {status : Status} (classified : status.Classified) :
    (∀ code, status ≠ .unknown code) ↔ status.toWord.toNat < table.length := by
  cases status with
  | unknown code =>
      have past := length_table_le classified
      exact ⟨fun other => absurd rfl (other code), fun inside => absurd inside (Nat.not_lt.mpr past)⟩
  | _ => exact ⟨fun _ => by decide, fun _ => nofun⟩

theorem entry_eq {status : Status} (classified : status.Classified) :
    status.entry? = table[status.toWord.toNat]? := by
  cases status with
  | unknown code => exact (List.getElem?_eq_none (length_table_le classified)).symm
  | _ => rfl

theorem ofWord_standsFor (word : UInt32) : (ofWord word).StandsFor word := by
  have classified : (ofWord word).Classified := classified_ofCode word.toInt32
  have toWord : (ofWord word).toWord = word := toWord_ofWord word
  exact
    { ofCode := rfl
      toWord
      unshared := fun other same => ofWord_inj.mp same
      unique := fun other own same => by rw [← ofWord_toWord own, same]
      specified := by rw [specified_iff classified, toWord]
      entry := by rw [entry_eq classified, toWord]
      success := show ofWord word = ofWord 0 ↔ word = 0 from ofWord_inj
      started := show ofWord word = ofWord 1 ↔ word = 1 from ofWord_inj
      failure := by simp [isFailure, isSuccess_ofWord, isBackgroundStarted_ofWord] }

end Status

/-! ## One submission -/

/-- The output size of a request is that of its buffer, if a word can count it. -/
theorem Command.request_outSize {c : Command} (small : c.output.bytes.length < UInt32.size) :
    c.request.outSize.toNat = c.output.bytes.length := by
  rw [request, SendRequest.ofBuffers, if_pos small, UInt32.toNat_ofNat_of_lt' small]

/-- What a submission makes of a command that was sent, given how the send ended and what it has
written. -/
structure Command.Submitted (c : Command) (verdict : Except Error Receipt) (written : Bytes)
    (answer : Except Error Status) (c' : Command) : Prop where
  device : c'.device = c.device
  resolution : c'.resolution = c.resolution
  catalog : c'.catalog = c.catalog
  index : c'.index? = c.index?
  id : c'.id = c.id
  rawOpcode : c'.rawOpcode = c.rawOpcode
  input : c'.input = c.input
  output : c'.output.bytes = overlay written c.output.bytes
  failed : ∀ e, verdict = .error e →
    answer = .error e ∧ c'.status = c.status ∧ c'.outSize = c.outSize
  returned : ∀ receipt, verdict = .ok receipt → ∃ status,
    answer = .ok status ∧ c'.status = some status ∧ status.StandsFor receipt.returnWord ∧
    c'.outSize = min receipt.outSize.toNat c.output.bytes.length ∧
    c'.result = (overlay written c.output.bytes).take c'.outSize

/-- A command that can be sent is submitted with what the backend replies. -/
theorem Session.submit_submitted (backend : Backend δ) {s : Session δ}
    (clear : s.command.sendFault? = none) :
    let reply := backend.send s.world.files s.command.device s.command.request s.world.device
    s.command.Submitted reply.verdict reply.written (submit backend s).1
        (submit backend s).2.command ∧
      (submit backend s).2.world.device = reply.device := by
  obtain ⟨log, ran⟩ := submit_sends backend clear
  simp only [ran]
  generalize backend.send s.world.files s.command.device s.command.request s.world.device = reply
  have output := s.command.withOutput_bytes reply.written
  rcases reply.verdict with e | receipt
  · refine ⟨{ device := rfl, resolution := rfl, catalog := rfl, index := rfl, id := rfl,
              rawOpcode := rfl, input := rfl, output, failed := ?_, returned := nofun }, rfl⟩
    rintro _ ⟨⟩
    exact ⟨rfl, rfl, rfl⟩
  · refine ⟨{ device := rfl, resolution := rfl, catalog := rfl, index := rfl, id := rfl,
              rawOpcode := rfl, input := rfl, output, failed := nofun, returned := ?_ }, rfl⟩
    rintro _ ⟨⟩
    have outSize := s.command.received_outSize receipt reply.written
    refine ⟨.ofWord receipt.returnWord, rfl, rfl, Status.ofWord_standsFor _, outSize, ?_⟩
    exact congrArg (List.take _) output

/-! ## Submissions in a row -/

/-- Sends in a row, from an output buffer to the one that the last of them leaves.  All have the
same id, opcode and input, and each gets the whole buffer as the one before has left it. -/
inductive Resent (info : DeviceInfo) (id : UInt32) (opcode : UInt16) (input : Bytes) :
    Bytes → List Exchange → Bytes → Prop
  | none (buffer : Bytes) : Resent info id opcode input buffer [] buffer
  | next {buffer after : Bytes} {request : SendRequest} {sent : List Exchange}
      (verdict : Except Error Receipt) (written : Bytes)
      (same : request.id = id ∧ request.rawOpcode = opcode ∧ request.input = input)
      (whole : request.output = buffer) (sized : request.outSize.toNat = buffer.length)
      (rest : Resent info id opcode input (overlay written buffer) sent after) :
      Resent info id opcode input buffer (.send info request verdict written :: sent) after

/-- However each of them ends, so many submissions send the command so many times. -/
theorem Operation.performAll_submit (backend : Backend δ) (count : Nat)
    {s : Session (Recorded δ)} (clear : s.command.sendFault? = none)
    (small : s.command.output.bytes.length < UInt32.size) :
    let c := s.command
    let t := performAll backend.recorded (List.replicate count .submit) s
    ∃ sent, t.exchanges = s.exchanges ++ sent ∧ sent.length = count ∧
      Resent c.device c.id c.rawOpcode c.input.bytes c.output.bytes sent
        t.command.output.bytes := by
  induction count generalizing s with
  | zero => exact ⟨[], (List.append_nil _).symm, rfl, .none _⟩
  | succ count ih =>
      intro c t
      let reply := backend.recorded.send s.world.files c.device c.request s.world.device
      let exchange : Exchange := .send c.device c.request reply.verdict reply.written
      let u := (submit.perform backend.recorded s).2
      have first : u = (Session.submit backend.recorded s).2 := by
        simp only [u, perform, Effect.bind_pure_apply]
      obtain ⟨submitted, device⟩ := Session.submit_submitted backend.recorded clear
      rw [← first] at submitted device
      have made : u.exchanges = s.exchanges ++ [exchange] := congrArg Recorded.exchanges device
      -- The next submission finds what this one has found, but for the content of the buffer.
      have clear' : u.command.sendFault? = none := by
        rw [Command.sendFault?_eq_none_iff, submitted.resolution]
        exact Command.sendFault?_eq_none_iff.mp clear
      have small' : u.command.output.bytes.length < UInt32.size := by
        rw [submitted.output, length_overlay]
        exact small
      obtain ⟨sent, later, length, rest⟩ := ih clear' small'
      rw [submitted.device, submitted.id, submitted.rawOpcode, submitted.input, submitted.output]
        at rest
      refine ⟨exchange :: sent, ?_, congrArg Nat.succ length, ?_⟩
      · calc t.exchanges = u.exchanges ++ sent := later
          _ = s.exchanges ++ exchange :: sent := by rw [made, List.append_assoc]; rfl
      · exact .next _ _ ⟨rfl, rfl, rfl⟩ rfl (Command.request_outSize small) rest

/-- **A submission is faithful, and can be repeated**: for every command that a history leads to and
that was found in its catalog, over every backend.  It answers and keeps what the reply says, and
submissions in a row send one request over and over. -/
theorem submit_faithful {backend : Backend δ} {info : DeviceInfo} {origin : Origin} {c : Command}
    (reach : Reachable backend info origin c) (found : c.resolution.isFound = true)
    (world : World δ) :
    let reply := backend.send world.files c.device c.request world.device
    let ran := Session.submit backend ⟨c, world⟩
    c.Submitted reply.verdict reply.written ran.1 ran.2.command ∧
    ∀ count,
      let after := Operation.performAll backend.recorded (List.replicate count .submit)
        (Session.recording ⟨c, world⟩)
      after.exchanges.length = count ∧
      Resent info c.id c.rawOpcode c.input.bytes c.output.bytes after.exchanges
        after.command.output.bytes := by
  intro reply ran
  have clear : c.sendFault? = none := Command.sendFault?_eq_none_iff.mpr found
  have coherent := reach.coherent
  refine ⟨(Session.submit_submitted backend (s := ⟨c, world⟩) clear).1, fun count => ?_⟩
  have small : c.output.bytes.length < UInt32.size :=
    Nat.lt_of_le_of_lt coherent.output_le info.payloadMax.toNat_lt
  obtain ⟨sent, made, length, resent⟩ :=
    Operation.performAll_submit backend count (s := Session.recording ⟨c, world⟩) clear small
  rw [Session.recording_exchanges, List.nil_append] at made
  rw [show (Session.recording ⟨c, world⟩).command.device = info from coherent.device] at resent
  simp only [made]
  exact ⟨length, resent⟩

/-- A reply whose word is all ones and whose size is beyond every buffer: the status is that of the
word, the output has the size of the buffer, and so have the outputs of three sends in a row. -/
theorem boundless_resubmitted :
    let ran := Session.submit Script.backend ⟨.boundless, .boundless⟩
    ran.1 = .ok (.unknown (-1)) ∧ ran.2.command.outSize = 16 ∧
      ran.2.command.result = 1 :: 2 :: 3 :: Bytes.zeros 13 ∧
      ∃ sent buffer, sent.length = 3 ∧
        Resent { payloadMax := 16 } CommandId.raw 0x0300 [] (Bytes.zeros 16) sent buffer := by
  intro ran
  have reach : Reachable Script.backend { payloadMax := 16 } (.raw 0x0300) .boundless :=
    .made .boundless rfl
  obtain ⟨submitted, resent⟩ := submit_faithful reach rfl .boundless
  obtain ⟨length, resent⟩ := resent 3
  obtain ⟨status, -, -, -, outSize, result⟩ := submitted.returned _ rfl
  refine ⟨rfl, outSize.trans ?_, result.trans ?_, _, _, length, resent⟩
  · decide +kernel
  · rw [outSize]
    decide +kernel

end CxlMailbox
