/-
# CxlMailbox.Proofs.Labels.OneSend — a label call is checked, sends once, and succeeds completely

Whatever the backend, a label call goes one of three ways.

* Its range is not in the label area, or its buffer does not cover the range: it is refused, and
  the backend is not asked anything.
* The command cannot be made, or its payloads do not fit the device: it fails after catalog queries
  alone (`drive_unprepared`, `drive_oversized`).
* Otherwise it sends once, after those queries (`drive_sends`).  The request is `Asks`, to the byte
  (`readied_asks`), and the call succeeds exactly if the reply is `Complete` (`verdict_received`).

`label_call_sends_once` puts them together.
-/
import CxlMailbox.Proofs.Inquiry.Outcome
import CxlMailbox.Proofs.Labels.Refinement

namespace CxlMailbox

set_option autoImplicit false

namespace LabelCall

open Effect Session

variable {δ : Type} {n : Nat}

/-! ## What a call asks for -/

/-- The id of the command that a call sends. -/
def commandId : LabelCall → UInt32
  | read .. => CommandId.getLabels
  | write .. | zero .. => CommandId.setLabels

/-- The range of a call starts inside an area of so many bytes, where its length is left open, and
ends inside it. -/
def InArea (area : Nat) (call : LabelCall) : Prop :=
  (call.length ≠ 0 ∨ call.offset.toNat < area) ∧ call.offset.toNat + call.span area ≤ area

instance (area : Nat) (call : LabelCall) : Decidable (call.InArea area) :=
  inferInstanceAs (Decidable (_ ∧ _))

/-- The input of a call on a range of `n` bytes, as it is sent. -/
def sentInput (n : Nat) : LabelCall → Bytes
  | read _ offset _ => littleEndian 4 offset.toNat ++ littleEndian 4 n
  | write data offset _ => littleEndian 4 offset.toNat ++ Bytes.zeros 4 ++ data.take n
  | zero offset _ => littleEndian 4 offset.toNat ++ Bytes.zeros 4 ++ Bytes.zeros n

/-- How many bytes of input that is: a header, and behind that of a write the data. -/
def sentLength (n : Nat) : LabelCall → Nat
  | read .. => 8
  | write .. | zero .. => 8 + n

/-- The request of a call on a range of `n` bytes, to the byte.  Only a read has room for output:
the front of the caller's buffer. -/
structure Asks (n : Nat) (call : LabelCall) (request : SendRequest) : Prop where
  id : request.id = call.commandId
  rawOpcode : request.rawOpcode = 0
  input : request.input = call.sentInput n
  length_input : request.input.length = call.sentLength n
  output : ∀ buffer offset length, call = .read buffer offset length →
    request.output = buffer.take n ∧ request.output.length = n

/-- The device has completed the command, and a read has all its bytes. -/
def Complete (n : Nat) (receipt : Receipt) : LabelCall → Prop
  | read .. => receipt.returnWord = 0 ∧ n ≤ receipt.outSize.toNat
  | write .. | zero .. => receipt.returnWord = 0

/-- The exchanges of an accepted call on a range of `n` bytes, and its answer, given how the making
of its command has ended.  There are catalog queries alone, unless the command was made and its
payloads fit the device; then one send is behind them, that of the call, and its reply decides how
the call ends. -/
def SendsOnce (info : DeviceInfo) (n : Nat) (call : LabelCall) (made answer : Except Error Unit)
    (exchanges : List Exchange) : Prop :=
  let ready := made = .ok () ∧ call.Fits info.payloadMax.toNat n
  ∃ queries, (∀ exchange ∈ queries, exchange.isSend = false) ∧
    ((¬ ready ∧ exchanges = queries ∧ ∃ e, answer = .error e) ∨
      ready ∧ ∃ request verdict written,
        exchanges = queries ++ [.send info request verdict written] ∧
        call.Asks n request ∧
        (answer = .ok () ↔ ∃ receipt, verdict = .ok receipt ∧ call.Complete n receipt))

/-! ## The check -/

theorem resolveLength_eq_ok_iff_inArea {info : DeviceInfo} {call : LabelCall} :
    Labels.resolveLength info call.offset call.length = .ok n ↔
      call.InArea info.labelAreaSize.toNat ∧ n = call.span info.labelAreaSize.toNat := by
  rw [Labels.resolveLength_eq_ok_iff, InArea, UInt32.lt_iff_toNat_lt]
  constructor
  · rintro ⟨start, rfl, ends⟩
    exact ⟨⟨start, ends⟩, rfl⟩
  · rintro ⟨⟨start, ends⟩, rfl⟩
    exact ⟨start, rfl, ends⟩

/-- A length that fits an area is a word. -/
theorem InArea.small {info : DeviceInfo} {call : LabelCall}
    (inside : call.InArea info.labelAreaSize.toNat) :
    call.span info.labelAreaSize.toNat < UInt32.size :=
  Nat.lt_of_le_of_lt (Nat.le_trans (Nat.le_add_left _ _) inside.2) info.labelAreaSize.toNat_lt

/-! ## The send -/

/-- The command of a call with its payloads, ready to be sent. -/
def readied (c : Command) (n : Nat) : LabelCall → Command
  | read buffer offset _ => Labels.forRead c buffer offset n
  | write data offset _ => Labels.forWrite c (data.take n) offset n
  | zero offset _ => Labels.forWrite c [] offset n

/-- How a call ends whose command has come back. -/
def verdict (n : Nat) (c : Command) : LabelCall → Except Error Unit
  | read .. => Labels.readVerdict n c
  | write .. | zero .. => Labels.successVerdict c

theorem length_sentInput {call : LabelCall} (covers : call.Covers n) :
    (call.sentInput n).length = call.sentLength n := by
  cases call with
  | read buffer offset length => simp [sentInput, sentLength]
  | write data offset length =>
      have taken : (data.take n).length = n := List.length_take_of_le covers
      simp only [sentInput, sentLength, List.length_append, length_littleEndian,
        Bytes.length_zeros, taken]
  | zero offset length =>
      simp only [sentInput, sentLength, List.length_append, length_littleEndian,
        Bytes.length_zeros]

/-- Whatever input the command had before, it is replaced as a whole. -/
theorem readied_input (c : Command) {call : LabelCall} (covers : call.Covers n)
    (small : n < UInt32.size) : (call.readied c n).request.input = call.sentInput n := by
  cases call with
  | read buffer offset length =>
      change le32 offset ++ le32 (UInt32.ofNat n) = _
      rw [le32, le32, toNat_wordOf small, sentInput]
  | write data offset length =>
      have taken : (data.take n).length = n := List.length_take_of_le covers
      have whole : overlay (data.take n) (Bytes.zeros n) = data.take n :=
        overlay_of_length_eq (by rw [taken, Bytes.length_zeros])
      change overlay (Labels.writeInput offset (data.take n)) _ = _
      rw [Labels.writeInput_overlay offset (Nat.le_of_eq taken), whole, le32, sentInput,
        List.append_assoc]
  | zero offset length =>
      change overlay (Labels.writeInput offset []) _ = _
      rw [Labels.writeInput_overlay offset (Nat.zero_le n), overlay_nil, le32, sentInput,
        List.append_assoc]

/-- A command that was made for a call asks for what the call does. -/
theorem readied_asks {c : Command} {call : LabelCall} (id : c.id = call.commandId)
    (opcode : c.rawOpcode = 0) (covers : call.Covers n) (small : n < UInt32.size) :
    call.Asks n (call.readied c n).request where
  id := by cases call <;> exact id
  rawOpcode := by cases call <;> exact opcode
  input := readied_input c covers small
  length_input := by rw [readied_input c covers small, length_sentInput covers]
  output := by
    rintro buffer offset length rfl
    exact ⟨rfl, List.length_take_of_le covers⟩

/-- The reply decides how a call ends. -/
theorem verdict_received {c : Command} {call : LabelCall} (covers : call.Covers n)
    (receipt : Receipt) (written : Bytes) :
    call.verdict n ((call.readied c n).received receipt written) = .ok () ↔
      call.Complete n receipt := by
  have succeeded := Labels.successVerdict_received (call.readied c n) receipt written
  simp only [Labels.replyVerdict, Option.elim_none] at succeeded
  cases call with
  | write data offset length | zero offset length =>
      simp only [verdict, succeeded, Complete]
      split <;> simp_all
  | read buffer offset length =>
      have window : (((read buffer offset length).readied c n).request.output).length = n :=
        List.length_take_of_le covers
      have reported := Command.received_outSize ((read buffer offset length).readied c n) receipt
        written
      rw [window] at reported
      by_cases zero : receipt.returnWord = 0
      · rw [if_pos zero] at succeeded
        rw [verdict, Labels.readVerdict_of_ok succeeded, reported, Complete]
        by_cases short : receipt.outSize.toNat < n
        · rw [if_pos (by omega)]
          simp [Nat.not_le.mpr short]
        · rw [if_neg (by omega)]
          simp [zero, Nat.not_lt.mp short]
      · rw [if_neg zero] at succeeded
        simp [verdict, Labels.readVerdict_of_error succeeded, Complete, zero]

/-! ## The drive of a call -/

section Drive

variable {backend : Backend δ} {call : LabelCall} {s t : Session δ}

/-- A command that cannot be made ends the call. -/
theorem drive_unprepared {e : Error} (failed : prepare backend call.commandId s = (.error e, t)) :
    call.drive backend n s = (.error e, t) := by
  cases call <;> exact bind_error failed _

/-- Payloads that do not fit the device end the call. -/
theorem drive_oversized (made : prepare backend call.commandId s = (.ok (), t))
    (exceeds : ¬ call.Fits t.command.device.payloadMax.toNat n) :
    ∃ e c, call.drive backend n s = (.error e, t.withCommand c) := by
  cases call with
  | read buffer offset length =>
      have too_small : t.command.device.payloadMax.toNat < Labels.headerSize ∨
          t.command.device.payloadMax.toNat < n := by
        simp only [Fits] at exceeds
        omega
      obtain ⟨e, input, ran⟩ := Labels.fetch_oversized backend buffer offset made too_small
      exact ⟨e, _, ran⟩
  | write data offset length =>
      obtain ⟨e, ran⟩ := Labels.store_oversized backend (data.take n) offset made
        (Nat.lt_of_not_le exceeds)
      exact ⟨e, t.command, ran⟩
  | zero offset length =>
      obtain ⟨e, ran⟩ := Labels.store_oversized backend [] offset made (Nat.lt_of_not_le exceeds)
      exact ⟨e, t.command, ran⟩

/-- Any other call is one send. -/
theorem drive_sends (made : prepare backend call.commandId s = (.ok (), t))
    (covers : call.Covers n) (fits : call.Fits t.command.device.payloadMax.toNat n) :
    ∃ log, call.drive backend n s =
      let sent := submit backend (t.withCommand (call.readied t.command n))
      (sent.1.bind fun _ => call.verdict n sent.2.command,
        sent.2.moved sent.2.world.device log) := by
  cases call with
  | read buffer offset length => exact Labels.fetch_sends backend offset made fits.1 fits.2 covers
  | write data offset length => exact Labels.store_sends backend _ offset made fits
  | zero offset length => exact Labels.store_sends backend [] offset made fits

end Drive

/-- The exchange of a call whose command was made, and whose payloads fit the device. -/
theorem drive_made {backend : Backend δ} {call : LabelCall} {info : DeviceInfo}
    {s t : Session (Recorded δ)}
    (made : prepare backend.recorded call.commandId s = (.ok (), t))
    (coherent : t.command.Coherent info 0) (covers : call.Covers n) (small : n < UInt32.size)
    (fits : call.Fits t.command.device.payloadMax.toNat n) :
    let ran := call.drive backend.recorded n s
    ∃ request verdict written,
      ran.2.exchanges = t.exchanges ++ [.send info request verdict written] ∧
      call.Asks n request ∧
      (ran.1 = .ok () ↔ ∃ receipt, verdict = .ok receipt ∧ call.Complete n receipt) := by
  have found := prepare_ok (congrArg Prod.fst made)
  rw [made] at found
  have clear : (call.readied t.command n).sendFault? = none := by
    cases call <;> exact Command.sendFault?_eq_none_iff.mpr found.2
  have device : (call.readied t.command n).device = info := by
    cases call <;> exact coherent.device
  obtain ⟨log, ended⟩ := drive_sends made covers fits
  rcases submit_exchanges backend (t.withCommand (call.readied t.command n)) with
    ⟨e, fault, -⟩ | ⟨-, state, log', verdict, written, sent⟩
  · rw [withCommand_command, clear] at fault
    cases fault
  · rw [sent, withCommand_command, device] at ended
    simp only [ended]
    refine ⟨(call.readied t.command n).request, verdict, written, ?_,
      readied_asks found.1 coherent.rawOpcode covers small, ?_⟩
    · cases verdict <;> rfl
    · cases verdict with
      | error e => simp [Except.bind]
      | ok receipt =>
          simp only [Except.ok.injEq, exists_eq_left']
          exact verdict_received covers receipt written

/-- An accepted call sends once, or it fails before. -/
theorem drive_sendsOnce (backend : Backend δ) {call : LabelCall} (covers : call.Covers n)
    (small : n < UInt32.size) (info : DeviceInfo) {world : World (Recorded δ)}
    (fresh : world.device.exchanges = []) :
    let s : Session (Recorded δ) := ⟨.unvalidated info, world⟩
    let ran := call.drive backend.recorded n s
    call.SendsOnce info n (prepare backend.recorded call.commandId s).1 ran.1 ran.2.exchanges := by
  intro s ran
  have unsent : s.Unsent := by simp [Unsent, Session.exchanges, s, fresh]
  have queried := prepare_unsent backend call.commandId s unsent
  have coherent : (prepare backend.recorded call.commandId s).2.command.Coherent info 0 :=
    prepare_keeps (fun _ _ step coherent => coherent.step step) _ s (.unvalidated info)
  rcases made : prepare backend.recorded call.commandId s with ⟨e | _, t⟩ <;>
    rw [made] at queried coherent
  case error =>
    have ended : ran = (.error e, t) := drive_unprepared made
    rw [ended]
    refine ⟨t.exchanges, queried, .inl ⟨?_, rfl, e, rfl⟩⟩
    rintro ⟨made, -⟩
    cases made
  by_cases fits : call.Fits info.payloadMax.toNat n
  · have fits' : call.Fits t.command.device.payloadMax.toNat n := by rwa [coherent.device]
    exact ⟨t.exchanges, queried,
      .inr ⟨⟨rfl, fits⟩, drive_made made coherent covers small fits'⟩⟩
  · have exceeds : ¬ call.Fits t.command.device.payloadMax.toNat n := by rwa [coherent.device]
    obtain ⟨e, c, ended⟩ := drive_oversized made exceeds
    have ended : ran = (.error e, t.withCommand c) := ended
    rw [ended]
    exact ⟨t.exchanges, queried, .inl ⟨fun ready => fits ready.2, rfl, e, rfl⟩⟩

end LabelCall

/-- **A label call is checked first, sends at most once, and succeeds only when it is complete**,
over every backend and for every buffer, offset and length.  What it sends is exact to the byte.
The command is made in a world whose log has one more line, the announcement of the call. -/
theorem label_call_sends_once {δ : Type} (backend : Backend δ) (info : DeviceInfo)
    (call : LabelCall) (world : World δ) :
    let area := info.labelAreaSize.toNat
    let n := call.span area
    let answer := (call.perform backend info world).1.1
    let exchanges :=
      (call.perform backend.recorded info world.recording).2.device.exchanges
    (¬ (call.InArea area ∧ call.Covers n) →
      (∃ fault, answer = .error (.invalidArgument fault)) ∧ exchanges = []) ∧
    (call.InArea area ∧ call.Covers n → ∃ log,
      let made := Session.prepare backend call.commandId ⟨.unvalidated info, { world with log }⟩
      call.SendsOnce info n made.1 answer exchanges) := by
  intro area n answer exchanges
  have same : answer = (call.perform backend.recorded info world.recording).1.1 :=
    congrArg (fun result => result.1.1)
      (call.perform_follows backend.recorded_follows info world.recording)
  refine ⟨fun outside => ?_, fun ⟨inside, covers⟩ => ?_⟩
  · have refused : ∀ m, Labels.resolveLength info call.offset call.length = .ok m →
        ¬ call.Covers m := by
      intro m resolved covers
      obtain ⟨inside, rfl⟩ := LabelCall.resolveLength_eq_ok_iff_inArea.mp resolved
      exact outside ⟨inside, covers⟩
    obtain ⟨fault, log, ran⟩ :=
      LabelCall.perform_refused backend.recorded refused world.recording
    rw [same]
    simp only [exchanges, ran]
    exact ⟨⟨fault, rfl⟩, rfl⟩
  · obtain ⟨log, ran⟩ := LabelCall.perform_driven backend.recorded
      (LabelCall.resolveLength_eq_ok_iff_inArea.mpr ⟨inside, rfl⟩) covers world.recording
    have made := (Session.prepare_follows backend.recorded_follows call.commandId).answer_recording
      ⟨.unvalidated info, { world with log }⟩
    refine ⟨log, ?_⟩
    simp only [same, exchanges, ran, made.1]
    exact LabelCall.drive_sendsOnce backend covers inside.small info rfl

/-- A read of two bytes that come is one send behind the queries, and a call that starts at the end
of the area asks nobody. -/
theorem two_label_bytes_read :
    let info : DeviceInfo := { payloadMax := 16, labelAreaSize := 4 }
    let world := World.replying [5, 6] 0
    let call := LabelCall.read [7, 7] 2 0
    (∃ queries request receipt written,
      (call.perform Script.backend.recorded info world.recording).2.device.exchanges =
        queries ++ [.send info request (.ok receipt) written] ∧
      (∀ exchange ∈ queries, exchange.isSend = false) ∧
      call.Asks 2 request ∧ call.Complete 2 receipt) ∧
    ((LabelCall.zero 4 0).perform Script.backend.recorded info
      world.recording).2.device.exchanges = [] := by
  intro info world call
  have succeeded : (call.perform Script.backend info world).1.1 = .ok () := rfl
  obtain ⟨log, queries, queried,
      ⟨-, -, e, failed⟩ | ⟨-, request, verdict, written, made, asks, success⟩⟩ :=
    (label_call_sends_once Script.backend info call world).2 ⟨by decide, by decide⟩
  · rw [succeeded] at failed
    cases failed
  · obtain ⟨receipt, rfl, complete⟩ := success.mp succeeded
    exact ⟨⟨queries, request, receipt, written, made, queried, asks, complete⟩,
      ((label_call_sends_once Script.backend info (.zero 4 0) world).1 (by decide)).2⟩

end CxlMailbox
