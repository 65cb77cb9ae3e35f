/-
# CxlMailbox.Proofs.Command.Payloads — payloads of a size of the caller's choice

Input and output are replaced in the same way: the size has to be in the device's range, then the
buffer, if there is one, has to have as many bytes (`Command.Replaces`).  Both setters do so by
one check, so what it says is proved once (`replaces_of_check`).

A buffer that is lent for the output leaves the caller's hands until the command is dropped or gets
another output.  `Command.lentBuffer` follows it through a history, and `Payload.Lends` says what
all operations keep of it: what is behind the payload is still as it was lent.

`payload_setters_exact` has both.
-/
import CxlMailbox.Proofs.Command.Allocation
import CxlMailbox.Proofs.Command.Step

namespace CxlMailbox

set_option autoImplicit false

variable {δ : Type}

/-! ## The setters -/

/-- The size is in the range of the device. -/
def Command.Fits (c : Command) (size : Int) : Prop :=
  0 ≤ size ∧ size ≤ c.device.payloadMax.toNat

/-- What the replacing of a payload comes to, answer and command.  The command with a payload in
place of the old one is `replaced`, and a command whose payload is not replaced is as it was. -/
structure Command.Replaces (c : Command) (direction : Direction) (buffer? : Option Bytes)
    (size : Int) (replaced : Payload → Command) (result : Except Error Unit × Command) : Prop where
  accepted_iff : result.1 = .ok () ↔ c.Fits size ∧ ∀ buffer ∈ buffer?, size ≤ buffer.length
  accepted : result.1 = .ok () → ∃ payload, result.2 = replaced payload ∧
    (payload.bytes.length : Int) = size ∧
    payload.bytes = (buffer?.map (·.take size.toNat)).getD (Bytes.zeros size.toNat) ∧
    payload.lender? = buffer?
  /-- The size is looked at first. -/
  unfit : ¬ c.Fits size → result = (.error (.payloadSize size c.device.payloadMax), c)
  short : c.Fits size → ∀ buffer ∈ buffer?, buffer.length < size →
    result = (.error (.invalidArgument
      (.shortPayloadBuffer direction buffer.length size.toNat)), c)

namespace Command

variable {c : Command} {direction : Direction} {buffer? : Option Bytes} {size : Int}

theorem checkSize_of_fits (fits : c.Fits size) : c.checkSize size = .ok size.toNat := by
  obtain ⟨positive, small⟩ := fits
  exact checkSize_eq_ok_iff.mpr ⟨by omega, by omega⟩

theorem checkSize_of_not_fits (unfit : ¬ c.Fits size) :
    c.checkSize size = .error (.payloadSize size c.device.payloadMax) := by
  unfold Fits at unfit
  rw [checkSize, if_pos (by omega)]

theorem checkPayload_of_not_fits (unfit : ¬ c.Fits size) :
    c.checkPayload direction buffer? size = .error (.payloadSize size c.device.payloadMax) := by
  simp only [checkPayload, checkSize_of_not_fits unfit]

theorem checkPayload_of_fits (fits : c.Fits size)
    (covers : ∀ buffer ∈ buffer?, size ≤ buffer.length) :
    c.checkPayload direction buffer? size = .ok (size.toNat, .make size.toNat buffer?) := by
  rcases buffer? with _ | buffer
  · simp only [checkPayload, checkSize_of_fits fits]
  · have covered : size.toNat ≤ buffer.length := by
      have covered := covers buffer rfl
      omega
    simp only [checkPayload, checkSize_of_fits fits, covered, if_true]

theorem checkPayload_of_short {buffer : Bytes} (fits : c.Fits size) (short : buffer.length < size) :
    c.checkPayload direction (some buffer) size =
      .error (.invalidArgument (.shortPayloadBuffer direction buffer.length size.toNat)) := by
  have uncovered : ¬ size.toNat ≤ buffer.length := by omega
  simp only [checkPayload, checkSize_of_fits fits, uncovered, if_false]

/-- A payload of an accepted size is the front of the buffer, or zeros. -/
theorem bytes_make_of_covers {n : Nat} (covers : ∀ buffer ∈ buffer?, n ≤ buffer.length) :
    (Payload.make n buffer?).bytes.length = n ∧
      (Payload.make n buffer?).bytes = (buffer?.map (·.take n)).getD (Bytes.zeros n) ∧
      (Payload.make n buffer?).lender? = buffer? := by
  rw [Payload.length_make]
  rcases buffer? with _ | buffer
  · exact ⟨rfl, rfl, rfl⟩
  · exact ⟨Nat.min_eq_left (covers buffer rfl), rfl, congrArg some (List.take_append_drop n buffer)⟩

/-- Whatever goes by the check, and keeps the command if it fails, replaces a payload. -/
theorem replaces_of_check {result : Except Error Unit × Command} {replaced : Payload → Command}
    (accept : ∀ payload, c.checkPayload direction buffer? size = .ok (size.toNat, payload) →
      result = (.ok (), replaced payload))
    (refuse : ∀ e, c.checkPayload direction buffer? size = .error e → result = (.error e, c)) :
    c.Replaces direction buffer? size replaced result := by
  have unfit (h : ¬ c.Fits size) := refuse _ (checkPayload_of_not_fits h)
  have short (fits : c.Fits size) (buffer : Bytes) (given : buffer ∈ buffer?)
      (less : buffer.length < size) :
      result = (.error (.invalidArgument
        (.shortPayloadBuffer direction buffer.length size.toNat)), c) := by
    obtain rfl : buffer? = some buffer := given
    exact refuse _ (checkPayload_of_short fits less)
  have fine : result.1 = .ok () → c.Fits size ∧ ∀ buffer ∈ buffer?, size ≤ buffer.length := by
    intro set
    have fits : c.Fits size := by
      by_contra outside
      rw [unfit outside] at set
      cases set
    refine ⟨fits, fun buffer given => ?_⟩
    by_contra less
    rw [short fits buffer given (by omega)] at set
    cases set
  refine ⟨⟨fine, ?_⟩, ?_, unfit, short⟩
  · rintro ⟨fits, covers⟩
    rw [accept _ (checkPayload_of_fits fits covers)]
  · intro set
    obtain ⟨fits, covers⟩ := fine set
    have whole : (size.toNat : Int) = size := Int.toNat_of_nonneg fits.1
    obtain ⟨long, front, lent⟩ := bytes_make_of_covers (n := size.toNat) fun buffer given => by
      have covered := covers buffer given
      omega
    rw [accept _ (checkPayload_of_fits fits covers)]
    exact ⟨_, rfl, by rw [long, whole], front, lent⟩

theorem setInput_replaces (c : Command) (buffer? : Option Bytes) (size : Int) :
    c.Replaces .input buffer? size (fun payload => { c with input := payload })
      (c.setInput buffer? size) :=
  replaces_of_check (fun _ checked => by simp only [setInput, checked])
    fun _ refused => by simp only [setInput, refused]

theorem setOutput_replaces (c : Command) (buffer? : Option Bytes) (size : Int) :
    c.Replaces .output buffer? size
      (fun payload => { c with output := payload, outSize := size.toNat })
      (c.setOutput buffer? size) :=
  replaces_of_check (fun _ checked => by simp only [setOutput, checked])
    fun _ refused => by simp only [setOutput, refused]

end Command

/-! ## A lent output -/

/-- If a buffer is lent for the payload, its first `n` bytes are, and those behind them are the same
as in `buffer`. -/
def Payload.Lends (payload : Payload) (n : Nat) (buffer : Bytes) : Prop :=
  ∀ window rest, payload = .lent window rest → window.length = n ∧ rest = buffer.drop n

namespace Payload.Lends

variable {payload : Payload} {n : Nat} {buffer : Bytes}

theorem of_unlent (unlent : payload.lender? = none) : payload.Lends n buffer := by
  rintro window rest rfl
  cases unlent

theorem of_lender (lent : payload.lender? = some buffer) (long : payload.bytes.length = n) :
    payload.Lends n buffer := by
  rintro window rest rfl
  obtain rfl : window ++ rest = buffer := Option.some.inj lent
  subst long
  exact ⟨rfl, List.drop_left.symm⟩

/-- Writing to the payload leaves the bytes behind it. -/
theorem withBytes (lends : payload.Lends n buffer) (content : Bytes) :
    (payload.withBytes content).Lends n buffer := by
  rintro window rest written
  rcases payload with _ | _ | ⟨window', rest'⟩ <;> cases written
  obtain ⟨long, rfl⟩ := lends window' rest rfl
  exact ⟨by rw [length_overlay, long], rfl⟩

/-- A lent buffer is as long as the one it was, and the same from byte `n` on. -/
theorem lender (lends : payload.Lends n buffer) (long : n ≤ buffer.length) {held : Bytes}
    (lent : payload.lender? = some held) :
    held.length = buffer.length ∧ held.drop n = buffer.drop n := by
  rcases payload with _ | _ | ⟨window, rest⟩ <;> cases lent
  obtain ⟨rfl, rfl⟩ := lends window rest rfl
  refine ⟨?_, List.drop_left⟩
  rw [List.length_append, List.length_drop]
  omega

end Payload.Lends

theorem Command.allocSend_lends {c : Command} {n : Nat} {buffer : Bytes}
    (lends : c.output.Lends n buffer) (id : UInt32) :
    (c.allocSend id).2.output.Lends n buffer := by
  rcases c.allocSend_output id with same | ⟨bytes, owned⟩
  · rw [same]
    exact lends
  · rw [owned]
    exact .of_unlent rfl

theorem Session.submit_lends (backend : Backend δ) {s : Session δ} {n : Nat} {buffer : Bytes}
    (lends : s.command.output.Lends n buffer) :
    (submit backend s).2.command.output.Lends n buffer := by
  rcases fault : s.command.sendFault? with _ | e
  · obtain ⟨log, ran⟩ := submit_sends backend fault
    rw [ran]
    generalize backend.send s.world.files s.command.device s.command.request s.world.device = reply
    rcases verdict : reply.verdict with e | receipt <;> simp only [verdict] <;>
      exact lends.withBytes _
  · rw [submit_refused fault]
    exact lends

/-- The operation, so answered, gives the command an output of the caller's choice. -/
def Operation.replacesOutput (op : Operation) (answer : Except Error Answer) : Bool :=
  match op, answer with
  | setOutput _ _, .ok _ => true
  | _, _ => false

/-- Every other operation leaves alone what is behind the payload. -/
theorem Operation.perform_lends (backend : Backend δ) (op : Operation) {s : Session δ} {n : Nat}
    {buffer : Bytes} (lends : s.command.output.Lends n buffer)
    (kept : op.replacesOutput (op.perform backend s).1 = false) :
    (op.perform backend s).2.command.output.Lends n buffer := by
  cases op <;> simp only [perform, Effect.bind_pure_apply] at kept ⊢
  case query =>
    obtain ⟨catalog, ran⟩ := Session.query_eq backend s
    rw [ran]
    exact lends
  case validate id =>
    obtain ⟨log, ran⟩ := Session.validate_apply id s
    obtain ⟨id', resolution, index?, same⟩ := s.command.validate_eq id
    rw [ran, same]
    exact lends
  case allocSend id => exact Command.allocSend_lends lends id
  case setInput buffer? size =>
    obtain ⟨input, same⟩ := s.command.setInput_eq buffer? size
    rw [Session.setInput_apply, same]
    exact lends
  case setOutput buffer? size =>
    rcases answered : (s.command.setOutput buffer? size).1 with e | a
    · rw [Session.setOutput_apply, Session.withCommand_command,
        s.command.setOutput_error answered]
      exact lends
    · rw [Session.setOutput_apply, answered] at kept
      cases kept
  case writeInput data =>
    obtain ⟨input, same⟩ := s.command.writeInput_eq data
    rw [Session.writeInput_apply, same]
    exact lends
  case submit => exact Session.submit_lends backend lends

namespace Command

/-- The buffer that was lent for the output, after a history.  Each operation finds a world of its
own.  The operation that gives the command another output gives the buffer back. -/
def lentBuffer (backend : Backend δ) (buffer : Bytes) :
    List (Operation × World δ) → Command → Bytes
  | [], _ => buffer
  | (op, world) :: later, c =>
      let ran := op.perform backend ⟨c, world⟩
      if op.replacesOutput ran.1 then buffer
      else lentBuffer backend (ran.2.command.output.lender?.getD buffer) later ran.2.command

/-- By induction on the history: each operation either gives the buffer back or lends it on. -/
theorem lentBuffer_kept (backend : Backend δ) {n : Nat} {buffer : Bytes}
    (history : List (Operation × World δ)) {c : Command} {held : Bytes}
    (lends : c.output.Lends n buffer) (long : n ≤ buffer.length)
    (kept : held.length = buffer.length ∧ held.drop n = buffer.drop n) :
    let after := lentBuffer backend held history c
    after.length = buffer.length ∧ after.drop n = buffer.drop n := by
  induction history generalizing c held with
  | nil => exact kept
  | cons step later ih =>
      obtain ⟨op, world⟩ := step
      rw [lentBuffer]
      split
      case isTrue => exact kept
      case isFalse replaces =>
        have lends' := op.perform_lends backend lends (Bool.eq_false_iff.mpr replaces)
        refine ih lends' ?_
        rcases lent : (op.perform backend ⟨c, world⟩).2.command.output.lender? with _ | held'
        · exact kept
        · exact lends'.lender long lent

end Command

/-- **The payload setters are exact.**  For every command, size and buffer they replace a payload or
leave the command as it was, and what is behind an output in a lent buffer is never changed,
whatever is done with the command. -/
theorem payload_setters_exact (backend : Backend δ) (c : Command) (buffer? : Option Bytes)
    (size : Int) :
    c.Replaces .input buffer? size (fun payload => { c with input := payload })
      (c.setInput buffer? size) ∧
    c.Replaces .output buffer? size
      (fun payload => { c with output := payload, outSize := size.toNat })
      (c.setOutput buffer? size) ∧
    ((c.setOutput buffer? size).1 = .ok () → ∀ buffer ∈ buffer?, ∀ history,
      let after := Command.lentBuffer backend buffer history (c.setOutput buffer? size).2
      after.length = buffer.length ∧ after.drop size.toNat = buffer.drop size.toNat) := by
  have output := c.setOutput_replaces buffer? size
  refine ⟨c.setInput_replaces buffer? size, output, ?_⟩
  intro set buffer given history
  obtain ⟨-, covers⟩ := output.accepted_iff.mp set
  obtain ⟨payload, replaced, long, -, lent⟩ := output.accepted set
  have whole : payload.bytes.length = size.toNat := by omega
  have lends : (c.setOutput buffer? size).2.output.Lends size.toNat buffer := by
    rw [replaced]
    exact .of_lender (lent.trans given) whole
  have inside : size.toNat ≤ buffer.length := by
    have covered := covers buffer given
    omega
  exact Command.lentBuffer_kept backend history lends inside ⟨rfl, rfl⟩

end CxlMailbox
