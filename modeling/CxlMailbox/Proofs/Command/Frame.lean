/-
# CxlMailbox.Proofs.Command.Frame — which fields an operation changes

One statement for each operation of a command says which fields it can change; all others are as
they were, whether it succeeds or fails.  The sizes that payloads are given are here, too.
-/
import CxlMailbox.Command

namespace CxlMailbox

set_option autoImplicit false

/-! ## Payload sizes -/

namespace Payload

theorem length_make (n : Nat) (buffer? : Option Bytes) :
    (make n buffer?).bytes.length = (buffer?.map fun buffer => min n buffer.length).getD n := by
  cases buffer? <;> simp [make, bytes]

end Payload

namespace Command

theorem checkSize_eq_ok_iff {c : Command} {size : Int} {n : Nat} :
    c.checkSize size = .ok n ↔ (n : Int) = size ∧ n ≤ c.device.payloadMax.toNat := by
  unfold checkSize
  split
  · simp only [reduceCtorEq, false_iff]
    omega
  · simp only [Except.ok.injEq]
    omega

/-- An accepted payload has the accepted size. -/
theorem checkPayload_ok {c : Command} {direction : Direction} {buffer? : Option Bytes}
    {size : Int} {n : Nat} {payload : Payload}
    (accepted : c.checkPayload direction buffer? size = .ok (n, payload)) :
    (n : Int) = size ∧ n ≤ c.device.payloadMax.toNat ∧ payload = .make n buffer? ∧
      payload.bytes.length = n := by
  unfold checkPayload at accepted
  rcases sized : c.checkSize size with e | m
  · simp [sized] at accepted
  · obtain ⟨same, fits⟩ := checkSize_eq_ok_iff.mp sized
    rcases buffer? with _ | buffer
    · simp only [sized, Except.ok.injEq, Prod.mk.injEq] at accepted
      obtain ⟨rfl, rfl⟩ := accepted
      exact ⟨same, fits, rfl, by simp [Payload.length_make]⟩
    · by_cases long : m ≤ buffer.length
      · simp only [sized, long, if_true, Except.ok.injEq, Prod.mk.injEq] at accepted
        obtain ⟨rfl, rfl⟩ := accepted
        exact ⟨same, fits, rfl, by simp [Payload.length_make, long]⟩
      · simp [sized, long] at accepted

/-! ## Payloads of a size that fits, and of one that does not -/

theorem checkSize_of_le {c : Command} {n : Nat} (fits : n ≤ c.device.payloadMax.toNat) :
    c.checkSize n = .ok n :=
  checkSize_eq_ok_iff.mpr ⟨rfl, fits⟩

theorem checkSize_of_lt {c : Command} {n : Nat} (exceeds : c.device.payloadMax.toNat < n) :
    c.checkSize n = .error (.payloadSize n c.device.payloadMax) := by
  unfold checkSize
  rw [if_pos (by omega)]

theorem setInput_none_of_le {c : Command} {n : Nat} (fits : n ≤ c.device.payloadMax.toNat) :
    c.setInput none n = (.ok (), { c with input := .owned (Bytes.zeros n) }) := by
  simp [setInput, checkPayload, checkSize_of_le fits, Payload.make]

theorem setInput_none_of_lt {c : Command} {n : Nat} (exceeds : c.device.payloadMax.toNat < n) :
    c.setInput none n = (.error (.payloadSize n c.device.payloadMax), c) := by
  simp [setInput, checkPayload, checkSize_of_lt exceeds]

theorem setOutput_of_le {c : Command} {buffer? : Option Bytes} {n : Nat}
    (fits : n ≤ c.device.payloadMax.toNat) (room : ∀ buffer ∈ buffer?, n ≤ buffer.length) :
    c.setOutput buffer? n = (.ok (), { c with output := .make n buffer?, outSize := n }) := by
  cases buffer? with
  | none => simp [setOutput, checkPayload, checkSize_of_le fits]
  | some buffer => simp [setOutput, checkPayload, checkSize_of_le fits, room buffer rfl]

theorem setOutput_of_lt {c : Command} {buffer? : Option Bytes} {n : Nat}
    (exceeds : c.device.payloadMax.toNat < n) :
    c.setOutput buffer? n = (.error (.payloadSize n c.device.payloadMax), c) := by
  simp [setOutput, checkPayload, checkSize_of_lt exceeds]

theorem writeInput_owned {c : Command} {bytes : Bytes} (owned : c.input = .owned bytes)
    (data : Bytes) :
    c.writeInput data =
      (.ok (min data.length bytes.length), { c with input := .owned (overlay data bytes) }) := by
  simp [writeInput, owned, Payload.bytes, Payload.withBytes]

/-! ## Fields -/

variable (c : Command)

/-- A look-up changes only a command that is not resolved. -/
theorem validate_resolved {c : Command} (resolved : c.resolution ≠ .notRun) (id : UInt32) :
    (c.validate id).2 = c := by
  rcases at_ : c.resolution with _ | _ | _
  · exact absurd at_ resolved
  · simp only [validate, at_]
    split <;> rfl
  · simp only [validate, at_]

/-- A look-up changes the id, the resolution and the index. -/
theorem validate_eq (id : UInt32) :
    ∃ id' resolution index?, (c.validate id).2 = { c with id := id', resolution, index? } := by
  have same : ∃ id' resolution index?, c = { c with id := id', resolution, index? } :=
    ⟨c.id, c.resolution, c.index?, rfl⟩
  unfold validate
  split
  · exact same
  · split <;> exact same
  · split
    · exact same
    · split <;> exact ⟨_, _, _, rfl⟩

/-- Allocating changes the payloads and the output size. -/
theorem allocSend_eq (id : UInt32) :
    ∃ input output outSize, (c.allocSend id).2 = { c with input, output, outSize } := by
  have same : ∃ input output outSize, c = { c with input, output, outSize } :=
    ⟨c.input, c.output, c.outSize, rfl⟩
  unfold allocSend
  split
  · exact same
  · split
    · exact same
    · unfold allocInput allocOutput
      grind

theorem setInput_eq (buffer? : Option Bytes) (size : Int) :
    ∃ input, (c.setInput buffer? size).2 = { c with input } := by
  unfold setInput
  split
  · exact ⟨_, rfl⟩
  · exact ⟨c.input, rfl⟩

theorem setOutput_eq (buffer? : Option Bytes) (size : Int) :
    ∃ output outSize, (c.setOutput buffer? size).2 = { c with output, outSize } := by
  unfold setOutput
  split
  · exact ⟨_, _, rfl⟩
  · exact ⟨c.output, c.outSize, rfl⟩

theorem setOutput_error {buffer? : Option Bytes} {size : Int} {e : Error}
    (refused : (c.setOutput buffer? size).1 = .error e) : (c.setOutput buffer? size).2 = c := by
  unfold setOutput at refused ⊢
  split
  · simp_all
  · rfl

theorem writeInput_eq (data : Bytes) : ∃ input, (c.writeInput data).2 = { c with input } := by
  unfold writeInput
  split
  · exact ⟨c.input, rfl⟩
  · exact ⟨_, rfl⟩

end Command

end CxlMailbox
