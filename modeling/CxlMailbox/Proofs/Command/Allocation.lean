/-
# CxlMailbox.Proofs.Command.Allocation — what a failed allocation leaves

An allocation gives a command two payloads, one after the other, and each declared size has to fit
the device.  The input is in its place before the output is looked at, and nothing takes it out
again when the output does not fit.

* `allocInput_of_le`, `allocInput_of_lt` and their kin for the output: each half either gives the
  command the payload that is declared (`withDeclaredInput`, `withDeclaredOutput`) or changes
  nothing;
* `allocSend_of_le` and `allocSend_eq_error_iff`: the one way to succeed and the four ways to fail,
  each with the command that it leaves;
* `failed_allocation_keeps`: a failure leaves the session as it was, unless a declared input was
  made and the output was too large, and then all but the input.

A command that loses the caller's input in this way is `failed_allocation_drops_input`.
-/
import CxlMailbox.Proofs.Command.Frame
import CxlMailbox.Proofs.Command.Step
import CxlMailbox.Script
import Mathlib.Control.Monad.Basic

namespace CxlMailbox

set_option autoImplicit false

variable {δ : Type}

namespace Command

variable {c : Command} {entry : CatalogEntry} {id : UInt32}

/-! ## The input -/

/-- The command with an input of the declared size; none is made for a size that is not positive. -/
def withDeclaredInput (c : Command) (entry : CatalogEntry) : Command :=
  if 0 < entry.sizeIn.toInt then { c with input := .make entry.sizeIn.toInt.toNat none } else c

theorem withDeclaredInput_of_pos (some_ : 0 < entry.sizeIn.toInt) :
    c.withDeclaredInput entry = { c with input := .owned (Bytes.zeros entry.sizeIn.toInt.toNat) } :=
  if_pos some_

theorem withDeclaredInput_of_nonpos (none_ : entry.sizeIn.toInt ≤ 0) :
    c.withDeclaredInput entry = c :=
  if_neg (by omega)

/-- Whether it is made or not, the input is all that can differ. -/
theorem withDeclaredInput_eq (c : Command) (entry : CatalogEntry) :
    c.withDeclaredInput entry = { c with input := (c.withDeclaredInput entry).input } := by
  unfold withDeclaredInput
  split <;> rfl

theorem withDeclaredInput_device (c : Command) (entry : CatalogEntry) :
    (c.withDeclaredInput entry).device = c.device := by
  rw [withDeclaredInput_eq]

/-- An input that fits is made. -/
theorem allocInput_of_le (fits : entry.sizeIn.toInt ≤ c.device.payloadMax.toNat) :
    c.allocInput entry = (.ok (), c.withDeclaredInput entry) := by
  have positive : 0 < entry.sizeIn ↔ 0 < entry.sizeIn.toInt := Int32.lt_iff_toInt_lt
  unfold allocInput withDeclaredInput
  by_cases some_ : 0 < entry.sizeIn.toInt
  · have accepted : c.checkSize entry.sizeIn.toInt = .ok entry.sizeIn.toInt.toNat := by
      rw [checkSize_eq_ok_iff]
      omega
    rw [if_pos (positive.mpr some_), if_pos some_, accepted]
  · rw [if_neg (mt positive.mp some_), if_neg some_]

/-- An input that does not is refused. -/
theorem allocInput_of_lt (exceeds : (c.device.payloadMax.toNat : Int) < entry.sizeIn.toInt) :
    c.allocInput entry = (.error (.payloadSize entry.sizeIn.toInt c.device.payloadMax), c) := by
  have declared : 0 < entry.sizeIn := Int32.lt_iff_toInt_lt.mpr (by
    show (0 : Int) < entry.sizeIn.toInt
    omega)
  have refused : c.checkSize entry.sizeIn.toInt =
      .error (.payloadSize entry.sizeIn.toInt c.device.payloadMax) := if_pos (.inr exceeds)
  rw [allocInput, if_pos declared, refused]

/-! ## The output -/

/-- The command with an output of the declared size; none is made for size zero. -/
def withDeclaredOutput (c : Command) (entry : CatalogEntry) : Command :=
  let n := (c.declaredOutput entry).toNat
  if 0 < n then { c with output := .make n none, outSize := n } else c

theorem withDeclaredOutput_eq (c : Command) (entry : CatalogEntry) :
    c.withDeclaredOutput entry =
      { c with
        output := (c.withDeclaredOutput entry).output
        outSize := (c.withDeclaredOutput entry).outSize } := by
  dsimp only [withDeclaredOutput]
  split <;> rfl

/-- A negative size is the largest one that fits, every other is what it says. -/
theorem declaredOutput_cases (c : Command) (entry : CatalogEntry) :
    (entry.sizeOut.toInt < 0 ∧ c.declaredOutput entry = c.device.payloadMax.toNat) ∨
      (0 ≤ entry.sizeOut.toInt ∧ c.declaredOutput entry = entry.sizeOut.toInt) := by
  have negative : entry.sizeOut < 0 ↔ entry.sizeOut.toInt < 0 := Int32.lt_iff_toInt_lt
  unfold declaredOutput
  by_cases variable_ : entry.sizeOut.toInt < 0
  · exact .inl ⟨variable_, if_pos (negative.mpr variable_)⟩
  · exact .inr ⟨by omega, if_neg (mt negative.mp variable_)⟩

/-- An output that fits is made. -/
theorem allocOutput_of_le (fits : entry.sizeOut.toInt ≤ c.device.payloadMax.toNat) :
    c.allocOutput entry = (.ok (), c.withDeclaredOutput entry) := by
  have accepted : c.checkSize (c.declaredOutput entry) = .ok (c.declaredOutput entry).toNat := by
    rw [checkSize_eq_ok_iff]
    have := c.declaredOutput_cases entry
    omega
  unfold allocOutput withDeclaredOutput
  by_cases some_ : 0 < c.declaredOutput entry
  · rw [if_pos some_, if_pos (by omega), accepted]
  · rw [if_neg some_, if_neg (by omega)]

/-- An output that does not is refused. -/
theorem allocOutput_of_lt (exceeds : (c.device.payloadMax.toNat : Int) < entry.sizeOut.toInt) :
    c.allocOutput entry = (.error (.payloadSize entry.sizeOut.toInt c.device.payloadMax), c) := by
  have declared : c.declaredOutput entry = entry.sizeOut.toInt := by
    have := c.declaredOutput_cases entry
    omega
  have refused : c.checkSize entry.sizeOut.toInt =
      .error (.payloadSize entry.sizeOut.toInt c.device.payloadMax) := if_pos (.inr exceeds)
  rw [allocOutput, declared, if_pos (by omega), refused]

/-! ## Both -/

/-- The ways an allocation fails, with the error and the command that is left. -/
inductive AllocFailure (c : Command) (id : UInt32) : Error → Command → Prop
  /-- The command was not resolved to an entry. -/
  | unmatched (missing : c.entry? = none) : AllocFailure c id (.invalidState .notValidated) c
  /-- It was resolved to the entry of another id. -/
  | mismatched {entry : CatalogEntry} (matched : c.entry? = some entry) (other : entry.id ≠ id) :
      AllocFailure c id (.commandMismatch id entry.id) c
  | oversizedInput {entry : CatalogEntry} (matched : c.entry? = some entry) (same : entry.id = id)
      (exceeds : (c.device.payloadMax.toNat : Int) < entry.sizeIn.toInt) :
      AllocFailure c id (.payloadSize entry.sizeIn.toInt c.device.payloadMax) c
  /-- The input was made before the output turned out to be too large. -/
  | oversizedOutput {entry : CatalogEntry} (matched : c.entry? = some entry) (same : entry.id = id)
      (fits : entry.sizeIn.toInt ≤ c.device.payloadMax.toNat)
      (exceeds : (c.device.payloadMax.toNat : Int) < entry.sizeOut.toInt) :
      AllocFailure c id (.payloadSize entry.sizeOut.toInt c.device.payloadMax)
        (c.withDeclaredInput entry)

/-- With its entry at hand, an allocation is the input and then the output. -/
theorem allocSend_matched (matched : c.entry? = some entry) (same : entry.id = id) :
    c.allocSend id = match c.allocInput entry with
      | (.error e, c) => (.error e, c)
      | (.ok (), c) => c.allocOutput entry := by
  rcases first : c.allocInput entry with ⟨e | _, c'⟩ <;>
    simp only [allocSend, matched, same, ne_eq, not_true_eq_false, if_false, first]

theorem AllocFailure.ran {e : Error} {c' : Command} (failure : c.AllocFailure id e c') :
    c.allocSend id = (.error e, c') := by
  cases failure with
  | unmatched missing => simp only [allocSend, missing]
  | mismatched matched other =>
    simp only [allocSend, matched, ne_eq, other, not_false_eq_true, if_true]
  | oversizedInput matched same exceeds =>
    rw [allocSend_matched matched same, allocInput_of_lt exceeds]
  | @oversizedOutput entry matched same fits exceeds =>
    rw [allocSend_matched matched same, allocInput_of_le fits]
    rw [← withDeclaredInput_device c entry] at exceeds ⊢
    exact allocOutput_of_lt exceeds

/-- With sizes that fit, both payloads are made. -/
theorem allocSend_of_le (matched : c.entry? = some entry) (same : entry.id = id)
    (input : entry.sizeIn.toInt ≤ c.device.payloadMax.toNat)
    (output : entry.sizeOut.toInt ≤ c.device.payloadMax.toNat) :
    c.allocSend id = (.ok (), (c.withDeclaredInput entry).withDeclaredOutput entry) := by
  rw [allocSend_matched matched same, allocInput_of_le input]
  rw [← withDeclaredInput_device c entry] at output
  exact allocOutput_of_le output

/-- Every allocation fails in one of the four ways or makes both payloads. -/
theorem allocSend_cases (c : Command) (id : UInt32) :
    (∃ e c', c.allocSend id = (.error e, c') ∧ c.AllocFailure id e c') ∨
      ∃ entry, c.allocSend id = (.ok (), (c.withDeclaredInput entry).withDeclaredOutput entry) := by
  have fails {e : Error} {c' : Command} (failure : c.AllocFailure id e c') :
      ∃ e c', c.allocSend id = (.error e, c') ∧ c.AllocFailure id e c' :=
    ⟨e, c', failure.ran, failure⟩
  rcases matched : c.entry? with _ | entry
  · exact .inl (fails (.unmatched matched))
  by_cases same : entry.id = id
  case neg => exact .inl (fails (.mismatched matched same))
  by_cases input : entry.sizeIn.toInt ≤ c.device.payloadMax.toNat
  case neg => exact .inl (fails (.oversizedInput matched same (Int.not_le.mp input)))
  by_cases output : entry.sizeOut.toInt ≤ c.device.payloadMax.toNat
  case neg => exact .inl (fails (.oversizedOutput matched same input (Int.not_le.mp output)))
  exact .inr ⟨entry, allocSend_of_le matched same input output⟩

/-- So an allocation that fails does so in one of the four ways. -/
theorem allocSend_eq_error_iff {e : Error} {c' : Command} :
    c.allocSend id = (.error e, c') ↔ c.AllocFailure id e c' := by
  constructor
  · intro failed
    rcases c.allocSend_cases id with ⟨e₁, c₁, ran, failure⟩ | ⟨entry, ran⟩ <;>
      rw [failed] at ran <;> cases ran
    exact failure
  · exact AllocFailure.ran

/-- In all four ways, the input is all that can differ. -/
theorem AllocFailure.kept {e : Error} {c' : Command} (failure : c.AllocFailure id e c') :
    c' = { c with input := c'.input } := by
  cases failure with
  | unmatched | mismatched | oversizedInput => rfl
  | oversizedOutput => exact c.withDeclaredInput_eq _

theorem allocSend_error {e : Error} (refused : (c.allocSend id).1 = .error e) :
    ∃ input, (c.allocSend id).2 = { c with input } :=
  ⟨_, (allocSend_eq_error_iff.mp (Prod.ext refused rfl)).kept⟩

/-- Whether it fails or not, the output is the old one or one of the command's own. -/
theorem allocSend_output (c : Command) (id : UInt32) :
    (c.allocSend id).2.output = c.output ∨ ∃ bytes, (c.allocSend id).2.output = .owned bytes := by
  rcases c.allocSend_cases id with ⟨e, c', ran, failure⟩ | ⟨entry, ran⟩ <;> rw [ran]
  · rw [failure.kept]
    exact .inl rfl
  · dsimp only [withDeclaredOutput]
    split
    · exact .inr ⟨_, rfl⟩
    · rw [withDeclaredInput_eq]
      exact .inl rfl

end Command

/-! ## Sessions -/

/-- The command had a declared input made for it, in place of the one it had, before its declared
output turned out to be too large. -/
structure Command.InputReplaced (c : Command) (entry : CatalogEntry) : Prop where
  matched : c.entry? = some entry
  declared : 0 < entry.sizeIn.toInt
  fits : entry.sizeIn.toInt ≤ c.device.payloadMax.toNat
  exceeds : (c.device.payloadMax.toNat : Int) < entry.sizeOut.toInt

/-- **A failed allocation keeps the command**, with one exception that concerns the input alone: in
every session, whatever its command went through before, a failure leaves world, output, output
size, status, id, resolution and catalog as they were.  The input is as it was, too, unless an
input that fits was declared together with an output that does not; then it is zeros. -/
theorem failed_allocation_keeps (s : Session δ) (id : UInt32) {e : Error}
    (failed : (Session.allocSend id s).1 = .error e) :
    let t := (Session.allocSend id s).2
    t.world = s.world ∧ t.command = { s.command with input := t.command.input } ∧
      (t = s ∨
        ∃ entry, s.command.InputReplaced entry ∧ entry.id = id ∧
          e = .payloadSize entry.sizeOut.toInt s.command.device.payloadMax ∧
          t.command.input = .owned (Bytes.zeros entry.sizeIn.toInt.toNat)) := by
  intro t
  have failure : s.command.AllocFailure id e t.command :=
    Command.allocSend_eq_error_iff.mp (Prod.ext failed rfl)
  refine ⟨rfl, failure.kept, ?_⟩
  have left : t = s.withCommand t.command := rfl
  clear_value t
  generalize t.command = c' at failure left
  subst left
  cases failure with
  | unmatched | mismatched | oversizedInput => exact .inl rfl
  | @oversizedOutput entry matched same fits exceeds =>
    by_cases declared : 0 < entry.sizeIn.toInt
    · rw [Command.withDeclaredInput_of_pos declared]
      exact .inr ⟨entry, ⟨matched, declared, fits, exceeds⟩, same, rfl, rfl⟩
    · rw [Command.withDeclaredInput_of_nonpos (by omega)]
      exact .inl rfl

/-! ## A lent input -/

/-- A device with 16 bytes, whose two commands have outputs of 100; one of them has an input. -/
def World.largeOutputs : World Script :=
  { device :=
      { catalog? := some [.enabled CommandId.identify 4 100, .enabled CommandId.getLabels 0 100] } }

/-- A command of that device, resolved to an id and lent two bytes as its input. -/
def Session.lentInput (id : UInt32) : Session Script :=
  Operation.performAll Script.backend [.query, .validate id, .setInput (some [7, 7]) 2]
    ⟨.unvalidated { payloadMax := 16 }, .largeOutputs⟩

/-- Without an input declared, the two bytes stay. -/
theorem failed_allocation_keeps_lent :
    let id := CommandId.getLabels
    let s := Session.lentInput id
    (Session.allocSend id s).1 = .error (.payloadSize 100 16) ∧
      s.command.input = .lent [7, 7] [] ∧ (Session.allocSend id s).2 = s := by
  intro id s
  have failed : (Session.allocSend id s).1 = .error (.payloadSize 100 16) := by decide +kernel
  obtain ⟨-, -, kept | ⟨entry, replaced, -⟩⟩ := failed_allocation_keeps s id failed
  · exact ⟨failed, by decide +kernel, kept⟩
  · have at_ : s.command.entry? = some (.enabled CommandId.getLabels 0 100) := by decide +kernel
    obtain rfl : CatalogEntry.enabled CommandId.getLabels 0 100 = entry :=
      Option.some.inj (at_.symm.trans replaced.matched)
    exact absurd replaced.declared (by decide)

/-- With one declared, four zeros take the place of the two bytes, though the allocation fails. -/
theorem failed_allocation_drops_input :
    let id := CommandId.identify
    let s := Session.lentInput id
    Reachable Script.backend { payloadMax := 16 } .unvalidated s.command ∧
      (Session.allocSend id s).1 = .error (.payloadSize 100 16) ∧
      s.command.input = .lent [7, 7] [] ∧
      (Session.allocSend id s).2.command.input = .owned [0, 0, 0, 0] := by
  intro id s
  have made : Reachable Script.backend { payloadMax := 16 } .unvalidated
      (Command.unvalidated { payloadMax := 16 }) :=
    .made World.largeOutputs rfl
  have reach : Reachable Script.backend { payloadMax := 16 } .unvalidated s.command :=
    made.performAll (s := ⟨_, World.largeOutputs⟩) _
  exact ⟨reach, by decide +kernel, by decide +kernel, by decide +kernel⟩

end CxlMailbox
