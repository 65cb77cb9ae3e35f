/-
# CxlMailbox.Proofs.Labels.Request — what a label operation sends, and how it ends

Over any backend a label operation is a check of the range and the buffer, a command that is made,
payloads of fixed content, and one send:

* `resolveLength_eq_ok_iff` says which ranges are accepted, and their length;
* `fetch_sends` and `store_sends` run an operation up to its send, whose payloads are those of
  `forRead` and `forWrite`, and give its end: `readVerdict`, `successVerdict`;
* `fetch_oversized` and `store_oversized` are the ranges that the device's payloads cannot carry.

`LabelCall` has the calls as data, so that a history of the label area is a list of calls;
`LabelCall.perform_refused` and `LabelCall.perform_driven` reduce each of them to one drive.
-/
import CxlMailbox.Labels
import CxlMailbox.Proofs.Command.Frame
import CxlMailbox.Proofs.Simulation

namespace CxlMailbox

set_option autoImplicit false

namespace Labels

open Effect Session

variable {δ : Type}

/-! ## Ranges -/

/-- The length that a range stands for in an area: zero reaches to the end. -/
def span (area offset length : Nat) : Nat := if length = 0 then area - offset else length

/-- A range is accepted exactly if it starts inside the area, where its length is left open, and
ends inside it. -/
theorem resolveLength_eq_ok_iff {info : DeviceInfo} {offset length : UInt32} {n : Nat} :
    resolveLength info offset length = .ok n ↔
      (length ≠ 0 ∨ offset < info.labelAreaSize) ∧
      n = span info.labelAreaSize.toNat offset.toNat length.toNat ∧
      offset.toNat + n ≤ info.labelAreaSize.toNat := by
  have zero : length = 0 ↔ length.toNat = 0 := by simp [← UInt32.toNat_inj]
  simp only [resolveLength, span, ne_eq, UInt32.lt_iff_toNat_lt, UInt32.le_iff_toNat_le, zero]
  generalize (if length.toNat = 0 then info.labelAreaSize.toNat - offset.toNat else length.toNat) =
    m
  split
  case isTrue outside =>
    simp only [reduceCtorEq, false_iff]
    omega
  case isFalse inside =>
    split
    case isTrue exceeds =>
      simp only [reduceCtorEq, false_iff]
      omega
    case isFalse fits =>
      simp only [Except.ok.injEq]
      omega

/-! ## The ends of an operation -/

/-- How an operation that was sent ends: any status but success is a failure. -/
def successVerdict (c : Command) : Except Error Unit :=
  match c.status with
  | none => .error (.invalidState .notSubmitted)
  | some status => if status.isSuccess then .ok () else .error (.labelStatus status)

/-- How a read of `n` bytes that was sent ends: the device has to report all of them, too. -/
def readVerdict (n : Nat) (c : Command) : Except Error Unit := do
  successVerdict c
  if c.outSize < n then throw (.shortPayload n c.outSize)

theorem readVerdict_of_error {n : Nat} {c : Command} {e : Error}
    (failed : successVerdict c = .error e) : readVerdict n c = .error e := by
  rw [readVerdict, failed]
  rfl

theorem readVerdict_of_ok {n : Nat} {c : Command} (succeeded : successVerdict c = .ok ()) :
    readVerdict n c = if c.outSize < n then .error (.shortPayload n c.outSize) else .ok () := by
  rw [readVerdict, succeeded]
  rfl

theorem requireSuccess_apply (operation : String) (s : Session δ) :
    ∃ log, requireSuccess operation s =
      (successVerdict s.command, s.moved s.world.device log) := by
  rw [requireSuccess, bind_ok (current_apply s), successVerdict]
  rcases s.command.status with _ | status
  · exact ⟨s.world.log, rfl⟩
  · by_cases success : status.isSuccess = true <;> simp only [success]
    · exact ⟨s.world.log, rfl⟩
    · exact ⟨_, rfl⟩

/-! ## What is sent -/

/-- A label read with its payloads: the range as input, and room for its bytes as output. -/
def forRead (c : Command) (buffer : Bytes) (offset : UInt32) (n : Nat) : Command :=
  { c with input := .owned (readHeader offset n), output := .make n (some buffer), outSize := n }

/-- A label write with its payload: the header, the data and zeros up to `n` bytes. -/
def forWrite (c : Command) (data : Bytes) (offset : UInt32) (n : Nat) : Command :=
  { c with input := .owned (overlay (writeInput offset data) (Bytes.zeros (headerSize + n))) }

theorem length_readHeader (offset : UInt32) (n : Nat) :
    (readHeader offset n).length = headerSize := by
  simp [readHeader, headerSize]

/-- An input of a size that fits is made and written before anything else is done. -/
theorem input_arranged {α : Type} {n : Nat} {s : Session δ} (data : Bytes)
    (fits : n ≤ s.command.device.payloadMax.toNat) (next : Drive δ α) :
    (do
      Session.setInput none n
      let _ ← Session.writeInput data
      next : Drive δ α) s =
    next (s.withCommand { s.command with input := .owned (overlay data (Bytes.zeros n)) }) := by
  have sized := setInput_apply none n s
  rw [Command.setInput_none_of_le fits] at sized
  rw [bind_ok sized]
  have written := writeInput_apply data
    (s.withCommand { s.command with input := .owned (Bytes.zeros n) })
  rw [withCommand_command, Command.writeInput_owned rfl] at written
  rw [bind_ok written]
  rfl

/-- A read that the device's payloads can carry is one send. -/
theorem fetch_sends (backend : Backend δ) {buffer : Bytes} {n : Nat} {s t : Session δ}
    (offset : UInt32) (prepared : prepare backend CommandId.getLabels s = (.ok (), t))
    (header : headerSize ≤ t.command.device.payloadMax.toNat)
    (fits : n ≤ t.command.device.payloadMax.toNat)
    (room : n ≤ buffer.length) :
    ∃ log, fetch backend buffer offset n s =
      let sent := submit backend (t.withCommand (forRead t.command buffer offset n))
      (sent.1.bind fun _ => readVerdict n sent.2.command,
        sent.2.moved sent.2.world.device log) := by
  let c := { t.command with input := .owned (readHeader offset n) }
  have lent : Session.setOutput (some buffer) n (t.withCommand c) =
      (.ok (), t.withCommand (forRead t.command buffer offset n)) := by
    rw [setOutput_apply, withCommand_command,
      Command.setOutput_of_le (show n ≤ c.device.payloadMax.toNat from fits) (by simpa)]
    rfl
  rw [fetch, bind_ok prepared, input_arranged _ header,
    overlay_of_length_eq (by simp [length_readHeader]), bind_ok lent]
  rcases ran : submit backend (t.withCommand (forRead t.command buffer offset n)) with
    ⟨e | status, u⟩
  · exact ⟨u.world.log, bind_error ran _⟩
  · rw [bind_ok ran]
    obtain ⟨log, checked⟩ := requireSuccess_apply "get" u
    rcases verdict : successVerdict u.command with e | _ <;> rw [verdict] at checked
    · rw [bind_error checked]
      exact ⟨log, by simp only [Except.bind, readVerdict_of_error verdict]⟩
    · rw [bind_ok checked, bind_ok (current_apply _), moved_command]
      simp only [Except.bind, readVerdict_of_ok verdict]
      by_cases short : u.command.outSize < n
      · rw [if_pos short, if_pos short]
        exact ⟨_, rfl⟩
      · rw [if_neg short, if_neg short]
        exact ⟨log, rfl⟩

/-- A write that the device's payloads can carry is one send. -/
theorem store_sends (backend : Backend δ) {n : Nat} {s t : Session δ} (data : Bytes)
    (offset : UInt32) (prepared : prepare backend CommandId.setLabels s = (.ok (), t))
    (fits : headerSize + n ≤ t.command.device.payloadMax.toNat) :
    ∃ log, store backend data offset n s =
      let sent := submit backend (t.withCommand (forWrite t.command data offset n))
      (sent.1.bind fun _ => successVerdict sent.2.command,
        sent.2.moved sent.2.world.device log) := by
  rw [store, bind_ok prepared, ← Int.natCast_add, input_arranged _ fits]
  change ∃ log, (submit backend >>= fun _ => requireSuccess "set")
    (t.withCommand (forWrite t.command data offset n)) = _
  rcases ran : submit backend (t.withCommand (forWrite t.command data offset n)) with
    ⟨e | status, u⟩
  · exact ⟨u.world.log, bind_error ran _⟩
  · rw [bind_ok ran]
    exact requireSuccess_apply "set" u

/-! ## What is not sent -/

/-- A read that the device's payloads cannot carry is not sent, and the buffer is not lent. -/
theorem fetch_oversized (backend : Backend δ) {n : Nat} {s t : Session δ} (buffer : Bytes)
    (offset : UInt32) (prepared : prepare backend CommandId.getLabels s = (.ok (), t))
    (exceeds : t.command.device.payloadMax.toNat < headerSize ∨
      t.command.device.payloadMax.toNat < n) :
    ∃ e input, fetch backend buffer offset n s =
      (.error e, t.withCommand { t.command with input }) := by
  rcases Nat.lt_or_ge t.command.device.payloadMax.toNat headerSize with short | header
  · have sized := setInput_apply none headerSize t
    rw [Command.setInput_none_of_lt short] at sized
    refine ⟨.payloadSize headerSize t.command.device.payloadMax, t.command.input, ?_⟩
    rw [fetch, bind_ok prepared]
    exact bind_error sized _
  · let c := { t.command with
      input := .owned (overlay (readHeader offset n) (Bytes.zeros headerSize)) }
    refine ⟨.payloadSize n t.command.device.payloadMax, c.input, ?_⟩
    have refused := setOutput_apply (some buffer) n (t.withCommand c)
    rw [withCommand_command, Command.setOutput_of_lt
      (show c.device.payloadMax.toNat < n from exceeds.resolve_left (Nat.not_lt.mpr header))]
      at refused
    rw [fetch, bind_ok prepared, input_arranged _ header]
    exact bind_error refused _

/-- A write that the device's payloads cannot carry is not sent. -/
theorem store_oversized (backend : Backend δ) {n : Nat} {s t : Session δ} (data : Bytes)
    (offset : UInt32) (prepared : prepare backend CommandId.setLabels s = (.ok (), t))
    (exceeds : t.command.device.payloadMax.toNat < headerSize + n) :
    ∃ e, store backend data offset n s = (.error e, t) := by
  have sized := setInput_apply none (headerSize + n : Nat) t
  rw [Command.setInput_none_of_lt exceeds] at sized
  rw [store, bind_ok prepared, ← Int.natCast_add]
  exact ⟨_, bind_error sized _⟩

end Labels

/-! ## Calls as data -/

/-- A call on the label area, with the buffer that the caller passes. -/
inductive LabelCall where
  | read (buffer : Bytes) (offset length : UInt32)
  | write (data : Bytes) (offset length : UInt32)
  | zero (offset length : UInt32)
  deriving DecidableEq, Repr

namespace LabelCall

open Effect Session

variable {δ : Type}

def offset : LabelCall → UInt32
  | read _ offset _ | write _ offset _ | zero offset _ => offset

def length : LabelCall → UInt32
  | read _ _ length | write _ _ length | zero _ length => length

/-- The caller's buffer, empty if the call has none. -/
def buffer : LabelCall → Bytes
  | read buffer _ _ => buffer
  | write data _ _ => data
  | zero _ _ => []

/-- Whether the caller's buffer has as many bytes as the range. -/
def Covers (n : Nat) : LabelCall → Prop
  | read buffer _ _ => n ≤ buffer.length
  | write data _ _ => n ≤ data.length
  | zero _ _ => True

instance (n : Nat) : (call : LabelCall) → Decidable (call.Covers n)
  | read .. | write .. => inferInstanceAs (Decidable (_ ≤ _))
  | zero .. => inferInstanceAs (Decidable True)

/-- What a call passes its buffer for. -/
def direction : LabelCall → Direction
  | read .. => .output
  | write .. | zero .. => .input

/-- Why a call is refused before the device is asked: its range is not in the area, or its buffer
does not cover the range. -/
def fault? (info : DeviceInfo) (call : LabelCall) : Option ArgumentFault :=
  match Labels.resolveLength info call.offset call.length with
  | .error fault => some fault
  | .ok n => if call.Covers n then none else some (.shortLabelBuffer call.direction n)

/-- Carries a call out.  The answer comes with the caller's buffer as it is afterwards. -/
def perform (backend : Backend δ) (info : DeviceInfo) :
    LabelCall → StateM (World δ) (Except Error Unit × Bytes)
  | read buffer offset length => Labels.read backend info buffer offset length
  | write data offset length => fun world =>
      let (answer, world) := Labels.write backend info data offset length world
      ((answer, data), world)
  | zero offset length => fun world =>
      let (answer, world) := Labels.zero backend info offset length world
      ((answer, []), world)

/-- What a call does once its range and its buffer were accepted. -/
def drive (backend : Backend δ) (n : Nat) : LabelCall → Drive δ Unit
  | read buffer offset _ => Labels.fetch backend buffer offset n
  | write data offset _ => Labels.store backend (data.take n) offset n
  | zero offset _ => Labels.store backend [] offset n

/-- The caller's buffer once the command was driven: only a read lends it. -/
def bufferAfter (c : Command) : LabelCall → Bytes
  | read buffer _ _ => c.output.lender?.getD buffer
  | write data _ _ => data
  | zero _ _ => []

/-- A call without a fault has a range that its buffer covers. -/
theorem fault?_eq_none_iff {info : DeviceInfo} {call : LabelCall} :
    call.fault? info = none ↔
      ∃ n, Labels.resolveLength info call.offset call.length = .ok n ∧ call.Covers n := by
  rw [fault?]
  rcases Labels.resolveLength info call.offset call.length with fault | n
  · simp
  · by_cases covers : call.Covers n <;> simp [covers]

/-- A call with a fault leaves everything but the log as it was. -/
theorem perform_fault (backend : Backend δ) {info : DeviceInfo} {call : LabelCall}
    {fault : ArgumentFault} (refused : call.fault? info = some fault) (world : World δ) :
    ∃ log, call.perform backend info world =
      ((.error (.invalidArgument fault), call.buffer), { world with log }) := by
  rw [fault?] at refused
  rcases resolved : Labels.resolveLength info call.offset call.length with other | n
  · simp only [resolved, Option.some.injEq] at refused
    subst refused
    refine ⟨world.log, ?_⟩
    cases call <;> simp only [offset, length] at resolved <;>
      simp only [perform, Labels.read, Labels.write, Labels.zero, resolved] <;> rfl
  · by_cases covers : call.Covers n
    · simp [resolved, covers] at refused
    · simp only [resolved, covers, if_false, Option.some.injEq] at refused
      subst refused
      cases call with
      | read buffer offset length =>
          simp only [LabelCall.offset, LabelCall.length] at resolved
          exact ⟨_, by
            simp only [perform, Labels.read, resolved, Nat.lt_of_not_le covers]; rfl⟩
      | write data offset length =>
          simp only [LabelCall.offset, LabelCall.length] at resolved
          exact ⟨_, by
            simp only [perform, Labels.write, resolved, Nat.lt_of_not_le covers]; rfl⟩
      | zero offset length => exact absurd trivial covers

theorem perform_refused (backend : Backend δ) {info : DeviceInfo} {call : LabelCall}
    (refused : ∀ n, Labels.resolveLength info call.offset call.length = .ok n → ¬ call.Covers n)
    (world : World δ) :
    ∃ fault log, call.perform backend info world =
      ((.error (.invalidArgument fault), call.buffer), { world with log }) := by
  rcases faulty : call.fault? info with _ | fault
  · obtain ⟨n, resolved, covers⟩ := fault?_eq_none_iff.mp faulty
    exact absurd covers (refused n resolved)
  · exact ⟨fault, perform_fault backend faulty world⟩

/-- Any other call is one drive, after a line was logged. -/
theorem perform_driven (backend : Backend δ) {info : DeviceInfo} {call : LabelCall} {n : Nat}
    (resolved : Labels.resolveLength info call.offset call.length = .ok n)
    (covers : call.Covers n) (world : World δ) :
    ∃ log, call.perform backend info world =
      let ran := call.drive backend n ⟨.unvalidated info, { world with log }⟩
      ((ran.1, call.bufferAfter ran.2.command), ran.2.world) := by
  cases call with
  | read buffer offset length =>
      simp only [LabelCall.offset, LabelCall.length] at resolved
      exact ⟨_, by simp only [perform, Labels.read, resolved, Nat.not_lt.mpr covers]; rfl⟩
  | write data offset length =>
      simp only [LabelCall.offset, LabelCall.length] at resolved
      exact ⟨_, by simp only [perform, Labels.write, resolved, Nat.not_lt.mpr covers]; rfl⟩
  | zero offset length =>
      simp only [LabelCall.offset, LabelCall.length] at resolved
      exact ⟨_, by simp only [perform, Labels.zero, resolved]; rfl⟩

/-! ### Alike backends -/

variable {ε : Type} {f : δ → ε} {backend : Backend δ} {image : Backend ε}

theorem requireSuccess_follows (operation : String) :
    Follows (mapDevice f) (Labels.requireSuccess operation) (Labels.requireSuccess operation) := by
  refine current_follows.bind fun c => ?_
  rcases c.status with _ | status
  · exact .throw _
  · dsimp only
    split
    · exact (log_follows _ _).bind fun _ => .throw _
    · exact .pure _

theorem fetch_follows (follows : backend.Follows f image) (buffer : Bytes) (offset : UInt32)
    (n : Nat) :
    Follows (mapDevice f) (Labels.fetch backend buffer offset n)
      (Labels.fetch image buffer offset n) := by
  refine (prepare_follows follows _).bind fun _ => (inCommand_follows _).bind fun _ =>
    (inCommand_follows _).bind fun _ => (inCommand_follows _).bind fun _ =>
      (submit_follows follows).bind fun _ => (requireSuccess_follows _).bind fun _ =>
        current_follows.bind fun c => ?_
  split
  · exact (log_follows _ _).bind fun _ => .throw _
  · exact .pure _

theorem store_follows (follows : backend.Follows f image) (data : Bytes) (offset : UInt32)
    (n : Nat) :
    Follows (mapDevice f) (Labels.store backend data offset n)
      (Labels.store image data offset n) :=
  (prepare_follows follows _).bind fun _ => (inCommand_follows _).bind fun _ =>
    (inCommand_follows _).bind fun _ => (submit_follows follows).bind fun _ =>
      requireSuccess_follows _

theorem drive_follows (follows : backend.Follows f image) (call : LabelCall) (n : Nat) :
    Follows (mapDevice f) (call.drive backend n) (call.drive image n) := by
  cases call with
  | read buffer offset length => exact fetch_follows follows buffer offset n
  | write data offset length => exact store_follows follows _ offset n
  | zero offset length => exact store_follows follows _ offset n

/-- A call over a backend that answers alike answers alike, and leaves the same buffer. -/
theorem perform_follows (follows : backend.Follows f image) (info : DeviceInfo)
    (call : LabelCall) (world : World δ) :
    call.perform image info (world.mapDevice f) =
      ((call.perform backend info world).1, (call.perform backend info world).2.mapDevice f) := by
  have driven (n : Nat) := Drive.once_follows (drive_follows follows call n) info
  cases call with
  | read buffer offset length =>
      simp only [perform, Labels.read]
      rcases Labels.resolveLength info offset length with fault | n
      · rfl
      · by_cases short : buffer.length < n
        · simp only [short]
          rfl
        · simp only [short]
          have ran := drive_follows follows (read buffer offset length) n
            ⟨.unvalidated info, (Labels.announce info "get" offset n world).2⟩
          exact congrArg (fun result =>
            ((result.1, result.2.command.output.lender?.getD buffer), result.2.world)) ran
  | write data offset length =>
      have same : Follows (World.mapDevice f) (Labels.write backend info data offset length)
          (Labels.write image info data offset length) := by
        simp only [Labels.write]
        rcases Labels.resolveLength info offset length with fault | n
        · exact .throw _
        · refine .bind (fun _ => rfl) fun _ => ?_
          split
          · exact .bind (.throw _) fun _ => driven n
          · exact driven n
      exact congrArg (fun result => ((result.1, data), result.2)) (same world)
  | zero offset length =>
      have same : Follows (World.mapDevice f) (Labels.zero backend info offset length)
          (Labels.zero image info offset length) := by
        simp only [Labels.zero]
        rcases Labels.resolveLength info offset length with fault | n
        · exact .throw _
        · exact .bind (fun _ => rfl) fun _ => driven n
      exact congrArg (fun result => ((result.1, []), result.2)) (same world)

end LabelCall

end CxlMailbox
