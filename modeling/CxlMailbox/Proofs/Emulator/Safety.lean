/-
# CxlMailbox.Proofs.Emulator.Safety — drives that the transport never fails

`Drive.Safe config part? P x Q` is a triple over hosted devices.  Begun with a command that
satisfies `P`, the drive `x` keeps the device hosted and changes at most one part of it; it answers
with a command that satisfies `Q`, or fails for a reason other than the transport.  The node of the
device may be replaced and faults may be injected.

* `Safe.bind` and its kin are the rules of sequences, `Task.Safe` has them for whole commands;
* `Command.Looked` is what the making of a command settles for good: the entry that the driver looks
  at (`Safe.prepare`, `Safe.prepareRaw`).  Payloads are replaced under it (`Safe.setOutput`,
  `Safe.input`);
* `Safe.submit` is the one rule with something to show: the driver lets the command through, and the
  command is there to change nothing but the part.
-/
import CxlMailbox.Proofs.Emulator.Admission
import CxlMailbox.Proofs.Labels.Request

namespace CxlMailbox

set_option autoImplicit false

open Effect

/-! ## Commands that were looked up -/

/-- The command was made for an id and an opcode, and has the entry that the driver looks at. -/
structure Command.Looked (config : DeviceConfig) (id : UInt32) (opcode : UInt16)
    (entry : CatalogEntry) (c : Command) : Prop where
  device : c.device = config.info
  id_eq : c.id = id
  rawOpcode : c.rawOpcode = opcode
  found : c.resolution.isFound = true
  entry_eq : c.entry? = some entry
  first : (config.catalog.find? fun entry => entry.id == id) = some entry

/-- The driver lets the command through, and the command is there to change nothing but a part. -/
structure Command.Sendable (config : DeviceConfig) (part? : Option DevicePart) (c : Command) :
    Prop where
  device : c.device = config.info
  clear : c.sendFault? = none
  passes : ∀ d : EmulatedDevice, d.config = config → d.driverFault? c.request = none
  part : c.request.target? = none ∨ c.request.target? = part?

/-- The part that commands with an id and an opcode are there to change. -/
def DevicePart.of (id : UInt32) (opcode : UInt16) : Option DevicePart :=
  (SendRequest.ofBuffers id opcode [] []).target?

namespace Command.Looked

variable {config : DeviceConfig} {id : UInt32} {opcode : UInt16} {entry : CatalogEntry}
  {c : Command} {part? : Option DevicePart}

theorem replaced (looked : c.Looked config id opcode entry) (input output : Payload)
    (outSize : Nat) : { c with input, output, outSize }.Looked config id opcode entry :=
  { looked with }

theorem sendable (looked : c.Looked config id opcode entry)
    (sizes : entry.Sizes c.input.bytes.length c.output.bytes.length)
    (named : id = CommandId.raw → opcode ≠ 0)
    (part : DevicePart.of id opcode = none ∨ DevicePart.of id opcode = part?) :
    c.Sendable config part? := by
  have admitted : c.Admitted config :=
    { device := looked.device
      found := looked.found
      entry := ⟨entry, looked.entry_eq, looked.id_eq ▸ looked.first, sizes⟩
      opcode := fun raw => looked.rawOpcode ▸ named (looked.id_eq ▸ raw) }
  have same : c.request.target? = DevicePart.of id opcode := by
    rw [← looked.id_eq, ← looked.rawOpcode]
    rfl
  exact ⟨looked.device, admitted.clear, fun _ => admitted.passes, same ▸ part⟩

end Command.Looked

theorem Command.Constructed.looked {config : DeviceConfig} {id : UInt32} {entry : CatalogEntry}
    {c : Command} (made : c.Constructed config.info config.offered id entry)
    (first : (config.offered.find? fun entry => entry.id == id) = some entry)
    (opcode : UInt16) : { c with rawOpcode := opcode }.Looked config id opcode entry where
  device := made.device
  id_eq := made.id_eq
  rawOpcode := rfl
  found := made.found
  entry_eq := made.entry_eq
  first := DeviceConfig.find?_catalog first

/-- Without an opcode it is as it was made. -/
theorem Command.Constructed.looked_bare {config : DeviceConfig} {id : UInt32}
    {entry : CatalogEntry} {c : Command}
    (made : c.Constructed config.info config.offered id entry)
    (first : (config.offered.find? fun entry => entry.id == id) = some entry) :
    c.Looked config id 0 entry := by
  have same : { c with rawOpcode := 0 } = c := by rw [← made.rawOpcode]
  exact same ▸ made.looked first 0

/-! ## Triples -/

variable {α β : Type} {config : DeviceConfig} {part? : Option DevicePart}

/-- An answer that satisfies `Q`, or a failure that is not one of the transport. -/
inductive Harmless (Q : α → Prop) : Except Error α → Prop
  | answered {a : α} (holds : Q a) : Harmless Q (.ok a)
  | failed {e : Error} (other : e.isTransport = false) : Harmless Q (.error e)

theorem Harmless.weaken {Q R : α → Prop} {answer : Except Error α} (harmless : Harmless Q answer)
    (weaker : ∀ a, Q a → R a) : Harmless R answer := by
  cases harmless with
  | answered holds => exact .answered (weaker _ holds)
  | failed other => exact .failed other

theorem Harmless.map {Q : α → Prop} {R : β → Prop} {answer : Except Error α} {name : α → β}
    (harmless : Harmless Q answer) (renamed : ∀ a, Q a → R (name a)) :
    Harmless R (answer.map name) := by
  cases harmless with
  | answered holds => exact .answered (renamed _ holds)
  | failed other => exact .failed other

theorem Harmless.bind {Q : α → Prop} {R : β → Prop} {answer : Except Error α}
    {next : α → Except Error β} (first : Harmless Q answer)
    (rest : ∀ a, Q a → Harmless R (next a)) : Harmless R (answer.bind next) := by
  cases first with
  | answered holds => exact rest _ holds
  | failed other => exact .failed other

/-- A drive that may begin with any command in `P` keeps the device hosted up to a part, and ends
with a command in `Q` or with a failure that is not one of the transport. -/
def Drive.Safe (config : DeviceConfig) (part? : Option DevicePart) (P : Command → Prop)
    (x : Drive Emulator α) (Q : α → Command → Prop) : Prop :=
  ∀ (s : Session Emulator) (d : EmulatedDevice), s.world.device.Hosts config d → P s.command →
    ∃ d', d.SameBut part? d' ∧ (x s).2.world.device.Hosts config d' ∧
      Harmless (Q · (x s).2.command) (x s).1

/-- The same of a whole command. -/
def Task.Safe (config : DeviceConfig) (part? : Option DevicePart) (x : Task Emulator Error α) :
    Prop :=
  ∀ (world : World Emulator) (d : EmulatedDevice), world.device.Hosts config d →
    ∃ d', d.SameBut part? d' ∧ (x world).2.device.Hosts config d' ∧
      Harmless (fun _ => True) (x world).1

namespace Drive.Safe

variable {P : Command → Prop} {Q : α → Command → Prop} {R : β → Command → Prop}

/-- What leaves the world alone is safe if its failures are. -/
theorem of_apply {x : Drive Emulator α} (ran : ∀ s, ∃ log, (x s).2.world = { s.world with log })
    (ends : ∀ s, P s.command → Harmless (Q · (x s).2.command) (x s).1) :
    Safe config part? P x Q := by
  intro s d hosts holds
  obtain ⟨log, same⟩ := ran s
  exact ⟨d, .refl part? d, by rw [same]; exact hosts, ends s holds⟩

theorem bind {x : Drive Emulator α} {next : α → Drive Emulator β}
    (first : Safe config part? P x Q) (rest : ∀ a, Safe config part? (Q a) (next a) R) :
    Safe config part? P (x >>= next) R := by
  intro s d hosts holds
  obtain ⟨d', same, hosts', ended⟩ := first s d hosts holds
  rcases ran : x s with ⟨answer, t⟩
  rw [ran] at hosts' ended
  cases ended with
  | failed other =>
      rw [bind_error ran]
      exact ⟨d', same, hosts', .failed other⟩
  | answered holds' =>
      rw [bind_ok ran]
      obtain ⟨d'', same', hosts'', ended⟩ := rest _ t d' hosts' holds'
      exact ⟨d'', same.trans same', hosts'', ended⟩

theorem weaken {P' : Command → Prop} {x : Drive Emulator α} (safe : Safe config part? P x Q)
    (stronger : ∀ c, P' c → P c) : Safe config part? P' x Q :=
  fun s d hosts holds => safe s d hosts (stronger _ holds)

theorem except {answer : Except Error α} (harmless : Harmless (fun _ => True) answer) :
    Safe config part? P (liftM answer) fun _ _ => True := by
  refine of_apply (fun s => ⟨s.world.log, by rw [except_apply]⟩) fun s _ => ?_
  rw [except_apply]
  exact harmless

theorem current : Safe config part? P Session.current fun c c' => c = c' ∧ P c' :=
  of_apply (fun s => ⟨s.world.log, rfl⟩) fun _ holds => .answered ⟨rfl, holds⟩

theorem inCommand {step : Command → Except Error α × Command}
    (ends : ∀ c, P c → Harmless (Q · (step c).2) (step c).1) :
    Safe config part? P (Session.inCommand step) Q :=
  of_apply (fun s => ⟨s.world.log, rfl⟩) fun s holds => ends s.command holds

/-! ### Making a command -/

variable {id : UInt32} {opcode : UInt16} {entry : CatalogEntry}

/-- A command that is made has looked up the driver's entry and has its sizes. -/
theorem prepare (id : UInt32) :
    Safe config part? (fun c => c = .unvalidated config.info) (Session.prepare Emulator.backend id)
      fun _ c => ∃ entry, c.Looked config id 0 entry ∧
        entry.Sizes c.input.bytes.length c.output.bytes.length := by
  rintro ⟨c, world⟩ d hosts rfl
  obtain ⟨d', t, same, hosts', ⟨entry, ran, first, made⟩ | ⟨e, ran, other⟩⟩ :=
    Emulator.prepare_cases hosts id
  · rw [ran]
    exact ⟨d', same.weaken part?, hosts', .answered ⟨entry, made.looked_bare first, made.sizes⟩⟩
  · rw [ran]
    exact ⟨d', same.weaken part?, hosts', .failed other⟩

theorem prepareRaw (nonzero : opcode ≠ 0) :
    Safe config part? (fun c => c = .unvalidated config.info)
      (Session.prepareRaw Emulator.backend opcode)
      fun _ c => ∃ entry, c.Looked config CommandId.raw opcode entry := by
  rintro ⟨c, world⟩ d hosts rfl
  obtain ⟨d', t, same, hosts', ⟨entry, c, ran, first, made, left⟩ | ⟨e, ran, other⟩⟩ :=
    Emulator.prepareRaw_cases hosts nonzero
  · rw [ran]
    exact ⟨d', same.weaken part?, hosts', .answered ⟨entry, left ▸ made.looked first opcode⟩⟩
  · rw [ran]
    exact ⟨d', same.weaken part?, hosts', .failed other⟩

/-! ### Payloads -/

theorem checkPayload_harmless {c : Command} {direction : Direction} {buffer? : Option Bytes}
    {size : Int} {e : Error} (refused : c.checkPayload direction buffer? size = .error e) :
    e.isTransport = false := by
  unfold Command.checkPayload Command.checkSize at refused
  grind [Error.isTransport]

theorem setOutput (buffer? : Option Bytes) (size : Int) {P : Command → Prop}
    (free : ∀ c output outSize, P c → P { c with output, outSize }) :
    Safe config part? P (Session.setOutput buffer? size) fun _ c => P c := by
  refine inCommand fun c holds => ?_
  unfold Command.setOutput
  rcases checked : c.checkPayload .output buffer? size with e | ⟨n, payload⟩
  · exact .failed (checkPayload_harmless checked)
  · exact .answered (free c payload n holds)

/-- An input of a fixed size is made and written. -/
theorem input {P : Command → Prop} {next : Drive Emulator β} (n : Nat) (data : Bytes)
    (free : ∀ c payload, P c → P { c with input := payload })
    (rest : Safe config part?
      (fun c => P c ∧ c.input = .owned (overlay data (Bytes.zeros n))) next R) :
    Safe config part? P
      (do
        Session.setInput none n
        let _ ← Session.writeInput data
        next) R := by
  intro s d hosts holds
  by_cases fits : n ≤ s.command.device.payloadMax.toNat
  · rw [Labels.input_arranged data fits]
    exact rest _ d hosts ⟨free _ _ holds, rfl⟩
  · have refused := Session.setInput_apply none n s
    rw [Command.setInput_none_of_lt (Nat.lt_of_not_le fits)] at refused
    rw [bind_error refused]
    exact ⟨d, .refl part? d, hosts, .failed rfl⟩

/-! ### The send -/

/-- A command that can be sent is answered or not sent, but the driver never refuses it. -/
theorem submit :
    Safe config part? (fun c => c.Sendable config part?) (Session.submit Emulator.backend)
      fun _ _ => True := by
  intro s d hosts sendable
  obtain ⟨d', t, same, hosts', ended⟩ := Emulator.submit_cases hosts sendable.device
    sendable.clear (sendable.passes d hosts.configured)
  have kept : d.SameBut part? d' := by
    rcases sendable.part with none_ | part
    · exact (none_ ▸ same).weaken part?
    · exact part ▸ same
  rcases ended with ⟨receipt, written, ran, -⟩ | ran <;> rw [ran]
  · exact ⟨d', kept, hosts', .answered trivial⟩
  · exact ⟨d', kept, hosts', .failed rfl⟩

theorem completion_harmless (status : Status) : Harmless (fun _ => True) status.completion := by
  unfold Status.completion
  split
  · exact .answered trivial
  · exact .failed rfl

theorem conclude :
    Safe config part? (fun c => c.Sendable config part?) (Session.conclude Emulator.backend)
      fun _ _ => True := by
  intro s d hosts sendable
  obtain ⟨log, ran⟩ := Session.conclude_apply Emulator.backend s
  obtain ⟨d', same, hosts', ended⟩ := submit s d hosts sendable
  rw [ran]
  exact ⟨d', same, hosts', ended.bind fun status _ => completion_harmless status⟩

/-- A run without input sends the command as it is. -/
theorem run_nil {P : Command → Prop} (sendable : ∀ c, P c → c.Sendable config part?) :
    Safe config part? P (Session.run Emulator.backend []) fun _ _ => True := by
  rw [Session.run_eq, if_pos List.isEmpty_nil]
  exact conclude.weaken sendable

/-- A run sends the command with its input. -/
theorem run {P : Command → Prop} (input : Bytes)
    (free : ∀ c payload, P c → P { c with input := payload })
    (sendable : ∀ c, P c → (input = [] ∨ c.input = .owned input) → c.Sendable config part?) :
    Safe config part? P (Session.run Emulator.backend input) fun _ _ => True := by
  by_cases empty : input = []
  · subst empty
    exact run_nil fun c holds => sendable c holds (.inl rfl)
  · rw [Session.run_eq, if_neg (fun isEmpty => empty (List.isEmpty_iff.mp isEmpty))]
    refine Safe.input input.length input free (conclude.weaken fun c holds => ?_)
    have written : overlay input (Bytes.zeros input.length) = input :=
      overlay_of_length_eq (by simp)
    exact sendable c holds.1 (.inr (written ▸ holds.2))

end Drive.Safe

/-! ## Whole commands -/

namespace Task.Safe

/-- What leaves the devices alone is safe if its failures are. -/
theorem of_apply {x : Task Emulator Error α} (ran : ∀ world, (x world).2.device = world.device)
    (ends : ∀ world, Harmless (fun _ => True) (x world).1) : Safe config part? x :=
  fun world d hosts => ⟨d, .refl part? d, by rw [ran]; exact hosts, ends world⟩

theorem pure (a : α) : Safe config part? (pure a) :=
  of_apply (fun _ => rfl) fun _ => .answered trivial

theorem throw {e : Error} (other : e.isTransport = false) :
    Safe config part? (throw e : Task Emulator Error α) :=
  of_apply (fun _ => rfl) fun _ => .failed other

theorem log (level : Level) (message : String) :
    Safe config part? (Task.log level message : Task Emulator Error Unit) :=
  of_apply (fun _ => rfl) fun _ => .answered trivial

theorem bind {x : Task Emulator Error α} {next : α → Task Emulator Error β}
    (first : Safe config part? x) (rest : ∀ a, Safe config part? (next a)) :
    Safe config part? (x >>= next) := by
  intro world d hosts
  obtain ⟨d', same, hosts', ended⟩ := first world d hosts
  rcases ran : x world with ⟨e | a, w⟩ <;> rw [ran] at hosts' ended
  · rw [bind_error ran]
    exact ⟨d', same, hosts', by cases ended with | failed other => exact .failed other⟩
  · rw [bind_ok ran]
    obtain ⟨d'', same', hosts'', ended⟩ := rest a w d' hosts'
    exact ⟨d'', same.trans same', hosts'', ended⟩

/-- A safe drive of a new command is safe as a whole. -/
theorem once {x : Drive Emulator α} {Q : α → Command → Prop}
    (safe : Drive.Safe config part? (fun c => c = .unvalidated config.info) x Q) :
    Safe config part? (x.once config.info) := by
  intro world d hosts
  obtain ⟨d', same, hosts', ended⟩ := safe ⟨.unvalidated config.info, world⟩ d hosts rfl
  rw [Session.once_apply]
  exact ⟨d', same, hosts', ended.weaken fun _ _ => trivial⟩

end Task.Safe

end CxlMailbox
