/-
# CxlMailbox.Proofs.Emulator.Admission — negotiated sizes pass the driver

A command takes its payload sizes from the catalog that a query brought, and the driver checks them
against the catalog of the device.  The two agree:

* `Command.Admitted`: the command has the entry that the driver looks at, and payloads of the sizes
  that the entry declares; the driver lets it through (`Admitted.passes`);
* `Constructed.admitted`: so is every command as it is made;
* `Admitted.performed`: no operation but the replacement of a payload changes that.

`Negotiated` are the commands of all histories without such a replacement, and `Negotiated.admitted`
says so of them.
-/
import CxlMailbox.Proofs.Emulator.Hosting

namespace CxlMailbox

set_option autoImplicit false

/-- The node could not be opened, or its driver refused the request. -/
def Error.isTransport : Error → Bool
  | transport .. => true
  | _ => false

/-! ## Declared sizes -/

/-- Payloads of so many bytes are what the entry declares: the input exactly, and the output at
least; a negative size declares nothing. -/
def CatalogEntry.Sizes (entry : CatalogEntry) (input output : Nat) : Prop :=
  (0 ≤ entry.sizeIn.toInt → (input : Int) = entry.sizeIn.toInt) ∧
    (0 ≤ entry.sizeOut.toInt → entry.sizeOut.toInt ≤ output)

namespace Command

/-- The command has the first entry of the device's catalog with its id, payloads as the entry
declares them, and an opcode if it passes one through. -/
structure Admitted (config : DeviceConfig) (c : Command) : Prop where
  device : c.device = config.info
  found : c.resolution.isFound = true
  entry : ∃ entry, c.entry? = some entry ∧
    (config.catalog.find? fun entry => entry.id == c.id) = some entry ∧
    entry.Sizes c.input.bytes.length c.output.bytes.length
  opcode : c.id = CommandId.raw → c.rawOpcode ≠ 0

variable {config : DeviceConfig} {c : Command}

namespace Admitted

theorem clear (admitted : c.Admitted config) : c.sendFault? = none :=
  sendFault?_eq_none_iff.mpr admitted.found

/-- The driver lets it through. -/
theorem passes (admitted : c.Admitted config) {d : EmulatedDevice}
    (configured : d.config = config) : d.driverFault? c.request = none := by
  obtain ⟨entry, -, first, input, output⟩ := admitted.entry
  have exact_ : ¬ (0 ≤ entry.sizeIn.toInt ∧
      (c.request.input.length : Int) ≠ entry.sizeIn.toInt) :=
    fun wrong => wrong.2 (input wrong.1)
  have enough : ¬ (0 ≤ entry.sizeOut.toInt ∧
      (c.request.output.length : Int) < entry.sizeOut.toInt) :=
    fun wrong => Int.not_lt.mpr (output wrong.1) wrong.2
  have named : ¬ (c.request.id = CommandId.raw ∧ c.request.rawOpcode = 0) :=
    fun wrong => admitted.opcode wrong.1 wrong.2
  have looked : (d.config.catalog.find? fun entry => entry.id == c.request.id) = some entry := by
    rw [configured]
    exact first
  rw [EmulatedDevice.driverFault?, looked]
  simp only [exact_, enough, named, if_false]

end Admitted

/-! ## Commands as they are made -/

theorem outputSize_declared (info : DeviceInfo) {entry : CatalogEntry}
    (declared : 0 ≤ entry.sizeOut.toInt) :
    entry.sizeOut.toInt ≤ outputSize info entry := by
  rw [outputSize, if_neg (Int.not_lt.mpr declared)]
  omega

/-- A command as it is made has the declared sizes. -/
theorem Constructed.sizes {info : DeviceInfo} {catalog : List CatalogEntry} {id : UInt32}
    {entry : CatalogEntry} (made : c.Constructed info catalog id entry) :
    entry.Sizes c.input.bytes.length c.output.bytes.length := by
  constructor
  · intro declared
    rw [made.input, Bytes.length_zeros]
    omega
  · intro declared
    rw [made.output, Bytes.length_zeros]
    exact outputSize_declared info declared

/-- The making of a command fails because of the catalog or of a size. -/
theorem Constructs.cases {info : DeviceInfo} {catalog : List CatalogEntry} {id : UInt32}
    {result : Except Error Command} (constructs : Constructs info catalog id result) :
    (∃ entry c, (catalog.find? fun entry => entry.id == id) = some entry ∧ result = .ok c ∧
      c.Constructed info catalog id entry) ∨
    ∃ e, result = .error e ∧ e.isTransport = false := by
  unfold Constructs at constructs
  split at constructs
  · exact .inr ⟨_, constructs, rfl⟩
  · rename_i entry first
    split at constructs
    · exact .inr ⟨_, constructs, rfl⟩
    · split at constructs
      · exact .inr ⟨_, constructs, rfl⟩
      · obtain ⟨c, made, constructed⟩ := constructs
        exact .inl ⟨entry, c, first, made, constructed⟩

theorem Constructed.admitted {id : UInt32} {entry : CatalogEntry}
    (made : c.Constructed config.info config.offered id entry)
    (first : (config.offered.find? fun entry => entry.id == id) = some entry) {opcode : UInt16}
    (named : id = CommandId.raw → opcode ≠ 0) :
    { c with rawOpcode := opcode }.Admitted config where
  device := made.device
  found := made.found
  entry := ⟨entry, made.entry_eq, by
    rw [show c.id = id from made.id_eq]
    exact DeviceConfig.find?_catalog first, made.sizes⟩
  opcode raw := named (made.id_eq.symm.trans raw)

end Command

namespace Emulator

open Session

variable {config : DeviceConfig} {d : EmulatedDevice} {world : World Emulator}

/-- A command for a hosted device is made from the first entry with its id, or is not made for a
reason other than the transport; the device stays as it is. -/
theorem prepare_cases (hosts : world.device.Hosts config d) (id : UInt32) :
    ∃ (d' : EmulatedDevice) (t : Session Emulator), d.SameBut none d' ∧
      t.world.device.Hosts config d' ∧
      ((∃ entry, prepare backend id ⟨.unvalidated config.info, world⟩ = (.ok (), t) ∧
        (config.offered.find? fun entry => entry.id == id) = some entry ∧
        t.command.Constructed config.info config.offered id entry) ∨
      ∃ e, prepare backend id ⟨.unvalidated config.info, world⟩ = (.error e, t) ∧
        e.isTransport = false) := by
  by_cases node : d.HasNode config.info
  · obtain ⟨d', t, same, hosts', ran, left⟩ := prepare_hosted hosts node id
    refine ⟨d', t, same, hosts', ?_⟩
    have made := (Command.constructs_construct config.info config.offered id).cases
    rcases answer : ((Command.unvalidated config.info).construct config.offered id).1 with e | _ <;>
      rw [answer] at made ran
    · rcases made with ⟨entry, c, -, made, -⟩ | ⟨e', made, other⟩
      · cases made
      · cases made
        exact .inr ⟨e, ran, other⟩
    · rcases made with ⟨entry, c, first, made, constructed⟩ | ⟨e', made, other⟩
      · cases made
        exact .inl ⟨entry, ran, first, left ▸ constructed⟩
      · cases made
  · obtain ⟨t, hosts', ran⟩ := prepare_moved hosts node id
    exact ⟨d, t, .refl none d, hosts', .inr ⟨_, ran, rfl⟩⟩

/-- So is a raw command, which has its opcode besides. -/
theorem prepareRaw_cases (hosts : world.device.Hosts config d) {opcode : UInt16}
    (nonzero : opcode ≠ 0) :
    ∃ (d' : EmulatedDevice) (t : Session Emulator), d.SameBut none d' ∧
      t.world.device.Hosts config d' ∧
      ((∃ (entry : CatalogEntry) (c : Command),
        prepareRaw backend opcode ⟨.unvalidated config.info, world⟩ = (.ok (), t) ∧
        (config.offered.find? fun entry => entry.id == CommandId.raw) = some entry ∧
        c.Constructed config.info config.offered CommandId.raw entry ∧
        t.command = { c with rawOpcode := opcode }) ∨
      ∃ e, prepareRaw backend opcode ⟨.unvalidated config.info, world⟩ = (.error e, t) ∧
        e.isTransport = false) := by
  have ran := prepareRaw_apply backend nonzero ⟨.unvalidated config.info, world⟩
  obtain ⟨d', t, same, hosts', ⟨entry, made, first, constructed⟩ | ⟨e, made, other⟩⟩ :=
    prepare_cases hosts CommandId.raw <;> rw [made] at ran
  · exact ⟨d', t.withCommand { t.command with rawOpcode := opcode }, same, hosts',
      .inl ⟨entry, t.command, ran, first, constructed, rfl⟩⟩
  · exact ⟨d', t, same, hosts', .inr ⟨e, ran, other⟩⟩

variable {s : Session Emulator}

/-- A command that the driver lets through is answered, or the node is refused; of the device at
most the part changes that the command is there to change. -/
theorem submit_cases (hosts : s.world.device.Hosts config d)
    (device : s.command.device = config.info) (clear : s.command.sendFault? = none)
    (passes : d.driverFault? s.command.request = none) :
    ∃ (d' : EmulatedDevice) (t : Session Emulator),
      d.SameBut s.command.request.target? d' ∧ t.world.device.Hosts config d' ∧
      ((∃ receipt written, submit backend s = (.ok (Status.ofWord receipt.returnWord), t) ∧
        t.command = s.command.received receipt written) ∨
      submit backend s = (.error (.deviceNodeInvalid config.info.nodePath), t)) := by
  by_cases node : d.HasNode config.info
  · obtain ⟨t, ran, received, hosts'⟩ := submit_hosted hosts node device clear passes
    refine ⟨_, t, ?_, hosts', .inl ⟨_, _, ran, received⟩⟩
    obtain ⟨log, carried⟩ := d.send_carried config.info passes
    have same := d.send_same config.info s.command.request
    rwa [carried] at same
  · obtain ⟨t, hosts', ran⟩ := submit_moved hosts node device clear
    exact ⟨d, t, .refl _ d, hosts', .inr ran⟩

end Emulator

/-! ## Histories -/

/-- The operation keeps the payloads that the command has, up to what is written into them. -/
def Operation.KeepsPayloads : Operation → Prop
  | setInput .. | setOutput .. => False
  | _ => True

namespace Command

variable {config : DeviceConfig} {c : Command} {δ : Type}

theorem Admitted.of_sizes {c' : Command} (admitted : c.Admitted config)
    (same : ∃ input output outSize status, c' = { c with input, output, outSize, status })
    (sizes : ∀ entry, c.entry? = some entry →
      entry.Sizes c.input.bytes.length c.output.bytes.length →
      entry.Sizes c'.input.bytes.length c'.output.bytes.length) : c'.Admitted config := by
  obtain ⟨entry, found, first, declared⟩ := admitted.entry
  have kept := sizes entry found declared
  obtain ⟨input, output, outSize, status, rfl⟩ := same
  exact ⟨admitted.device, admitted.found, ⟨entry, found, first, kept⟩, admitted.opcode⟩

theorem allocInput_sizes {entry : CatalogEntry}
    (sizes : entry.Sizes c.input.bytes.length c.output.bytes.length) :
    entry.Sizes (c.allocInput entry).2.input.bytes.length
      (c.allocInput entry).2.output.bytes.length := by
  unfold allocInput
  split
  · rcases checked : c.checkSize entry.sizeIn.toInt with e | n
    · exact sizes
    · obtain ⟨size, -⟩ := checkSize_eq_ok_iff.mp checked
      exact ⟨fun _ => by simpa [Payload.length_make] using size, sizes.2⟩
  · exact sizes

theorem allocOutput_sizes {entry : CatalogEntry}
    (sizes : entry.Sizes c.input.bytes.length c.output.bytes.length) :
    entry.Sizes (c.allocOutput entry).2.input.bytes.length
      (c.allocOutput entry).2.output.bytes.length := by
  unfold allocOutput
  split
  · rcases checked : c.checkSize (c.declaredOutput entry) with e | n
    · exact sizes
    · obtain ⟨size, -⟩ := checkSize_eq_ok_iff.mp checked
      refine ⟨sizes.1, fun declared => ?_⟩
      have enough := outputSize_declared c.device declared
      rw [declaredOutput_eq] at size
      simp only [Payload.length_make, Option.map_none, Option.getD_none]
      omega
  · exact sizes

theorem Admitted.withOutput (admitted : c.Admitted config) (content : Bytes) :
    (c.withOutput content).Admitted config := by
  refine admitted.of_sizes ⟨c.input, _, c.outSize, c.status, rfl⟩ fun entry _ sizes => ?_
  rw [show (c.withOutput content).output.bytes.length = c.output.bytes.length from
    c.output.length_bytes_withBytes content]
  exact sizes

theorem Admitted.completeSend (admitted : c.Admitted config) (receipt : Receipt) :
    (c.completeSend receipt).Admitted config :=
  admitted.of_sizes ⟨c.input, c.output, _, _, rfl⟩ fun _ _ sizes => sizes

/-- Allocating once more gives the sizes that the entry declares, or leaves those that are there. -/
theorem allocSend_sizes {entry : CatalogEntry} (found : c.entry? = some entry) (id : UInt32)
    (sizes : entry.Sizes c.input.bytes.length c.output.bytes.length) :
    entry.Sizes (c.allocSend id).2.input.bytes.length (c.allocSend id).2.output.bytes.length := by
  have inputSizes := allocInput_sizes sizes
  simp only [allocSend, found]
  split
  · exact sizes
  · rcases made : c.allocInput entry with ⟨e | _, c'⟩ <;> rw [made] at inputSizes
    · exact inputSizes
    · exact allocOutput_sizes inputSizes

theorem length_writeInput (c : Command) (data : Bytes) :
    (c.writeInput data).2.input.bytes.length = c.input.bytes.length := by
  unfold writeInput
  split
  · rfl
  · exact c.input.length_bytes_withBytes data

theorem Admitted.performed (admitted : c.Admitted config) (backend : Backend δ) {op : Operation}
    (keeps : op.KeepsPayloads) (world : World δ) :
    (op.perform backend ⟨c, world⟩).2.command.Admitted config := by
  have clear := admitted.clear
  have found := Resolution.isFound_iff.mp admitted.found
  cases op <;> simp only [Operation.perform, Effect.bind_pure_apply]
  case query =>
    have settled : c.queryVerdict? = some (.ok ()) := by rw [queryVerdict?, found]
    have fetched : (⟨c, world⟩ : Session δ).command.queryVerdict? = some (.ok ()) := settled
    rw [Session.query_settled fetched]
    exact admitted
  case validate id =>
    obtain ⟨log, ran⟩ := Session.validate_apply id ⟨c, world⟩
    rw [ran]
    rw [Session.withCommand_command, validate_resolved (by simp [found])]
    exact admitted
  case allocSend id =>
    obtain ⟨input, output, outSize, same⟩ := c.allocSend_eq id
    exact admitted.of_sizes ⟨input, output, outSize, c.status, same⟩ fun entry here sizes =>
      allocSend_sizes here id sizes
  case setInput buffer? size => exact keeps.elim
  case setOutput buffer? size => exact keeps.elim
  case writeInput data =>
    obtain ⟨input, same⟩ := c.writeInput_eq data
    have output : (c.writeInput data).2.output = c.output := by rw [same]
    rw [Session.writeInput_apply, Session.withCommand_command]
    refine admitted.of_sizes ⟨input, c.output, c.outSize, c.status, same⟩ fun entry _ sizes => ?_
    rw [length_writeInput, output]
    exact sizes
  case submit =>
    obtain ⟨log, ran⟩ := Session.submit_sends backend
      (show (⟨c, world⟩ : Session δ).command.sendFault? = none from clear)
    rw [ran]
    generalize backend.send world.files c.device c.request world.device = reply
    rcases verdict : reply.verdict with e | receipt <;> simp only [verdict]
    · exact admitted.withOutput _
    · exact (admitted.withOutput _).completeSend receipt

end Command

/-- The commands of a hosted device that histories lead to which replace no payload.  Every
operation finds a world of its own. -/
inductive Negotiated (config : DeviceConfig) (origin : Origin) : Command → Prop
  | made (d : EmulatedDevice) (world : World Emulator) (hosts : world.device.Hosts config d) :
      (origin.make Emulator.backend ⟨.unvalidated config.info, world⟩).1 = .ok () →
      Negotiated config origin
        (origin.make Emulator.backend ⟨.unvalidated config.info, world⟩).2.command
  | performed {c : Command} (op : Operation) (keeps : op.KeepsPayloads) (world : World Emulator) :
      Negotiated config origin c →
      Negotiated config origin (op.perform Emulator.backend ⟨c, world⟩).2.command

theorem Negotiated.admitted {config : DeviceConfig} {origin : Origin} {c : Command}
    (negotiated : Negotiated config origin c) (validated : origin ≠ .unvalidated)
    (named : origin ≠ .known CommandId.raw) : c.Admitted config := by
  induction negotiated with
  | performed op keeps world _ admitted => exact admitted.performed _ keeps world
  | made d world hosts made =>
      cases origin with simp only [Origin.make] at made ⊢
      | unvalidated => exact absurd rfl validated
      | known id =>
          obtain ⟨d', t, -, -, ⟨entry, ran, first, constructed⟩ | ⟨e, ran, -⟩⟩ :=
            Emulator.prepare_cases hosts id <;> rw [ran] at made ⊢
          · have own : { t.command with rawOpcode := 0 } = t.command := by
              rw [← constructed.rawOpcode]
            rw [← own]
            exact constructed.admitted first fun raw => absurd (congrArg Origin.known raw) named
          · cases made
      | raw opcode =>
          have nonzero : opcode ≠ 0 := by
            rintro rfl
            cases made
          obtain ⟨d', t, -, -, ⟨entry, c, ran, first, constructed, left⟩ | ⟨e, ran, -⟩⟩ :=
            Emulator.prepareRaw_cases hosts nonzero <;> rw [ran] at made ⊢
          · rw [left]
            exact constructed.admitted first fun _ => nonzero
          · cases made

end CxlMailbox
