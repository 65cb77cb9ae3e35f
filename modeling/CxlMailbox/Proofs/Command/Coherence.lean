/-
# CxlMailbox.Proofs.Command.Coherence — the fields of a command agree

A command is changed by seven operations in any order, over a backend that may answer anything and
report any sizes.  `Command.Coherent` is what its fields always say together:

* the resolution and the index are in step, and the index is that of the first catalog entry with
  the command's id, or there is none;
* both payloads fit the device, and the output size fits the output;
* only a resolved command has a status, and only a resolved raw command an opcode.

Every step keeps it (`Command.Coherent.step`), so every reachable command has it
(`reachable_coherent`).
-/
import CxlMailbox.Proofs.Command.Resolution

namespace CxlMailbox

set_option autoImplicit false

/-! ## The invariant -/

/-- `index` is that of the first entry of a catalog with the id. -/
def IsFirstEntry (catalog : List CatalogEntry) (id : UInt32) (index : Nat) : Prop :=
  ∃ inRange : index < catalog.length, catalog[index].id = id ∧
    ∀ earlier (before : earlier < index), catalog[earlier].id ≠ id

/-- What the fields of a command say together; `opcode` is the one it was made with. -/
structure Command.Coherent (info : DeviceInfo) (opcode : UInt16) (c : Command) : Prop where
  device : c.device = info
  inStep : c.InStep
  found_iff : c.resolution.isFound = true ↔
    ∃ index catalog, c.index? = some index ∧ c.catalog = some catalog ∧
      IsFirstEntry catalog c.id index
  unsupported : c.resolution = .unsupported →
    c.index? = none ∧
      ∃ catalog, c.catalog = some catalog ∧ ∀ entry ∈ catalog, entry.id ≠ c.id
  input_le : c.input.bytes.length ≤ info.payloadMax.toNat
  output_le : c.output.bytes.length ≤ info.payloadMax.toNat
  outSize_le : c.outSize ≤ c.output.bytes.length
  status_found : c.status.isSome = true → c.resolution.isFound = true
  rawOpcode : c.rawOpcode = opcode
  raw_found : c.rawOpcode ≠ 0 → c.id = CommandId.raw ∧ c.resolution.isFound = true

theorem isFirstEntry_of_findIdx? {catalog : List CatalogEntry} {id : UInt32} {index : Nat}
    (matched : (catalog.findIdx? fun entry => entry.id == id) = some index) :
    IsFirstEntry catalog id index := by
  obtain ⟨inRange, here, earlier⟩ := List.findIdx?_eq_some_iff_getElem.mp matched
  refine ⟨inRange, by simpa using here, fun j before => ?_⟩
  simpa using earlier j before

theorem forall_ne_of_findIdx? {catalog : List CatalogEntry} {id : UInt32}
    (missing : (catalog.findIdx? fun entry => entry.id == id) = none) :
    ∀ entry ∈ catalog, entry.id ≠ id := by
  intro entry member
  simpa using List.findIdx?_eq_none_iff.mp missing entry member

namespace Command.Coherent

variable {info : DeviceInfo} {opcode : UInt16} {c c' : Command}

theorem unvalidated (info : DeviceInfo) : (Command.unvalidated info).Coherent info 0 where
  device := rfl
  inStep := rfl
  found_iff := by simp [Command.unvalidated, Resolution.isFound]
  unsupported := by simp [Command.unvalidated]
  input_le := by simp [Command.unvalidated, Payload.bytes]
  output_le := by simp [Command.unvalidated, Payload.bytes]
  outSize_le := by simp [Command.unvalidated]
  status_found := by simp [Command.unvalidated]
  rawOpcode := rfl
  raw_found := by simp [Command.unvalidated]

/-! ### One part replaced -/

theorem withInput (coherent : c.Coherent info opcode) {payload : Payload}
    (fits : payload.bytes.length ≤ info.payloadMax.toNat) :
    { c with input := payload }.Coherent info opcode :=
  { coherent with input_le := fits }

theorem withSizedOutput (coherent : c.Coherent info opcode) {payload : Payload} {n : Nat}
    (fits : payload.bytes.length ≤ info.payloadMax.toNat) (sized : n ≤ payload.bytes.length) :
    { c with output := payload, outSize := n }.Coherent info opcode :=
  { coherent with output_le := fits, outSize_le := sized }

theorem receiveCatalog (coherent : c.Coherent info opcode) (unsettled : c.queryVerdict? = none)
    (catalog : List CatalogEntry) : (c.receiveCatalog catalog).Coherent info opcode := by
  have notRun := (queryVerdict?_eq_none_iff.mp unsettled).1
  have absent : c.index? = none := coherent.inStep.index?_eq_none (by rw [notRun]; rfl)
  exact
    { coherent with
      found_iff := by simp [Command.receiveCatalog, notRun, absent, Resolution.isFound]
      unsupported := by simp [Command.receiveCatalog, notRun] }

theorem withOutput (coherent : c.Coherent info opcode) (content : Bytes) :
    (c.withOutput content).Coherent info opcode :=
  { coherent with
    output_le := by simpa [Command.withOutput] using coherent.output_le
    outSize_le := by simpa [Command.withOutput] using coherent.outSize_le }

/-- Whatever size is reported, the output size stays within the output. -/
theorem completeSend (coherent : c.Coherent info opcode) (clear : c.sendFault? = none)
    (receipt : Receipt) : (c.completeSend receipt).Coherent info opcode := by
  exact
    { coherent with
      outSize_le := Nat.min_le_right _ _
      status_found := fun _ => Command.sendFault?_eq_none_iff.mp clear }

/-! ### The operations -/

theorem validate (coherent : c.Coherent info opcode) (id : UInt32) :
    (c.validate id).2.Coherent info opcode := by
  rcases at_ : c.resolution with _ | _ | _
  case found | unsupported =>
    rw [show (c.validate id).2 = c by grind [Command.validate]]
    exact coherent
  case notRun =>
    rcases cached : c.catalog with _ | catalog
    · rw [show (c.validate id).2 = c by simp [Command.validate, at_, cached]]
      exact coherent
    · -- Neither a status nor an opcode comes before a match, so both look-ups are free to end.
      have noStatus : c.status = none := by
        have := coherent.status_found
        cases status : c.status <;> simp_all [Resolution.isFound]
      have noOpcode : c.rawOpcode = 0 := by
        by_cases raw : c.rawOpcode = 0
        · exact raw
        · have found := (coherent.raw_found raw).2
          simp [at_, Resolution.isFound] at found
      rcases matched : catalog.findIdx? fun entry => entry.id == id with _ | index
      · simp only [Command.validate, at_, cached, matched]
        exact
          { coherent with
            inStep := rfl
            found_iff := by simp [Resolution.isFound]
            unsupported := fun _ => ⟨rfl, catalog, rfl, forall_ne_of_findIdx? matched⟩
            status_found := by simp [noStatus]
            raw_found := by simp [noOpcode] }
      · simp only [Command.validate, at_, cached, matched]
        exact
          { coherent with
            inStep := rfl
            found_iff := by simpa [Resolution.isFound] using isFirstEntry_of_findIdx? matched
            unsupported := by simp
            status_found := fun _ => rfl
            raw_found := by simp [noOpcode] }

theorem allocInput (coherent : c.Coherent info opcode) (entry : CatalogEntry) :
    (c.allocInput entry).2.Coherent info opcode := by
  unfold Command.allocInput
  split
  · split
    · rename_i n sized
      have fits := (checkSize_eq_ok_iff.mp sized).2
      rw [coherent.device] at fits
      exact coherent.withInput (by simpa [Payload.length_make] using fits)
    · exact coherent
  · exact coherent

theorem allocOutput (coherent : c.Coherent info opcode) (entry : CatalogEntry) :
    (c.allocOutput entry).2.Coherent info opcode := by
  unfold Command.allocOutput
  split
  · split
    · rename_i n sized
      have fits := (checkSize_eq_ok_iff.mp sized).2
      rw [coherent.device] at fits
      exact coherent.withSizedOutput (by simpa [Payload.length_make] using fits)
        (by simp [Payload.length_make])
    · exact coherent
  · exact coherent

theorem allocSend (coherent : c.Coherent info opcode) (id : UInt32) :
    (c.allocSend id).2.Coherent info opcode := by
  unfold Command.allocSend
  split
  · exact coherent
  · rename_i entry _
    split
    · exact coherent
    · have allocated := coherent.allocInput entry
      split
      · rename_i ran
        rw [ran] at allocated
        exact allocated
      · rename_i ran
        rw [ran] at allocated
        exact allocated.allocOutput entry

theorem setInput (coherent : c.Coherent info opcode) (buffer? : Option Bytes) (size : Int) :
    (c.setInput buffer? size).2.Coherent info opcode := by
  unfold Command.setInput
  split
  · rename_i n payload accepted
    obtain ⟨-, fits, -, length⟩ := checkPayload_ok accepted
    rw [coherent.device, ← length] at fits
    exact coherent.withInput fits
  · exact coherent

theorem setOutput (coherent : c.Coherent info opcode) (buffer? : Option Bytes) (size : Int) :
    (c.setOutput buffer? size).2.Coherent info opcode := by
  unfold Command.setOutput
  split
  · rename_i n payload accepted
    obtain ⟨-, fits, -, length⟩ := checkPayload_ok accepted
    rw [coherent.device, ← length] at fits
    exact coherent.withSizedOutput fits (Nat.le_of_eq length.symm)
  · exact coherent

theorem writeInput (coherent : c.Coherent info opcode) (data : Bytes) :
    (c.writeInput data).2.Coherent info opcode := by
  unfold Command.writeInput
  split
  · exact coherent
  · exact coherent.withInput (by simpa using coherent.input_le)

/-- Every step keeps the fields in agreement. -/
theorem step (coherent : c.Coherent info opcode) (step : c.Step c') : c'.Coherent info opcode := by
  cases step with
  | same => exact coherent
  | fetched unsettled catalog => exact coherent.receiveCatalog unsettled catalog
  | validated id => exact coherent.validate id
  | allocated id => exact coherent.allocSend id
  | inputSet buffer? size => exact coherent.setInput buffer? size
  | outputSet buffer? size => exact coherent.setOutput buffer? size
  | inputWritten data => exact coherent.writeInput data
  | undelivered clear content => exact coherent.withOutput content
  | delivered clear content receipt =>
      exact (coherent.withOutput content).completeSend clear receipt

end Command.Coherent

/-! ## Every history -/

theorem Command.validate_ok {c : Command} {id : UInt32} (validated : (c.validate id).1 = .ok ()) :
    (c.validate id).2.id = id ∧ (c.validate id).2.resolution.isFound = true := by
  rcases at_ : c.resolution with _ | _ | _
  · rcases cached : c.catalog with _ | catalog
    · simp [Command.validate, at_, cached] at validated
    · rcases matched : catalog.findIdx? fun entry => entry.id == id with _ | index
      · simp [Command.validate, at_, cached, matched] at validated
      · simp [Command.validate, at_, cached, matched, Resolution.isFound]
  · by_cases same : id = c.id
    · simp [Command.validate, at_, same, Resolution.isFound]
    · simp [Command.validate, at_, same] at validated
  · simp [Command.validate, at_] at validated

namespace Session

variable {δ : Type} {backend : Backend δ}

/-- Whatever every step of a command keeps, the making of a command keeps. -/
theorem prepare_keeps {P : Command → Prop} (keeps : ∀ c c', c.Step c' → P c → P c')
    (id : UInt32) : Effect.Keeps (fun s => P s.command) (prepare backend id) :=
  .bind (fun s => keeps _ _ (query_step backend s)) fun _ =>
    .bind (fun s => keeps _ _ (validate_step id s)) fun _ _ => keeps _ _ (.allocated id)

/-- A command that was made for an id has found it. -/
theorem prepare_ok {s : Session δ} {id : UInt32} (made : (prepare backend id s).1 = .ok ()) :
    (prepare backend id s).2.command.id = id ∧
      (prepare backend id s).2.command.resolution.isFound = true := by
  obtain ⟨_, t, queried, made⟩ := Effect.bind_eq_ok_iff.mp (Prod.ext made rfl)
  obtain ⟨_, u, validated, allocated⟩ := Effect.bind_eq_ok_iff.mp made
  obtain ⟨log, ran⟩ := validate_apply id t
  rw [ran, Prod.mk.injEq] at validated
  obtain ⟨input, output, outSize, same⟩ := u.command.allocSend_eq id
  have after : (prepare backend id s).2.command = (u.command.allocSend id).2 :=
    (congrArg Session.command (Prod.mk.inj allocated).2).symm
  have found := Command.validate_ok validated.1
  rw [after, same, ← validated.2]
  exact found

end Session

namespace Origin

variable {δ : Type} {backend : Backend δ} {info : DeviceInfo} {world : World δ}

/-- A command is made with its fields in agreement. -/
theorem make_coherent (origin : Origin)
    (made : (origin.make backend ⟨.unvalidated info, world⟩).1 = .ok ()) :
    (origin.make backend ⟨.unvalidated info, world⟩).2.command.Coherent info origin.opcode := by
  have prepared (id : UInt32) :
      (Session.prepare backend id ⟨.unvalidated info, world⟩).2.command.Coherent info 0 :=
    Session.prepare_keeps (fun _ _ step coherent => coherent.step step) id _ (.unvalidated info)
  cases origin with
  | unvalidated => exact .unvalidated info
  | known id => exact prepared id
  | raw opcode =>
      by_cases nonzero : opcode = 0
      · subst nonzero
        cases made
      · have coherent := prepared CommandId.raw
        simp only [make, Session.prepareRaw_apply backend nonzero] at made ⊢
        rcases ran : Session.prepare backend CommandId.raw ⟨.unvalidated info, world⟩ with
          ⟨e | _, t⟩ <;> rw [ran] at made coherent
        · cases made
        · have found := Session.prepare_ok (congrArg Prod.fst ran)
          rw [ran] at found
          exact { coherent with rawOpcode := rfl, raw_found := fun _ => found }

/-- No command is made for the reserved opcode. -/
theorem raw_ne_zero {opcode : UInt16}
    (made : ((raw opcode).make backend ⟨.unvalidated info, world⟩).1 = .ok ()) : opcode ≠ 0 := by
  rintro rfl
  cases made

end Origin

/-- A history leaves the fields in agreement, with the opcode that the command was made with. -/
theorem Reachable.coherent {δ : Type} {backend : Backend δ} {info : DeviceInfo} {origin : Origin}
    {c : Command} (reach : Reachable backend info origin c) : c.Coherent info origin.opcode :=
  reach.keeps (fun _ made => origin.make_coherent made) fun _ _ step coherent => coherent.step step

/-- **The fields of every reachable command agree**, over every backend and after every history,
and its opcode is the one it was made with, never the reserved one for a raw command. -/
theorem reachable_coherent {δ : Type} {backend : Backend δ} {info : DeviceInfo} {origin : Origin}
    {c : Command} (reach : Reachable backend info origin c) :
    c.Coherent info origin.opcode ∧ ∀ opcode, origin = .raw opcode → opcode ≠ 0 := by
  induction reach with
  | made world made =>
      refine ⟨origin.make_coherent made, ?_⟩
      rintro opcode rfl
      exact Origin.raw_ne_zero made
  | performed op world _ ih => exact ⟨ih.1.step (op.perform_step backend ⟨_, world⟩), ih.2⟩

/-! ## A reply beyond every bound -/

/-- A world with a pass-through command, whose reply claims more bytes than any buffer has and
returns a word of all ones. -/
def World.boundless : World Script :=
  { device :=
      { catalog? := some [.enabled CommandId.raw variableSize variableSize]
        sends := [.ok { data? := some [1, 2, 3], outSize? := some 0xffffffff,
                        returnWord := 0xffffffff }] } }

/-- A raw command of a small device in that world. -/
def Command.boundless : Command :=
  ((Origin.raw 0x0300).make Script.backend
    ⟨.unvalidated { payloadMax := 16 }, .boundless⟩).2.command

/-- The same command after the reply. -/
def Command.afterBoundless : Command :=
  (Operation.submit.perform Script.backend ⟨.boundless, .boundless⟩).2.command

/-- The reply is stored, its size cut to that of the output, and the fields still agree. -/
theorem afterBoundless_coherent :
    Reachable Script.backend { payloadMax := 16 } (.raw 0x0300) .afterBoundless ∧
      Command.afterBoundless.outSize = 16 ∧ Command.afterBoundless.status = some (.unknown (-1)) ∧
      Command.afterBoundless.Coherent { payloadMax := 16 } 0x0300 := by
  have made : Reachable Script.backend { payloadMax := 16 } (.raw 0x0300) .boundless :=
    .made .boundless rfl
  have reach : Reachable Script.backend { payloadMax := 16 } (.raw 0x0300) .afterBoundless :=
    .performed .submit .boundless made
  exact ⟨reach, by decide +kernel, by decide +kernel, (reachable_coherent reach).1⟩

end CxlMailbox
