/-
# CxlMailbox.Proofs.Labels.Destination — what a failed label read leaves in the caller's buffer

The caller's buffer is lent to the command as its output, so a device writes into it before anybody
has looked at the status, or at the number of bytes.

* `fetch_outcomes`: over any backend, a read either ends before the buffer is lent, or it has one
  reply, and the buffer has what that reply has written in front of what was there;
* `Emulator.read_reply`: an emulated device writes nothing, or it completes the read and writes the
  range as far as its limit goes;
* `failed_read_keeps`: so a read that fails leaves the buffer alone, unless the device's limit cuts
  the reply short, and then the front of the range is in it.

The front that is left behind is `short_read_overwrites`.
-/
import CxlMailbox.Proofs.Command.Allocation
import CxlMailbox.Proofs.Emulator.Admission
import CxlMailbox.Proofs.Emulator.ReplySize
import CxlMailbox.Proofs.Inquiry.Outcome
import CxlMailbox.Proofs.Labels.Refinement

namespace CxlMailbox

set_option autoImplicit false

open Effect Session

variable {δ : Type}

/-- What is laid over a window of a buffer is laid over the buffer. -/
theorem overlay_take_append_drop {buffer front : Bytes} {n : Nat} (covers : n ≤ buffer.length)
    (fits : front.length ≤ n) :
    overlay front (buffer.take n) ++ buffer.drop n = front ++ buffer.drop front.length := by
  have whole : front.take (buffer.take n).length = front := by
    apply List.take_of_length_le
    rw [List.length_take_of_le covers]
    exact fits
  have behind : (buffer.take n).drop front.length ++ buffer.drop n = buffer.drop front.length := by
    have joined := congrArg (List.drop front.length) (List.take_append_drop n buffer)
    rwa [List.drop_append_of_le_length (by rwa [List.length_take_of_le covers])] at joined
  rw [overlay, whole, List.append_assoc, behind]

/-! ## Making a command lends nothing -/

/-- The sizes that a catalog declares get buffers of the command's own. -/
theorem Command.allocSend_unlent {c : Command} (unlent : c.output.lender? = none) (id : UInt32) :
    (c.allocSend id).2.output.lender? = none := by
  rcases c.allocSend_output id with same | ⟨bytes, owned⟩
  · rw [same]
    exact unlent
  · rw [owned]
    rfl

namespace Session

/-- The command has no buffer of the caller as its output. -/
def Unlent (s : Session δ) : Prop := s.command.output.lender? = none

theorem query_unlent (backend : Backend δ) : Keeps Unlent (query backend) := by
  intro s unlent
  obtain ⟨catalog, ran⟩ := query_eq backend s
  rw [Unlent, ran]
  exact unlent

theorem validate_unlent (id : UInt32) : Keeps (Unlent (δ := δ)) (validate id) := by
  intro s unlent
  obtain ⟨log, ran⟩ := validate_apply id s
  obtain ⟨id', resolution, index?, same⟩ := s.command.validate_eq id
  rw [ran, same]
  exact unlent

theorem prepare_unlent (backend : Backend δ) (id : UInt32) : Keeps Unlent (prepare backend id) :=
  .bind (query_unlent backend) fun _ =>
    .bind (validate_unlent id) fun _ _ unlent => Command.allocSend_unlent unlent id

end Session

/-! ## A read over any backend -/

namespace Labels

/-- A lent output has what was written in front of what was there. -/
theorem lender?_written (c : Command) (buffer : Bytes) (offset : UInt32) (n : Nat)
    (written : Bytes) :
    let sent := forRead c buffer offset n
    (sent.withOutput (overlay written sent.output.bytes)).output.lender? =
      some (overlay written (buffer.take n) ++ buffer.drop n) := by
  have same : overlay (overlay written (buffer.take n)) (buffer.take n) =
      overlay written (buffer.take n) := overlay_of_length_eq (length_overlay _ _)
  simp only [forRead, Command.withOutput, Payload.make, Payload.withBytes, Payload.bytes,
    Payload.lender?, same]

/-- A read lends no buffer, or it comes to one reply, which is in the buffer and decides how the
read ends. -/
theorem fetch_outcomes (backend : Backend δ) {buffer : Bytes} {n : Nat} (offset : UInt32)
    (covers : n ≤ buffer.length) {s : Session δ} (unlent : s.Unlent) :
    let ran := fetch backend buffer offset n s
    ran.2.Unlent ∨
    ∃ t : Session δ, prepare backend CommandId.getLabels s = (.ok (), t) ∧
      let sent := forRead t.command buffer offset n
      let reply := backend.send t.world.files t.command.device sent.request t.world.device
      ran.2.command.output.lender? =
        some (overlay reply.written (buffer.take n) ++ buffer.drop n) ∧
      ran.1 = reply.verdict.bind fun receipt => readVerdict n (sent.received receipt reply.written)
    := by
  have kept := prepare_unlent backend CommandId.getLabels s unlent
  rcases made : prepare backend CommandId.getLabels s with ⟨e | _, t⟩ <;> rw [made] at kept
  case error =>
    rw [fetch, bind_error made]
    exact .inl kept
  by_cases fits : headerSize ≤ t.command.device.payloadMax.toNat ∧
    n ≤ t.command.device.payloadMax.toNat
  case neg =>
    have exceeds : t.command.device.payloadMax.toNat < headerSize ∨
        t.command.device.payloadMax.toNat < n := by omega
    obtain ⟨e, input, ran⟩ := fetch_oversized backend buffer offset made exceeds
    rw [ran]
    exact .inl kept
  obtain ⟨log, ran⟩ := fetch_sends backend offset made fits.1 fits.2
    covers
  have found := (prepare_ok (congrArg Prod.fst made)).2
  rw [made] at found
  have clear : (forRead t.command buffer offset n).sendFault? = none :=
    Command.sendFault?_eq_none_iff.mpr found
  obtain ⟨log', sent⟩ := submit_sends backend
    (s := t.withCommand (forRead t.command buffer offset n)) clear
  refine .inr ⟨t, rfl, ?_⟩
  have written := lender?_written t.command buffer offset n
  simp only [withCommand_command, withCommand_world,
    show (forRead t.command buffer offset n).device = t.command.device from rfl] at sent
  simp only [ran, sent]
  generalize backend.send t.world.files t.command.device _ t.world.device = reply
  rcases verdict : reply.verdict with e | receipt
  · exact ⟨written reply.written, rfl⟩
  · exact ⟨written reply.written, rfl⟩

/-- A read that the device has completed succeeds if all bytes have come. -/
theorem readVerdict_completed {c : Command} {n : Nat} (sized : c.request.output.length = n)
    {written : Bytes} (fits : written.length ≤ n) (small : n < UInt32.size) :
    readVerdict n (c.received ⟨UInt32.ofNat written.length, 0⟩ written) =
      if written.length < n then .error (.shortPayload n written.length) else .ok () := by
  have success : successVerdict (c.received ⟨UInt32.ofNat written.length, 0⟩ written) = .ok () :=
    successVerdict_received c _ written
  have outSize : (c.received ⟨UInt32.ofNat written.length, 0⟩ written).outSize =
      written.length := by
    rw [Command.received_outSize, sized, toNat_wordOf (by omega)]
    omega
  rw [readVerdict_of_ok success, outSize]

end Labels

/-! ## A read of an emulated device -/

namespace EmulatedDevice

variable {d : EmulatedDevice}

/-- A range that lies in the label area is delivered as far as the limit goes. -/
theorem limited_slice {offset n : Nat} (inside : offset + n ≤ d.labels.length) :
    let delivered := d.limited (Bytes.slice d.labels offset n)
    delivered.length = n ∨
      ∃ limit, d.outputLimit = some limit ∧ limit.toNat < n ∧ delivered.length = limit.toNat ∧
        delivered = Bytes.slice d.labels offset limit.toNat := by
  intro delivered
  have asked : (Bytes.slice d.labels offset n).length = n := by
    rw [Bytes.slice, List.length_take, List.length_drop]
    omega
  rcases at_ : d.outputLimit with _ | limit
  · refine .inl ?_
    simp only [delivered, limited, at_]
    exact asked
  have cut : delivered = (Bytes.slice d.labels offset n).take limit.toNat := by
    simp only [delivered, limited, at_]
  have length : delivered.length = min limit.toNat n := by
    rw [cut, List.length_take, asked]
  by_cases below : limit.toNat < n
  · refine .inr ⟨limit, rfl, below, by omega, ?_⟩
    rw [cut, Bytes.slice, List.take_take, Nat.min_eq_left (Nat.le_of_lt below)]
    rfl
  · exact .inl (by omega)

/-- The reply to a label read writes nothing, or it reports success and has the range, as far as the
limit goes. -/
theorem Replies.read {request : SendRequest} {offset : UInt32} {n : Nat} {receipt : Receipt}
    {written : Bytes} (replies : d.Replies request receipt written)
    (id : request.id = CommandId.getLabels) (input : request.input = Labels.readHeader offset n)
    (small : n < UInt32.size) :
    written = [] ∨
      d.forcedStatus = none ∧ offset.toNat + n ≤ d.labels.length ∧
        written = d.limited (Bytes.slice d.labels offset.toNat n) ∧
        receipt = ⟨UInt32.ofNat written.length, 0⟩ := by
  have executed : d.execute request.id request.rawOpcode request.input =
      if offset.toNat + n ≤ d.labels.length then d.answers (Bytes.slice d.labels offset.toNat n)
      else d.refuses .invalidInput := by
    rw [id, input, execute_getLabels, d.readLabels_header small]
  cases replies with
  | forced at_ => exact .inl rfl
  | silent unforced nothing => exact .inl rfl
  | oversized unforced responds short => exact .inl rfl
  | @delivered response unforced responds room =>
    rw [executed] at responds ⊢
    split at responds
    next inside =>
      obtain rfl : Bytes.slice d.labels offset.toNat n = response := Option.some.inj responds
      rw [if_pos inside]
      exact .inr ⟨unforced, inside, rfl, rfl⟩
    next => cases responds

end EmulatedDevice

namespace Emulator

variable {e : Emulator} {config : DeviceConfig} {d : EmulatedDevice}

/-- So is the answer of the emulator, which has checked the node and the sizes before. -/
theorem read_reply (hosts : e.Hosts config d) (files : FileTree) {request : SendRequest}
    {offset : UInt32} {n : Nat} (id : request.id = CommandId.getLabels)
    (input : request.input = Labels.readHeader offset n) (small : n < UInt32.size) :
    let reply := backend.send files config.info request e
    reply.written = [] ∨
      d.forcedStatus = none ∧ offset.toNat + n ≤ d.labels.length ∧
        reply.written = d.limited (Bytes.slice d.labels offset.toNat n) ∧
        reply.verdict = .ok ⟨UInt32.ofNat reply.written.length, 0⟩ := by
  by_cases node : d.HasNode config.info
  case neg =>
    obtain ⟨log, refused⟩ := send_refused hosts.found node files request
    rw [refused]
    exact .inl rfl
  rw [send_reached hosts.found node]
  rcases verdict : (d.send config.info request).verdict with fault | receipt
  · have failed : (d.send config.info request).Failed := by
      rw [SendReply.Failed, verdict]
      trivial
    exact .inl (EmulatedDevice.send_failed (.inl failed)).2
  · rcases (EmulatedDevice.send_replies verdict).read id input small with
      nothing | ⟨unforced, inside, written, receipt_eq⟩
    · exact .inl nothing
    · exact .inr ⟨unforced, inside, written, verdict.trans (congrArg Except.ok receipt_eq)⟩

end Emulator

/-! ## A read that fails -/

namespace Labels

/-- A read of `n` bytes that failed because the device's limit let some of them through, and not
all: these are in the buffer, and what is behind them is as it was. -/
structure CutShort (d : EmulatedDevice) (offset : UInt32) (n : Nat) (buffer : Bytes)
    (limit : UInt32) (e : Error) (after : Bytes) : Prop where
  unforced : d.forcedStatus = none
  limited : d.outputLimit = some limit
  some_ : 0 < limit.toNat
  below : limit.toNat < n
  error : e = .shortPayload n limit.toNat
  after : after = Bytes.slice d.labels offset.toNat limit.toNat ++ buffer.drop limit.toNat

variable {config : DeviceConfig} {d : EmulatedDevice} {world : World Emulator}

/-- A fetch that fails leaves the buffer, or it was cut short. -/
theorem failed_fetch_keeps (hosts : world.device.Hosts config d) {buffer : Bytes} {n : Nat}
    (offset : UInt32) (covers : n ≤ buffer.length) (small : n < UInt32.size) {e : Error}
    (failed : (fetch Emulator.backend buffer offset n ⟨.unvalidated config.info, world⟩).1 =
      .error e) :
    let after := (fetch Emulator.backend buffer offset n
      ⟨.unvalidated config.info, world⟩).2.command.output.lender?.getD buffer
    after = buffer ∨ ∃ limit, CutShort d offset n buffer limit e after := by
  intro after
  rcases fetch_outcomes Emulator.backend offset covers (s := ⟨.unvalidated config.info, world⟩) rfl
    with unlent | ⟨t, made, lent, ended⟩
  · refine .inl ?_
    simp only [after]
    rw [unlent]
    rfl
  -- The buffer was lent to a command of the hosted device, which is as it was, up to its counters.
  obtain ⟨d', t', same, hosts', ⟨entry, made', -, constructed⟩ | ⟨e', made', -⟩⟩ :=
    Emulator.prepare_cases hosts CommandId.getLabels
  case inr => cases made.symm.trans made'
  cases made.symm.trans made'
  rw [constructed.device] at lent ended
  rw [failed] at ended
  have window : (forRead t.command buffer offset n).request.output.length = n :=
    List.length_take_of_le covers
  have id : (forRead t.command buffer offset n).request.id = CommandId.getLabels :=
    constructed.id_eq
  have replied := Emulator.read_reply hosts' t.world.files id rfl small
  generalize Emulator.backend.send t.world.files config.info _ t.world.device = reply
    at lent ended replied
  have buffered : after = overlay reply.written (buffer.take n) ++ buffer.drop n :=
    congrArg (Option.getD · buffer) lent
  rcases replied with nothing | ⟨unforced, inside, written, verdict⟩
  · refine .inl ?_
    rw [buffered, nothing, overlay_nil, List.take_append_drop]
  rcases EmulatedDevice.limited_slice inside with whole | ⟨limit, limited, below, length, front⟩
  · -- All bytes have come, so the read has not failed.
    rw [← written] at whole
    rw [verdict, Except.bind, readVerdict_completed window (Nat.le_of_eq whole) small,
      if_neg (by omega)] at ended
    cases ended
  · rw [← written] at length front
    rw [verdict, Except.bind, readVerdict_completed window (by omega) small, if_pos (by omega),
      length] at ended
    rw [overlay_take_append_drop covers (by omega), length, front] at buffered
    by_cases some_ : 0 < limit.toNat
    · exact .inr ⟨limit,
        { unforced := same.forcedStatus.symm.trans unforced
          limited := same.outputLimit.symm.trans limited
          some_ := some_
          below := below
          error := Except.error.inj ended
          after := by rw [buffered, same.labels nofun] }⟩
    · have zero : limit.toNat = 0 := by omega
      rw [zero] at buffered
      exact .inl buffered

end Labels

/-- **A failed label read leaves the destination alone**, unless a limit cuts the reply short: on
every emulated device, whatever status is forced on it, whatever its limit and whether or not its
node was replaced, and for every buffer and range. -/
theorem failed_read_keeps {config : DeviceConfig} {d : EmulatedDevice} {world : World Emulator}
    (hosts : world.device.Hosts config d) (buffer : Bytes) (offset length : UInt32) {e : Error}
    (failed : (Labels.read Emulator.backend config.info buffer offset length world).1.1 =
      .error e) :
    let after := (Labels.read Emulator.backend config.info buffer offset length world).1.2
    after = buffer ∨
      ∃ n limit, Labels.resolveLength config.info offset length = .ok n ∧
        Labels.CutShort d offset n buffer limit e after := by
  intro after
  let call := LabelCall.read buffer offset length
  by_cases ranged : ∃ n, Labels.resolveLength config.info offset length = .ok n ∧ n ≤ buffer.length
  case neg =>
    obtain ⟨fault, log, ran⟩ := call.perform_refused Emulator.backend
      (fun n resolved covers => ranged ⟨n, resolved, covers⟩) world
    exact .inl (congrArg (·.1.2) ran)
  obtain ⟨n, resolved, covers⟩ := ranged
  have ends := (Labels.resolveLength_eq_ok_iff.mp resolved).2.2
  have small : n < UInt32.size :=
    Nat.lt_of_le_of_lt (Nat.le_trans (Nat.le_add_left n _) ends) config.info.labelAreaSize.toNat_lt
  obtain ⟨log, ran⟩ := call.perform_driven Emulator.backend resolved covers world
  have answered := (congrArg (·.1.1) ran).symm.trans failed
  have buffered : after = _ := congrArg (·.1.2) ran
  rw [buffered]
  have logged : ({ world with log } : World Emulator).device.Hosts config d := hosts
  rcases Labels.failed_fetch_keeps logged offset covers small answered with kept | ⟨limit, cut⟩
  · exact .inl kept
  · exact .inr ⟨n, limit, resolved, cut⟩

/-! ## Four bytes, two of them delivered -/

/-- A device with four label bytes that delivers two bytes of a response at most. -/
def Emulator.twoBytes : Emulator := (ofConfigs [.tiny]).limitOutput 0 (some 2)

/-- Once its node is replaced, the device is not asked, and the buffer stays. -/
theorem failed_read_keeps_replaced :
    let moved : World Emulator := { device := Emulator.twoBytes.replaceNode 0 }
    let ran := Labels.read Emulator.backend DeviceConfig.tiny.info [9, 9, 9, 9] 0 4 moved
    ran.1 = (.error (.deviceNodeInvalid DeviceConfig.tiny.info.nodePath), [9, 9, 9, 9]) := by
  intro moved ran
  have failed : ran.1.1 = .error (.deviceNodeInvalid DeviceConfig.tiny.info.nodePath) := by
    decide +kernel
  have hosts : moved.device.Hosts .tiny { EmulatedDevice.powerOn .tiny with
      outputLimit := some 2, nodeMinor := DeviceConfig.tiny.minor + 1000 } := ⟨rfl, rfl⟩
  rcases failed_read_keeps hosts [9, 9, 9, 9] 0 4 failed with kept | ⟨n, limit, -, cut⟩
  · exact Prod.ext failed kept
  · cases cut.error

/-- Before that, the read of four bytes fails, and two of them are in the buffer. -/
theorem short_read_overwrites :
    let world : World Emulator := { device := Emulator.twoBytes }
    (Labels.read Emulator.backend DeviceConfig.tiny.info [9, 9, 9, 9] 0 4 world).1 =
      (.error (.shortPayload 4 2), [0, 0, 9, 9]) := by
  intro world
  decide +kernel

end CxlMailbox
