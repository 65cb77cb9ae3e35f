/-
# CxlMailbox.Proofs.Inquiry.EffectsLog — how much of the Command Effects Log is read

The entries of the Command Effects Log are read in two steps: the size of the log is looked up in
the list of logs, and then so many bytes are read, in pieces.

* `Inquiry.effectsLog_answered` takes a call that answers apart into these;
* `effects_log_read`: the entries are those of the bytes that were received, and they are all that
  the listed size promises, unless the device ended the log with an empty reply;
* `shortened_log_answered`: in that case fewer entries are answered, and no failure.
-/
import CxlMailbox.Proofs.Inquiry.LogReading
import CxlMailbox.Proofs.Payload.LogList

namespace CxlMailbox

set_option autoImplicit false

open Effect Session

variable {δ : Type}

namespace Inquiry

/-- A call that answers has fetched the list of logs and then read the log that it looked up. -/
theorem effectsLog_answered {backend : Backend δ} {info : DeviceInfo} {world : World δ}
    {entries : List EffectsEntry} (answered : (effectsLog backend info world).1 = .ok entries) :
    ∃ listing reads logs log bytes,
      Task.exchanges (effectsLog backend.recorded info) world = listing ++ reads ∧
      Dialogue info (Command.arrangedFor info CommandId.getSupportedLogs .ok)
        SupportedLog.decodeList listing (.ok logs) ∧
      logs.find? SupportedLog.isEffectsLog = some log ∧ info.payloadMax ≠ 0 ∧
      Readout info log.uuid 0 log.size.toNat reads (.ok bytes) ∧
      entries = EffectsEntry.decodeLog bytes := by
  rw [answer_task (effectsLog_follows backend.recorded_follows info) world] at answered
  obtain ⟨logs, t, listed, rest⟩ := bind_eq_ok_iff.mp (Prod.ext answered rfl)
  obtain ⟨listing, asked, dialogue⟩ := get_dialogue backend info world.recording
    CommandId.getSupportedLogs SupportedLog.decodeList
  rw [show (get _ _ _).once info _ = _ from listed] at asked dialogue
  rcases looked : logs.find? SupportedLog.isEffectsLog with _ | log <;>
    simp only [looked] at rest
  · cases rest
  · obtain ⟨bytes, u, read, ended⟩ := bind_eq_ok_iff.mp rest
    have payloads : info.payloadMax ≠ 0 := by
      intro none_
      rw [readLog, if_pos none_] at read
      cases read
    obtain ⟨reads, behind, readout⟩ := readLog_readout backend payloads log.uuid 0 log.size t
    rw [read] at behind readout
    obtain ⟨same, left⟩ := Prod.mk.inj ended
    refine ⟨listing, reads, logs, log, bytes, ?_, dialogue, looked, payloads, readout,
      (Except.ok.inj same).symm⟩
    have after : (effectsLog backend.recorded info world.recording).2 = u := left.symm
    rw [Task.exchanges, after, behind, asked]
    rfl

end Inquiry

/-! ## As many entries as bytes came -/

open Exchange in
/-- How the entries of a log of so many bytes agree with the exchanges of its reading. -/
structure EntriesRead (size : Nat) (reads : List Exchange) (entries : List EffectsEntry) :
    Prop where
  /-- There is one for each four bytes that came. -/
  length_eq : entries.length = (received reads).length / 4
  /-- Each of them is written in the four bytes at its place. -/
  encoded : ∀ (i : Nat) (inside : i < entries.length),
    entries[i].encode = Bytes.slice (received reads) (4 * i) 4
  within : (received reads).length ≤ size
  /-- There are fewer bytes than listed only after an empty reply. -/
  shortened : (received reads).length < size →
    ∃ before last, reads = before ++ [last] ∧ last.isSend = true ∧ last.result = .ok []
  /-- So without one there are as many entries as the listed size promises. -/
  whole : (∀ read ∈ reads, read.isSend = true → read.output ≠ []) →
    (received reads).length = size ∧ entries.length = size / 4

theorem Readout.entriesRead {info : DeviceInfo} {uuid : Uuid} {size : Nat}
    {reads : List Exchange} {bytes : Bytes} (readout : Readout info uuid 0 size reads (.ok bytes)) :
    EntriesRead size reads (EffectsEntry.decodeLog bytes) := by
  obtain ⟨rfl, within, shortened⟩ := readout.of_ok bytes rfl
  refine ⟨EffectsEntry.length_decodeLog _, EffectsEntry.encode_getElem_decodeLog _, within,
    shortened, fun some_ => ?_⟩
  have all : (Exchange.received reads).length = size := by
    refine Nat.le_antisymm within (Nat.le_of_not_lt fun fewer => ?_)
    obtain ⟨before, last, rfl, sent, empty⟩ := shortened fewer
    exact some_ last (by simp) sent (Exchange.output_of_ok empty)
  exact ⟨all, by rw [EffectsEntry.length_decodeLog, all]⟩

/-- **The Command Effects Log is read as far as the device delivers it**, over every backend: the
entries come from the bytes of the replies, asked for from the front of the first listed log of that
kind on, and they are as many as its size promises unless a reply was empty. -/
theorem effects_log_read (backend : Backend δ) (info : DeviceInfo) (world : World δ)
    (entries : List EffectsEntry)
    (answered : (Inquiry.effectsLog backend info world).1 = .ok entries) :
    ∃ queries request verdict written reply logs log reads,
      Task.exchanges (Inquiry.effectsLog backend.recorded info) world =
        queries ++ .send info request verdict written :: reads ∧
      Dialogue.Heard queries ∧ request.id = CommandId.getSupportedLogs ∧
      (Exchange.send info request verdict written).result = .ok reply ∧
      SupportedLog.decodeList reply = .ok logs ∧
      logs.find? SupportedLog.isEffectsLog = some log ∧
      LogBounds info .effectsLog 0 log.size.toNat reads (.ok (Exchange.received reads)) ∧
      EntriesRead log.size.toNat reads entries := by
  obtain ⟨listing, reads, logs, log, bytes, same, dialogue, looked, payloads, readout, rfl⟩ :=
    Inquiry.effectsLog_answered answered
  obtain ⟨queries, catalog, c, verdict, written, heard, allowed, rfl, decoded⟩ := dialogue.of_ok
  obtain ⟨entry, constructed⟩ := Command.arrangedFor_bare allowed
  have kind : log.uuid = .effectsLog := by
    simpa [SupportedLog.isEffectsLog] using List.find?_some looked
  rw [constructed.device] at same decoded
  rw [kind] at readout
  have fits : (0 : UInt32).toNat + log.size.toNat ≤ UInt32.size := by
    rw [UInt32.toNat_zero, Nat.zero_add]
    exact Nat.le_of_lt log.size.toNat_lt
  have bounds := readout.bounds payloads fits
  rw [(readout.of_ok bytes rfl).1] at bounds
  rcases came : (Exchange.send info c.request verdict written).result with e | reply <;>
    rw [came] at decoded
  · cases decoded
  · refine ⟨queries, c.request, verdict, written, reply, logs, log, reads, ?_, heard,
      constructed.id_eq, came, decoded, looked, bounds, readout.entriesRead⟩
    rw [same, List.append_assoc]
    rfl

/-! ## A log that ends early -/

/-- A device that lists an effects log of eight bytes and delivers it in the given replies. -/
def World.delivering (replies : List Bytes) : World Script :=
  let listed : Bytes := SupportedLog.encodeList [{ uuid := .effectsLog, size := 8 }]
  { device :=
      { catalog? := some [.enabled CommandId.getSupportedLogs 0 variableSize,
          .enabled CommandId.getLog 24 variableSize]
        sends := (listed :: replies).map fun data => .ok { data? := some data } } }

/-- Replies of six bytes and of two bring both entries. -/
theorem effects_log_read_delivering :
    let info : DeviceInfo := { payloadMax := 64 }
    let world := World.delivering [[0x00, 0x40, 0, 0, 0x00, 0x03], [1, 0]]
    (Inquiry.effectsLog Script.backend info world).1 = .ok [⟨0x4000, 0⟩, ⟨0x0300, 1⟩] ∧
      ∃ size reads, EntriesRead size reads [⟨0x4000, 0⟩, ⟨0x0300, 1⟩] := by
  intro info world
  have answered : (Inquiry.effectsLog Script.backend info world).1 =
      .ok [⟨0x4000, 0⟩, ⟨0x0300, 1⟩] := ok_of_toOption (by decide +kernel)
  obtain ⟨_, _, _, _, _, _, log, reads, -, -, -, -, -, -, -, agrees⟩ :=
    effects_log_read Script.backend info world _ answered
  exact ⟨answered, log.size.toNat, reads, agrees⟩

/-- After four of the eight bytes an empty reply is taken for the end of the log: one entry is
answered where the list of logs promises two. -/
theorem shortened_log_answered :
    let info : DeviceInfo := { payloadMax := 64 }
    let world := World.delivering [[0x00, 0x40, 0, 0], []]
    ∃ entries logs log,
      (Inquiry.effectsLog Script.backend info world).1 = .ok entries ∧
      (Inquiry.supportedLogs Script.backend info world).1 = .ok logs ∧
      logs.find? SupportedLog.isEffectsLog = some log ∧
      entries.length ≠ log.size.toNat / 4 := by
  intro info world
  have listed : (Inquiry.supportedLogs Script.backend info world).1 =
      .ok [{ uuid := .effectsLog, size := 8 }] := ok_of_toOption (by decide +kernel)
  have answered : (Inquiry.effectsLog Script.backend info world).1 = .ok [⟨0x4000, 0⟩] :=
    ok_of_toOption (by decide +kernel)
  exact ⟨_, _, _, answered, listed, rfl, by decide⟩

end CxlMailbox
