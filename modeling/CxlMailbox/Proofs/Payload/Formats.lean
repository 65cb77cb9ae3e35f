/-
# CxlMailbox.Proofs.Payload.Formats — the formats of fixed size

Every payload of a fixed size has its layout here: the fields in the order of their bytes.  For each
of them the encoder writes the layout (`encode_eq`), the decoder reads it (`reads`), and what was
written reads back (`read_encode`).  So the two directions are inverse to each other, up to the
reserved bytes and to what a field of the wire has no room for (`fixed_formats_exact`).
-/
import CxlMailbox.Payload.Alert
import CxlMailbox.Payload.EventPolicy
import CxlMailbox.Payload.Firmware
import CxlMailbox.Payload.Health
import CxlMailbox.Payload.Identify
import CxlMailbox.Payload.Log
import CxlMailbox.Proofs.Payload.Layout

namespace CxlMailbox

set_option autoImplicit false

/-! ## Identify -/

namespace Identify

/-- The fields of the payload. -/
def layout : Layout Identify :=
  [.block 16 (·.firmwareRevision.bytes), .word 8 (·.totalCapacity.toNat),
    .word 8 (·.volatileCapacity.toNat), .word 8 (·.persistentCapacity.toNat),
    .word 8 (·.partitionAlign.toNat), .word 2 (·.infoLogSize.toNat),
    .word 2 (·.warningLogSize.toNat), .word 2 (·.failureLogSize.toNat),
    .word 2 (·.fatalLogSize.toNat), .word 4 (·.labelAreaSize.toNat),
    .word 3 (·.poisonListMax.toNat), .word 2 (·.injectPoisonLimit.toNat),
    .word 1 (·.poisonCaps.toNat), .word 1 (·.telemetryCaps.toNat)]

/-- The value with as much of the largest poison list as three bytes hold. -/
def kept (v : Identify) : Identify :=
  { v with poisonListMax := UInt32.ofNat (v.poisonListMax.toNat % 2 ^ 24) }

theorem kept_of_lt {v : Identify} (fits : v.poisonListMax.toNat < 2 ^ 24) : v.kept = v := by
  rw [kept, Nat.mod_eq_of_lt fits, UInt32.ofNat_toNat]

theorem encode_eq (v : Identify) : v.encode = layout.bytes v := by
  simp only [encode, layout, Layout.bytes, WireField.bytes, le8, le16, le32, le64, List.append_nil]

theorem reads {payload : Bytes} (long : size ≤ payload.length) :
    layout.Reads (reading.value payload) payload :=
  ⟨Reading.bytes_block (Nat.le_trans (by decide) long), Reading.toNat_u64 _, Reading.toNat_u64 _,
    Reading.toNat_u64 _, Reading.toNat_u64 _, Reading.toNat_u16 _, Reading.toNat_u16 _,
    Reading.toNat_u16 _, Reading.toNat_u16 _, Reading.toNat_u32 _, Reading.toNat_word_three _,
    Reading.toNat_u16 _, Reading.toNat_u8 _, Reading.toNat_u8 _, trivial⟩

theorem read_encode (v : Identify) (rest : Bytes) :
    reading.value (v.encode ++ rest) = v.kept := by
  have three_bytes : wordCount 3 = 2 ^ 24 := rfl
  simp [encode, reading, kept, Block.length_bytes, three_bytes]

/-- What was read fits the fields of the wire. -/
theorem kept_read (payload : Bytes) : (reading.value payload).kept = reading.value payload :=
  kept_of_lt (Reading.word_three_lt _)

theorem packsExactly : PacksExactly size layout encode decode kept id :=
  packsExactly_of_reading reading rfl length_encode encode_eq (fun _ => reads) read_encode kept_read
    fun payload _ => Layout.clear_of_kept (by decide) payload

end Identify

/-! ## Health and alerts -/

namespace Health

/-- The fields of the payload. -/
def layout : Layout Health :=
  [.word 1 (·.healthStatus.toNat), .word 1 (·.mediaStatus.toNat), .word 1 (·.extendedStatus.toNat),
    .word 1 (·.lifeUsed.toNat), .word 2 (·.temperature.toNat), .word 4 (·.dirtyShutdowns.toNat),
    .word 4 (·.volatileErrors.toNat), .word 4 (·.persistentErrors.toNat)]

theorem encode_eq (v : Health) : v.encode = layout.bytes v := by
  simp only [encode, layout, Layout.bytes, WireField.bytes, le8, le16, le32, List.append_nil]

theorem reads (payload : Bytes) : layout.Reads (reading.value payload) payload :=
  ⟨Reading.toNat_u8 _, Reading.toNat_u8 _, Reading.toNat_u8 _, Reading.toNat_u8 _,
    Reading.toNat_u16 _, Reading.toNat_u32 _, Reading.toNat_u32 _, Reading.toNat_u32 _, trivial⟩

theorem read_encode (v : Health) (rest : Bytes) : reading.value (v.encode ++ rest) = v := by
  simp [encode, reading]

theorem packsExactly : PacksExactly size layout encode decode id id :=
  packsExactly_of_reading reading rfl length_encode encode_eq (fun payload _ => reads payload)
    read_encode (fun _ => rfl) fun payload _ => Layout.clear_of_kept (by decide) payload

end Health

namespace AlertConfig

/-- The fields of the payload. -/
def layout : Layout AlertConfig :=
  [.word 1 (·.validAlerts.toNat), .word 1 (·.programmableAlerts.toNat),
    .word 1 (·.lifeUsedCritical.toNat), .word 1 (·.lifeUsedWarning.toNat),
    .word 2 (·.overTemperatureCritical.toNat), .word 2 (·.underTemperatureCritical.toNat),
    .word 2 (·.overTemperatureWarning.toNat), .word 2 (·.underTemperatureWarning.toNat),
    .word 2 (·.volatileErrorsWarning.toNat), .word 2 (·.persistentErrorsWarning.toNat)]

theorem encode_eq (v : AlertConfig) : v.encode = layout.bytes v := by
  simp only [encode, layout, Layout.bytes, WireField.bytes, le8, le16, List.append_nil]

theorem reads (payload : Bytes) : layout.Reads (reading.value payload) payload :=
  ⟨Reading.toNat_u8 _, Reading.toNat_u8 _, Reading.toNat_u8 _, Reading.toNat_u8 _,
    Reading.toNat_u16 _, Reading.toNat_u16 _, Reading.toNat_u16 _, Reading.toNat_u16 _,
    Reading.toNat_u16 _, Reading.toNat_u16 _, trivial⟩

theorem read_encode (v : AlertConfig) (rest : Bytes) : reading.value (v.encode ++ rest) = v := by
  simp [encode, reading]

theorem packsExactly : PacksExactly size layout encode decode id id :=
  packsExactly_of_reading reading rfl length_encode encode_eq (fun payload _ => reads payload)
    read_encode (fun _ => rfl) fun payload _ => Layout.clear_of_kept (by decide) payload

end AlertConfig

namespace AlertRequest

/-- The fields of the payload; the byte before the temperatures is reserved. -/
def layout : Layout AlertRequest :=
  [.word 1 (·.validActions.toNat), .word 1 (·.enableActions.toNat),
    .word 1 (·.lifeUsedWarning.toNat)] ++ .reserved 1 ::
  [.word 2 (·.overTemperatureWarning.toNat), .word 2 (·.underTemperatureWarning.toNat),
    .word 2 (·.volatileErrorsWarning.toNat), .word 2 (·.persistentErrorsWarning.toNat)]

theorem encode_eq (v : AlertRequest) : v.encode = layout.bytes v := by
  simp only [encode, layout, List.cons_append, List.nil_append, Layout.bytes, WireField.bytes, le8,
    le16, List.append_nil]
  rfl

theorem reads (payload : Bytes) : layout.Reads (reading.value payload) payload :=
  ⟨Reading.toNat_u8 _, Reading.toNat_u8 _, Reading.toNat_u8 _, trivial, Reading.toNat_u16 _,
    Reading.toNat_u16 _, Reading.toNat_u16 _, Reading.toNat_u16 _, trivial⟩

theorem read_encode (v : AlertRequest) (rest : Bytes) : reading.value (v.encode ++ rest) = v := by
  simp [encode, reading]

theorem packsExactly :
    PacksExactly size layout encode decode id (Bytes.splice · 3 (Bytes.zeros 1)) :=
  packsExactly_of_reading reading rfl length_encode encode_eq (fun payload _ => reads payload)
    read_encode (fun _ => rfl) fun _ long => Layout.clear_reserved (by decide) (by decide) long

end AlertRequest

/-! ## Event policy and firmware slots -/

namespace EventPolicy

/-- The fields of the payload. -/
def layout : Layout EventPolicy :=
  [.word 1 (·.info.toNat), .word 1 (·.warning.toNat), .word 1 (·.failure.toNat),
    .word 1 (·.fatal.toNat)]

theorem encode_eq (v : EventPolicy) : v.encode = layout.bytes v := by
  simp only [encode, layout, Layout.bytes, WireField.bytes, le8, List.append_nil]

theorem reads (payload : Bytes) : layout.Reads (reading.value payload) payload :=
  ⟨Reading.toNat_u8 _, Reading.toNat_u8 _, Reading.toNat_u8 _, Reading.toNat_u8 _, trivial⟩

theorem read_encode (v : EventPolicy) (rest : Bytes) : reading.value (v.encode ++ rest) = v := by
  simp [encode, reading]

theorem packsExactly : PacksExactly size layout encode decode id id :=
  packsExactly_of_reading reading rfl length_encode encode_eq (fun payload _ => reads payload)
    read_encode (fun _ => rfl) fun payload _ => Layout.clear_of_kept (by decide) payload

end EventPolicy

namespace FirmwareInfo

/-- The fields of the payload; the bytes before the revisions are reserved. -/
def layout : Layout FirmwareInfo :=
  [.word 1 (·.slotsSupported.toNat), .word 1 (·.slotInfo.toNat),
    .word 1 (·.activationCaps.toNat)] ++ .reserved 13 ::
  [.block 16 (·.slot1.bytes), .block 16 (·.slot2.bytes), .block 16 (·.slot3.bytes),
    .block 16 (·.slot4.bytes)]

theorem encode_eq (v : FirmwareInfo) : v.encode = layout.bytes v := by
  simp only [encode, layout, List.cons_append, List.nil_append, Layout.bytes, WireField.bytes, le8,
    List.append_nil]

theorem reads {payload : Bytes} (long : size ≤ payload.length) :
    layout.Reads (reading.value payload) payload := by
  have enough : 80 ≤ payload.length := long
  refine ⟨Reading.toNat_u8 _, Reading.toNat_u8 _, Reading.toNat_u8 _, trivial,
    Reading.bytes_block ?_, Reading.bytes_block ?_, Reading.bytes_block ?_, Reading.bytes_block ?_,
    trivial⟩ <;>
  · simp only [List.length_drop]
    omega

theorem read_encode (v : FirmwareInfo) (rest : Bytes) : reading.value (v.encode ++ rest) = v := by
  simp [encode, reading, Block.length_bytes]

theorem packsExactly :
    PacksExactly size layout encode decode id (Bytes.splice · 3 (Bytes.zeros 13)) :=
  packsExactly_of_reading reading rfl length_encode encode_eq (fun _ => reads) read_encode
    (fun _ => rfl) fun _ long => Layout.clear_reserved (by decide) (by decide) long

end FirmwareInfo

/-! ## Requests for a piece of a log -/

namespace LogRequest

/-- The fields of the payload. -/
def layout : Layout LogRequest :=
  [.block 16 (·.uuid.bytes), .word 4 (·.offset.toNat), .word 4 (·.length.toNat)]

theorem encode_eq (v : LogRequest) : v.encode = layout.bytes v := by
  simp only [encode, layout, Layout.bytes, WireField.bytes, le32, List.append_nil]

theorem reads {payload : Bytes} (long : size ≤ payload.length) :
    layout.Reads (reading.value payload) payload :=
  ⟨Reading.bytes_block (Nat.le_trans (by decide) long), Reading.toNat_u32 _, Reading.toNat_u32 _,
    trivial⟩

theorem read_encode (v : LogRequest) (rest : Bytes) : reading.value (v.encode ++ rest) = v := by
  simp [encode, reading, Block.length_bytes]

theorem packsExactly : PacksExactly size layout encode decode id id :=
  packsExactly_of_reading reading rfl length_encode encode_eq (fun _ => reads) read_encode
    (fun _ => rfl) fun payload _ => Layout.clear_of_kept (by decide) payload

end LogRequest

/-- **The formats of fixed size are exact.**  Each takes its number of bytes, writes its fields in
the order of its layout and reads them from there.  Only the largest poison list of an identify
payload can be too large for the wire, and only the reserved bytes of a payload are lost. -/
theorem fixed_formats_exact :
    PacksExactly 67 Identify.layout Identify.encode Identify.decode Identify.kept id ∧
    (∀ v : Identify, v.poisonListMax.toNat < 2 ^ 24 → Identify.decode v.encode = .ok v) ∧
    PacksExactly 18 Health.layout Health.encode Health.decode id id ∧
    PacksExactly 16 AlertConfig.layout AlertConfig.encode AlertConfig.decode id id ∧
    PacksExactly 12 AlertRequest.layout AlertRequest.encode AlertRequest.decode id
      (Bytes.splice · 3 (Bytes.zeros 1)) ∧
    PacksExactly 4 EventPolicy.layout EventPolicy.encode EventPolicy.decode id id ∧
    PacksExactly 80 FirmwareInfo.layout FirmwareInfo.encode FirmwareInfo.decode id
      (Bytes.splice · 3 (Bytes.zeros 13)) ∧
    PacksExactly 24 LogRequest.layout LogRequest.encode LogRequest.decode id id := by
  refine ⟨Identify.packsExactly, ?_, Health.packsExactly, AlertConfig.packsExactly,
    AlertRequest.packsExactly, EventPolicy.packsExactly, FirmwareInfo.packsExactly,
    LogRequest.packsExactly⟩
  intro v fits
  rw [Identify.packsExactly.decode_encode, Identify.kept_of_lt fits]

end CxlMailbox
