/-
# CxlMailbox.Proofs.Payload.Layout — packed formats, field by field

A `Layout` lists the fields of a packed format in the order of their bytes: numbers in little-endian
order, blocks that are kept as they are, and reserved bytes.  It says what a payload means,
`Layout.Reads`, what a value is on the wire, `Layout.bytes`, and what is left of a payload that is
read and written again, `Layout.clear`.

* `bytes_of_reads`: a value that was read from a payload is written as that payload, its reserved
  bytes cleared;
* `clear_of_kept` and `clear_reserved` say so of the bytes of the payload themselves;
* `PacksExactly` is what both directions of a format have to satisfy, and `packsExactly_of_reading`
  gets it from one look at the reading for each direction.
-/
import CxlMailbox.Proofs.Payload.Reading

namespace CxlMailbox

set_option autoImplicit false

variable {α : Type}

/-! ## Fields -/

/-- One field of a packed format, and how it shows in a value. -/
inductive WireField (α : Type) where
  /-- A number, lowest byte first. -/
  | word (width : Nat) (value : α → Nat)
  /-- Bytes that are kept as they are. -/
  | block (width : Nat) (content : α → Bytes)
  /-- Bytes that mean nothing: passed over when read, zero when written. -/
  | reserved (width : Nat)

namespace WireField

/-- How many bytes the field takes. -/
def width : WireField α → Nat
  | word width _ => width
  | block width _ => width
  | reserved width => width

def isReserved : WireField α → Bool
  | reserved _ => true
  | _ => false

/-- In the field, the value has what the bytes `window` of the field mean. -/
def Reads (v : α) (window : Bytes) : WireField α → Prop
  | word _ value => value v = fromLittleEndian window
  | block _ content => content v = window
  | reserved _ => True

/-- The bytes of the field. -/
def bytes (v : α) : WireField α → Bytes
  | word width value => littleEndian width (value v)
  | block _ content => content v
  | reserved width => Bytes.zeros width

/-- The bytes `window` of the field after they were read and written again. -/
def clear (window : Bytes) : WireField α → Bytes
  | reserved width => Bytes.zeros width
  | _ => window

theorem bytes_of_reads {field : WireField α} {v : α} {window : Bytes}
    (whole : window.length = field.width) (reads : field.Reads v window) :
    field.bytes v = field.clear window := by
  cases field with
  | word width value =>
      have value_eq : value v = fromLittleEndian window := reads
      have width_eq : width = window.length := whole.symm
      simp only [bytes, clear, value_eq, width_eq, littleEndian_fromLittleEndian]
  | block width content => exact reads
  | reserved width => rfl

end WireField

/-! ## Layouts -/

/-- The fields of a packed format, in the order of their bytes. -/
abbrev Layout (α : Type) := List (WireField α)

namespace Layout

/-- How many bytes the fields take together. -/
def size : Layout α → Nat
  | [] => 0
  | field :: fields => field.width + size fields

/-- Every field of the value has what its own bytes of the payload mean. -/
def Reads (v : α) : Layout α → Bytes → Prop
  | [], _ => True
  | field :: fields, payload =>
      field.Reads v (payload.take field.width) ∧ Reads v fields (payload.drop field.width)

/-- The value on the wire. -/
def bytes (v : α) : Layout α → Bytes
  | [] => []
  | field :: fields => field.bytes v ++ bytes v fields

/-- The bytes of the payload that the fields take, the reserved ones cleared. -/
def clear : Layout α → Bytes → Bytes
  | [], _ => []
  | field :: fields, payload =>
      field.clear (payload.take field.width) ++ clear fields (payload.drop field.width)

/-- Nothing is read from behind the fields. -/
theorem reads_take {fields : Layout α} {v : α} {payload : Bytes} :
    fields.Reads v (payload.take fields.size) ↔ fields.Reads v payload := by
  induction fields generalizing payload with
  | nil => exact Iff.rfl
  | cons field fields ih =>
      have here : (payload.take (field.width + size fields)).take field.width =
          payload.take field.width := by
        rw [List.take_take, Nat.min_eq_left (Nat.le_add_right _ _)]
      have later : (payload.take (field.width + size fields)).drop field.width =
          (payload.drop field.width).take (size fields) := by
        rw [List.drop_take, Nat.add_sub_cancel_left]
      rw [Reads, Reads, size, here, later, ih]

/-- What was read is written as it was, the reserved bytes cleared. -/
theorem bytes_of_reads {fields : Layout α} {v : α} {payload : Bytes}
    (long : fields.size ≤ payload.length) (reads : fields.Reads v payload) :
    fields.bytes v = fields.clear payload := by
  induction fields generalizing payload with
  | nil => rfl
  | cons field fields ih =>
      obtain ⟨here, later⟩ := reads
      rw [size] at long
      have whole : (payload.take field.width).length = field.width := by
        rw [List.length_take]
        omega
      have rest : size fields ≤ (payload.drop field.width).length := by
        rw [List.length_drop]
        omega
      rw [bytes, clear, WireField.bytes_of_reads whole here, ih rest later]

theorem clear_of_kept {fields : Layout α} (kept : ∀ field ∈ fields, field.isReserved = false)
    (payload : Bytes) : fields.clear payload = payload.take fields.size := by
  induction fields generalizing payload with
  | nil => rfl
  | cons field fields ih =>
      have here : field.clear (payload.take field.width) = payload.take field.width := by
        have not_reserved := kept field List.mem_cons_self
        cases field with
        | reserved width => cases not_reserved
        | word | block => rfl
      have later := ih (fun other member => kept other (List.mem_cons_of_mem _ member))
        (payload.drop field.width)
      rw [clear, size, here, later, List.take_add]

theorem size_append (front back : Layout α) : size (front ++ back) = front.size + back.size := by
  induction front with
  | nil => simp [size]
  | cons field front ih => rw [List.cons_append, size, size, ih, Nat.add_assoc]

theorem clear_append (front back : Layout α) (payload : Bytes) :
    clear (front ++ back) payload =
      front.clear payload ++ back.clear (payload.drop front.size) := by
  induction front generalizing payload with
  | nil => simp [clear, size]
  | cons field front ih =>
      rw [List.cons_append, clear, clear, size, ih, List.drop_drop, List.append_assoc]

/-- With one reserved field between others, the payload stays but for the bytes of that field. -/
theorem clear_reserved {front back : Layout α} {n : Nat} {payload : Bytes}
    (front_kept : ∀ field ∈ front, field.isReserved = false)
    (back_kept : ∀ field ∈ back, field.isReserved = false)
    (long : size (front ++ .reserved n :: back) ≤ payload.length) :
    clear (front ++ .reserved n :: back) payload =
      Bytes.splice (payload.take (size (front ++ .reserved n :: back))) front.size
        (Bytes.zeros n) := by
  have total : size (front ++ .reserved n :: back) =
      front.size + (Bytes.zeros n).length + back.size := by
    rw [size_append, size, Bytes.length_zeros, Nat.add_assoc]
    rfl
  rw [total] at long ⊢
  rw [Bytes.splice_take long, clear_append, clear_of_kept front_kept, clear, clear_of_kept back_kept,
    List.drop_drop, Bytes.length_zeros, List.append_assoc]
  rfl

end Layout

/-! ## Formats -/

/-- Both directions of a format of `size` bytes keep to a layout.  `kept` is as much of a value as
the format has room for, and `cleared` are the bytes of a payload without what is reserved. -/
structure PacksExactly (size : Nat) (layout : Layout α) (encode : α → Bytes)
    (decode : Bytes → Except Error α) (kept : α → α) (cleared : Bytes → Bytes) : Prop where
  layout_size : layout.size = size
  encode_eq : ∀ v, encode v = layout.bytes v
  length_encode : ∀ v, (encode v).length = size
  decode_encode : ∀ v, decode (encode v) = .ok (kept v)
  decode_eq_error_iff : ∀ payload e,
    decode payload = .error e ↔ payload.length < size ∧ e = .shortPayload size payload.length
  decode_take : ∀ payload, size ≤ payload.length → decode (payload.take size) = decode payload
  decode_reads : ∀ payload v, decode payload = .ok v → layout.Reads v payload
  encode_decode : ∀ payload v, decode payload = .ok v → encode v = cleared (payload.take size)

/-- A format is exact if its reading follows the layout and reads back what was written. -/
theorem packsExactly_of_reading {size : Nat} {layout : Layout α} {encode : α → Bytes}
    {reader : Reader α} {kept : α → α} {cleared : Bytes → Bytes} (reading : Reading reader size)
    (layout_size : layout.size = size)
    (length_encode : ∀ v, (encode v).length = size)
    (encode_eq : ∀ v, encode v = layout.bytes v)
    (reads : ∀ payload, size ≤ payload.length → layout.Reads (reading.value payload) payload)
    (read_encode : ∀ v rest, reading.value (encode v ++ rest) = kept v)
    (fits : ∀ payload, kept (reading.value payload) = reading.value payload)
    (clears : ∀ payload, size ≤ payload.length →
      layout.clear payload = cleared (payload.take size)) :
    PacksExactly size layout encode (Reader.exactly size reader) kept cleared := by
  have read_whole (v : α) : reading.value (encode v) = kept v := by
    have framed := read_encode v []
    rwa [List.append_nil] at framed
  have decoded {payload : Bytes} (long : size ≤ payload.length) :
      Reader.exactly size reader payload = .ok (reading.value payload) := by
    rw [reading.exactly_eq (Nat.le_refl _), if_neg (by omega)]
  have of_ok {payload : Bytes} {v : α} (ok : Reader.exactly size reader payload = .ok v) :
      size ≤ payload.length ∧ v = reading.value payload := by
    rw [reading.exactly_eq (Nat.le_refl _)] at ok
    split at ok
    · cases ok
    · exact ⟨by omega, (Except.ok.inj ok).symm⟩
  have encode_read {payload : Bytes} (long : size ≤ payload.length) :
      encode (reading.value payload) = cleared (payload.take size) := by
    rw [encode_eq, ← clears payload long]
    exact Layout.bytes_of_reads (by omega) (reads payload long)
  constructor
  case layout_size => exact layout_size
  case encode_eq => exact encode_eq
  case length_encode => exact length_encode
  case decode_encode =>
    intro v
    rw [decoded (Nat.le_of_eq (length_encode v).symm), read_whole]
  case decode_eq_error_iff => exact fun payload e => reading.exactly_eq_error_iff
  case decode_take =>
    intro payload long
    have whole : size ≤ (payload.take size).length := by
      rw [List.length_take]
      omega
    -- Both values are written alike, and what is written reads back.
    have same : encode (reading.value (payload.take size)) = encode (reading.value payload) := by
      rw [encode_read whole, encode_read long, List.take_take, Nat.min_self]
    have value : reading.value (payload.take size) = reading.value payload := by
      rw [← fits (payload.take size), ← fits payload, ← read_whole, ← read_whole, same]
    rw [decoded whole, decoded long, value]
  case decode_reads =>
    intro payload v ok
    obtain ⟨long, rfl⟩ := of_ok ok
    exact reads payload long
  case encode_decode =>
    intro payload v ok
    obtain ⟨long, rfl⟩ := of_ok ok
    exact encode_read long

end CxlMailbox
