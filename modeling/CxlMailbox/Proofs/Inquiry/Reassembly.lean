/-
# CxlMailbox.Proofs.Inquiry.Reassembly — a log comes back whole, however it is cut

`Backend.ServesLog` is the contract of a device with a log: asked for bytes of it, it answers with
as many of them as it likes, and with none only if there are none.  `readPiece_served` is one
request; `readPieces_served` puts the pieces together, by induction on what is still wanted.  What a
piece was asked for does not matter there, only that it is the front of what is wanted
(`Bytes.append_slice_behind`), so the log that comes back depends neither on the largest payload nor
on the sizes of the replies.
-/
import CxlMailbox.Proofs.Inquiry.LogReading

namespace CxlMailbox

set_option autoImplicit false

open Effect Session

variable {δ : Type}

/-! ## Slices -/

namespace Bytes

theorem length_slice_le (area : Bytes) (offset n : Nat) : (slice area offset n).length ≤ n :=
  List.length_take_le ..

theorem slice_zero (area : Bytes) (offset : Nat) : slice area offset 0 = [] := List.take_zero ..

theorem slice_eq_nil_iff {area : Bytes} {offset n : Nat} :
    slice area offset n = [] ↔ n = 0 ∨ area.length ≤ offset := by
  rw [slice, List.take_eq_nil_iff, List.drop_eq_nil_iff]

/-- Behind the front of what is wanted, the rest of it is wanted. -/
theorem append_slice_behind {area piece : Bytes} {offset n wanted : Nat}
    (front : piece <+: slice area offset n) (within : n ≤ wanted) :
    piece ++ slice area (offset + piece.length) (wanted - piece.length) =
      slice area offset wanted := by
  have short : piece.length ≤ n := Nat.le_trans front.length_le (length_slice_le area offset n)
  have piece_eq : piece = (area.drop offset).take piece.length := by
    have cut := List.prefix_iff_eq_take.mp front
    rwa [slice, List.take_take, Nat.min_eq_left short] at cut
  have wanted_eq : wanted = piece.length + (wanted - piece.length) := by omega
  calc piece ++ slice area (offset + piece.length) (wanted - piece.length)
      = (area.drop offset).take piece.length ++
          ((area.drop offset).drop piece.length).take (wanted - piece.length) := by
        rw [← piece_eq, List.drop_drop, slice]
    _ = slice area offset wanted := by rw [← List.take_add, ← wanted_eq, slice]

end Bytes

/-! ## Commands with an output of any size -/

/-- A send that reports success and so many bytes is final with the front of what was written. -/
theorem Exchange.result_success (device : DeviceInfo) {request : SendRequest}
    {response written : Bytes} (front : response <+: written)
    (fits : response.length ≤ request.output.length) (small : response.length < UInt32.size) :
    (send device request (.ok ⟨UInt32.ofNat response.length, 0⟩) written).result = .ok response :=
  congrArg Except.ok (SendRequest.reply_prefix 0 front fits small)

/-- The entry that a query brings for an id has an input of the given size and an output of any
size. -/
def OffersVariable (catalog : List CatalogEntry) (id : UInt32) (sizeIn : Int32) : Prop :=
  ∃ entry, ((reachablePart catalog).find? fun entry => entry.id == id) = some entry ∧
    entry.sizeIn = sizeIn ∧ entry.sizeOut.toInt < 0

/-- Such a command is made if its input fits, with the largest output. -/
theorem Session.prepare_variable {backend : Backend δ} {info : DeviceInfo}
    {catalog : List CatalogEntry} {held : δ → Prop} (serves : backend.Serves info catalog held)
    {id : UInt32} {sizeIn : Int32} (offers : OffersVariable catalog id sizeIn)
    (fits : sizeIn.toInt ≤ info.payloadMax.toNat) (world : World δ) (here : held world.device) :
    ∃ (entry : CatalogEntry) (t : Session δ),
      prepare backend id ⟨.unvalidated info, world⟩ = (.ok (), t) ∧ held t.world.device ∧
      t.command.Constructed info (reachablePart catalog) id entry ∧
      t.command.input.bytes = Bytes.zeros sizeIn.toInt.toNat ∧
      t.command.output.bytes = Bytes.zeros info.payloadMax.toNat := by
  obtain ⟨entry, first, rfl, variable_⟩ := offers
  obtain ⟨t, ran, still, constructed⟩ := prepare_constructed serves world here first fits (by omega)
  refine ⟨entry, t, ran, still, constructed, constructed.input, ?_⟩
  rw [constructed.output, Command.outputSize, if_pos variable_]

/-- A command without input is answered with the decoding of its final output. -/
theorem Inquiry.get_served {backend : Backend δ} {info : DeviceInfo} {catalog : List CatalogEntry}
    {held : δ → Prop} (serves : backend.Serves info catalog held) {id : UInt32}
    (offers : OffersVariable catalog id 0) {response : Bytes}
    (answers : ∀ files d, held d →
      let request := SendRequest.ofBuffers id 0 [] (Bytes.zeros info.payloadMax.toNat)
      let reply := backend.send files info request d
      held reply.device ∧
        (Exchange.send info request reply.verdict reply.written).result = .ok response)
    {α : Type} (decode : Bytes → Except Error α) (world : World δ) (here : held world.device) :
    ∃ t, (get backend id decode).once info world = (decode response, t) ∧ held t.device := by
  obtain ⟨entry, t, made, still, constructed, input, output⟩ :=
    prepare_variable serves offers (Int.natCast_nonneg _) world here
  have request_eq : t.command.request =
      .ofBuffers id 0 [] (Bytes.zeros info.payloadMax.toNat) := by
    rw [Command.request, constructed.id_eq, constructed.rawOpcode, input, output]
    rfl
  obtain ⟨held', final⟩ := answers t.world.files t.world.device still
  obtain ⟨answered, device, -⟩ := conclude_output backend
    (Command.sendFault?_eq_none_iff.mpr constructed.found) constructed.id_eq decode
  rw [constructed.device, request_eq] at answered device
  rw [final] at answered
  refine ⟨_, ?_, device ▸ held'⟩
  rw [once_apply, get, bind_ok made, run_eq, if_pos List.isEmpty_nil]
  exact congrArg (·, _) answered

/-! ## Backends with a log -/

/-- The backend serves a catalog in which pieces of logs can be asked for, and answers each request
for one log with a front of the bytes in question, empty only if there are none. -/
structure Backend.ServesLog (backend : Backend δ) (info : DeviceInfo)
    (catalog : List CatalogEntry) (uuid : Uuid) (log : Bytes) (held : δ → Prop) : Prop
    extends backend.Serves info catalog held where
  offers : OffersVariable catalog CommandId.getLog 24
  answers : ∀ files d (request : LogRequest), held d → request.uuid = uuid →
    let asked := Bytes.slice log request.offset.toNat request.length.toNat
    let reply := backend.send files info request.sent d
    held reply.device ∧ ∃ piece, piece <+: asked ∧ (asked ≠ [] → piece ≠ []) ∧
      reply.verdict = .ok ⟨UInt32.ofNat piece.length, 0⟩ ∧ piece <+: reply.written

namespace Inquiry

variable {backend : Backend δ} {info : DeviceInfo} {catalog : List CatalogEntry} {uuid : Uuid}
  {log : Bytes} {held : δ → Prop}

/-- A piece that fits the device's payloads comes as the front of what was asked for. -/
theorem readPiece_served (serves : backend.ServesLog info catalog uuid log held)
    (room : 24 ≤ info.payloadMax.toNat) (request : LogRequest) (same : request.uuid = uuid)
    (fits : request.length.toNat ≤ info.payloadMax.toNat) (world : World δ)
    (here : held world.device) :
    let asked := Bytes.slice log request.offset.toNat request.length.toNat
    ∃ piece t, readPiece backend info request world = (.ok piece, t) ∧ held t.device ∧
      piece <+: asked ∧ (asked ≠ [] → piece ≠ []) := by
  intro asked
  obtain ⟨entry, t, made, still, constructed, -⟩ :=
    prepare_variable serves.toServes serves.offers (Int.ofNat_le.mpr room) world here
  obtain ⟨held', piece, front, some_, verdict, written⟩ :=
    serves.answers t.world.files t.world.device request still same
  have arranged : t.command.arrangePiece request = .ok (t.command.forPiece request) :=
    Command.arrangePiece_eq_ok_iff.mpr ⟨by rw [constructed.device]; exact fits,
      by rw [constructed.device]; exact room, rfl⟩
  have rest := piece_arranged backend request t
  simp only [arranged] at rest
  have clear : (t.withCommand (t.command.forPiece request)).command.sendFault? = none :=
    Command.sendFault?_eq_none_iff.mpr constructed.found
  have short : piece.length ≤ request.length.toNat :=
    Nat.le_trans front.length_le (Bytes.length_slice_le ..)
  have enough : piece.length ≤ request.sent.output.length := by
    rw [request.length_sent_output]
    exact short
  have final := Exchange.result_success info written enough
    (Nat.lt_of_le_of_lt short request.length.toNat_lt)
  obtain ⟨answered, device, -⟩ := conclude_output backend clear constructed.id_eq Except.ok
  simp only [withCommand_command, withCommand_world, constructed.request_forPiece,
    show (t.command.forPiece request).device = info from constructed.device, verdict, final,
    Except.bind, outputFor_whole, ← rest] at answered device
  refine ⟨piece, _, ?_, device ▸ held', front, some_⟩
  rw [readPiece, once_apply, bind_ok made]
  exact congrArg (·, _) answered

/-- So all of what is wanted comes, the front of it first.  The induction is on how much that is. -/
theorem readPieces_served (serves : backend.ServesLog info catalog uuid log held)
    (room : 24 ≤ info.payloadMax.toNat) (wanted : Nat) : ∀ (offset : UInt32) (world : World δ),
      held world.device → offset.toNat + wanted ≤ UInt32.size →
      ∃ t, readPieces backend info uuid offset wanted world =
        (.ok (Bytes.slice log offset.toNat wanted), t) ∧ held t.device := by
  induction wanted using Nat.strongRecOn with
  | ind wanted ih =>
      intro offset world here fits
      by_cases none_ : wanted = 0
      · subst none_
        rw [readPieces, Bytes.slice_zero]
        exact ⟨world, rfl, here⟩
      · let request := LogRequest.next info uuid offset wanted
        have length : request.length.toNat = min wanted info.payloadMax.toNat :=
          LogRequest.toNat_length_next info uuid offset wanted
        have asked : Bytes.slice log request.offset.toNat request.length.toNat =
            Bytes.slice log offset.toNat (min wanted info.payloadMax.toNat) :=
          congrArg (Bytes.slice log offset.toNat) length
        obtain ⟨piece, t, ran, still, front, some_⟩ := readPiece_served serves room
          request rfl (by omega) world here
        rw [asked] at front some_
        rw [readPieces_step _ _ _ _ none_, bind_ok ran]
        by_cases empty : piece.length = 0
        · rw [if_pos empty]
          refine ⟨t, congrArg (fun bytes => (Except.ok bytes, t)) ?_, still⟩
          have ended : Bytes.slice log offset.toNat (min wanted info.payloadMax.toNat) = [] :=
            Decidable.of_not_not fun more => some_ more (List.length_eq_zero_iff.mp empty)
          have past := (Bytes.slice_eq_nil_iff.mp ended).resolve_left (by omega)
          exact (Bytes.slice_eq_nil_iff.mpr (.inr past)).symm
        · rw [if_neg empty, bind_pure_apply]
          obtain ⟨u, rest, left⟩ := ih (wanted - piece.length) (by omega)
            (offset + UInt32.ofNat piece.length) t still (fits_behind fits)
          refine ⟨u, ?_, left⟩
          rw [rest, ← Bytes.append_slice_behind front (Nat.min_le_left ..)]
          -- Where the position behind the piece wraps, nothing is wanted any more.
          by_cases more : piece.length < wanted
          · rw [toNat_behind fits more]
            rfl
          · rw [Nat.sub_eq_zero_of_le (Nat.le_of_not_lt more), Bytes.slice_zero, Bytes.slice_zero]
            rfl

/-- A log is read as it is, as far as the range and the log both go. -/
theorem readLog_served (serves : backend.ServesLog info catalog uuid log held)
    (room : 24 ≤ info.payloadMax.toNat) (offset length : UInt32)
    (fits : offset.toNat + length.toNat ≤ UInt32.size) {world : World δ}
    (here : held world.device) :
    ∃ t, readLog backend info uuid offset length world =
      (.ok (Bytes.slice log offset.toNat length.toNat), t) ∧ held t.device := by
  have payloads : info.payloadMax ≠ 0 := by
    rintro none_
    rw [none_] at room
    cases room
  rw [readLog, if_neg payloads]
  exact readPieces_served serves room length.toNat offset world here fits

end Inquiry

end CxlMailbox
