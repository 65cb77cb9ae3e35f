/-
# CxlMailbox.Proofs.Inquiry.LogReading — a log in pieces

A log is read by one dialogue after the other, each for the bytes that are still wanted behind those
that came.  `Readout` is the record of a reading: what was exchanged, piece after piece, and the
answer.  `Inquiry.readPieces_readout` says that every reading is one, over every backend; the rest
is read off the record by induction on it:

* `Readout.asks`: each send asks for the bytes behind those received, and for no more than are
  wanted or fit the device;
* `Readout.goes_on`: only after a reply with at least one byte is there another exchange;
* `Readout.of_ok`: an answer is the concatenation of the replies, and only an empty one cuts it
  short;
* `Readout.of_error`: a failure is that of the last exchange, or of the making of the last command.

`log_reading_bounded` puts these together.
-/
import CxlMailbox.Proofs.Inquiry.Dialogue
import CxlMailbox.Script

namespace CxlMailbox

set_option autoImplicit false

open Effect Session

variable {δ : Type}

/-! ## Records -/

namespace Exchange

/-- The bytes an exchange brought. -/
def output (exchange : Exchange) : Bytes := exchange.result.toOption.getD []

theorem output_of_ok {exchange : Exchange} {bytes : Bytes} (came : exchange.result = .ok bytes) :
    exchange.output = bytes := by
  rw [output, came]
  rfl

/-- All bytes that exchanges brought, in order. -/
def received (exchanges : List Exchange) : Bytes := exchanges.flatMap output

@[simp] theorem received_append (first rest : List Exchange) :
    received (first ++ rest) = received first ++ received rest := List.flatMap_append

@[simp] theorem received_cons (exchange : Exchange) (rest : List Exchange) :
    received (exchange :: rest) = exchange.output ++ received rest := List.flatMap_cons

theorem received_heard {queries : List Exchange} (heard : Dialogue.Heard queries) :
    received queries = [] :=
  List.flatMap_eq_nil_iff.mpr fun query member => output_of_ok (heard query member).2

end Exchange

/-! ## One piece -/

/-- The dialogue of one piece of a log. -/
abbrev PieceDialogue (info : DeviceInfo) (request : LogRequest) (exchanges : List Exchange)
    (answer : Except Error Bytes) : Prop :=
  Dialogue info (Command.arrangedFor info CommandId.getLog (Command.arrangePiece request)) .ok
    exchanges answer

/-- The reply that makes a send final has no more bytes than the output. -/
theorem Exchange.length_result {device : DeviceInfo} {request : SendRequest}
    {verdict : Except Error Receipt} {written bytes : Bytes}
    (came : (Exchange.send device request verdict written).result = .ok bytes) :
    bytes.length ≤ request.output.length := by
  rcases verdict with e | receipt
  · cases came
  · simp only [result, Except.bind, finalReply] at came
    split at came
    · cases came
    · cases came
    · cases came
      rw [SendRequest.reply, List.length_take, length_overlay]
      omega

theorem LogRequest.length_sent_output (request : LogRequest) :
    request.sent.output.length = request.length.toNat := by
  rw [sent, SendRequest.ofBuffers, Bytes.length_zeros]

namespace PieceDialogue

variable {info : DeviceInfo} {request : LogRequest} {exchanges : List Exchange}
  {answer : Except Error Bytes}

/-- A piece that came was sent for, and is no longer than it was asked for. -/
theorem of_ok {piece : Bytes} (dialogue : PieceDialogue info request exchanges (.ok piece)) :
    ∃ queries verdict output, Dialogue.Heard queries ∧
      exchanges = queries ++ [.send info request.sent verdict output] ∧
      (Exchange.send info request.sent verdict output).result = .ok piece ∧
      piece.length ≤ request.length.toNat := by
  obtain ⟨queries, catalog, c, verdict, output, heard, allowed, same, came⟩ :=
    Dialogue.of_ok dialogue
  obtain ⟨device, sent, -⟩ := Command.arrangedFor_piece allowed
  rw [device, sent] at same came
  have whole : (Exchange.send info request.sent verdict output).result = .ok piece := by
    rcases ended : (Exchange.send info request.sent verdict output).result with e | bytes <;>
      rw [ended] at came <;> exact came
  refine ⟨queries, verdict, output, heard, same, whole, ?_⟩
  rw [← request.length_sent_output]
  exact Exchange.length_result whole

theorem received_eq {piece : Bytes} (dialogue : PieceDialogue info request exchanges (.ok piece)) :
    Exchange.received exchanges = piece := by
  obtain ⟨queries, verdict, output, heard, rfl, came, -⟩ := dialogue.of_ok
  rw [Exchange.received_append, Exchange.received_heard heard, Exchange.received_cons,
    Exchange.output_of_ok came]
  exact List.append_nil piece

/-- The only send of a piece is its own, and the last exchange. -/
theorem asks (dialogue : PieceDialogue info request exchanges answer)
    {before after : List Exchange} {device : DeviceInfo} {asked : SendRequest}
    {verdict : Except Error Receipt} {output : Bytes}
    (split : exchanges = before ++ .send device asked verdict output :: after) :
    Dialogue.Heard before ∧ after = [] ∧ device = info ∧ asked = request.sent := by
  obtain ⟨queries, heard, ⟨_, _, _, -, rfl⟩ | ⟨_, _, _, _, _, -, -, rfl, -⟩ |
    ⟨catalog, c, _, _, allowed, -, rfl⟩⟩ := dialogue.ends
  · rcases Exchange.split_cases split with early | ⟨-, same, -⟩ | ⟨_, -, rest⟩
    · cases (heard _ early).1
    · cases same
    · simp at rest
  · have early : Exchange.send device asked verdict output ∈ exchanges := by
      rw [split]
      exact List.mem_append_right _ List.mem_cons_self
    cases (heard _ early).1
  · obtain ⟨rfl, sent, -⟩ := Command.arrangedFor_piece allowed
    rcases Exchange.split_cases split with early | ⟨rfl, same, rfl⟩ | ⟨_, -, rest⟩
    · cases (heard _ early).1
    · cases same
      exact ⟨heard, rfl, rfl, sent⟩
    · simp at rest

end PieceDialogue

/-! ## The whole reading -/

/-- The request for the next piece, when so many bytes from the offset on are wanted. -/
def LogRequest.next (info : DeviceInfo) (uuid : Uuid) (offset : UInt32) (wanted : Nat) :
    LogRequest :=
  { uuid, offset, length := UInt32.ofNat (min wanted info.payloadMax.toNat) }

/-- The record of a reading of `wanted` bytes from an offset on, and its answer. -/
inductive Readout (info : DeviceInfo) (uuid : Uuid) :
    UInt32 → Nat → List Exchange → Except Error Bytes → Prop
  /-- Nothing is wanted any more. -/
  | complete (offset : UInt32) : Readout info uuid offset 0 [] (.ok [])
  /-- The next piece fails. -/
  | failed {offset : UInt32} {wanted : Nat} {exchanges : List Exchange} {e : Error} :
      wanted ≠ 0 →
      PieceDialogue info (.next info uuid offset wanted) exchanges (.error e) →
      Readout info uuid offset wanted exchanges (.error e)
  /-- The next piece is empty. -/
  | ended {offset : UInt32} {wanted : Nat} {exchanges : List Exchange} :
      wanted ≠ 0 →
      PieceDialogue info (.next info uuid offset wanted) exchanges (.ok []) →
      Readout info uuid offset wanted exchanges (.ok [])
  /-- The next piece comes, and the rest is read behind it. -/
  | more {offset : UInt32} {wanted : Nat} {first rest : List Exchange} {piece : Bytes}
      {answer : Except Error Bytes} :
      wanted ≠ 0 →
      PieceDialogue info (.next info uuid offset wanted) first (.ok piece) →
      piece ≠ [] →
      Readout info uuid (offset + UInt32.ofNat piece.length) (wanted - piece.length) rest answer →
      Readout info uuid offset wanted (first ++ rest) (answer.map (piece ++ ·))

/-- As long as bytes are wanted, the next piece is read, and the rest behind it. -/
theorem Inquiry.readPieces_step (backend : Backend δ) (info : DeviceInfo) (uuid : Uuid)
    (offset : UInt32) {wanted : Nat} (more : wanted ≠ 0) :
    readPieces backend info uuid offset wanted = (do
      let piece ← readPiece backend info (.next info uuid offset wanted)
      if piece.length = 0 then return []
      let rest ← readPieces backend info uuid (offset + UInt32.ofNat piece.length)
        (wanted - piece.length)
      return piece ++ rest) := by
  rw [readPieces, if_neg more]
  rfl

/-- Every reading has its record, whatever the backend answers.  The induction is on what is still
wanted, which every piece but the last shortens. -/
theorem Inquiry.readPieces_readout (backend : Backend δ) (info : DeviceInfo) (uuid : Uuid)
    (wanted : Nat) : ∀ (offset : UInt32) (w : World (Recorded δ)), ∃ exchanges,
      let ran := readPieces backend.recorded info uuid offset wanted w
      ran.2.device.exchanges = w.device.exchanges ++ exchanges ∧
        Readout info uuid offset wanted exchanges ran.1 := by
  induction wanted using Nat.strongRecOn with
  | ind wanted ih =>
      intro offset w
      by_cases none_ : wanted = 0
      · subst none_
        rw [readPieces]
        exact ⟨[], (List.append_nil _).symm, .complete offset⟩
      · rw [readPieces_step _ _ _ _ none_]
        obtain ⟨first, left, dialogue⟩ := readPiece_dialogue backend info w
          (.next info uuid offset wanted)
        rcases ran : readPiece backend.recorded info (.next info uuid offset wanted) w with
          ⟨e | piece, t⟩ <;> rw [ran] at left dialogue
        · rw [bind_error ran]
          exact ⟨first, left, .failed none_ dialogue⟩
        · rw [bind_ok ran]
          by_cases empty : piece.length = 0
          · rw [if_pos empty]
            rw [List.length_eq_zero_iff.mp empty] at dialogue
            exact ⟨first, left, .ended none_ dialogue⟩
          · rw [if_neg empty, bind_pure_apply]
            obtain ⟨rest, behind, readout⟩ := ih (wanted - piece.length) (by omega)
              (offset + UInt32.ofNat piece.length) t
            refine ⟨first ++ rest, ?_, .more none_ dialogue ?_ readout⟩
            · rw [behind, left, List.append_assoc]
            · rintro rfl
              exact empty rfl

/-! ## Positions -/

/-- A request for bytes of the log at a position, of which so many remain: at least one byte, and no
more than remain or fit the device. -/
structure LogRequest.AskedAt (info : DeviceInfo) (uuid : Uuid) (position remaining : Nat)
    (request : LogRequest) : Prop where
  uuid_eq : request.uuid = uuid
  position_eq : request.offset.toNat = position
  some_ : 0 < request.length.toNat
  within : request.length.toNat ≤ min info.payloadMax.toNat remaining

theorem LogRequest.toNat_length_next (info : DeviceInfo) (uuid : Uuid) (offset : UInt32)
    (wanted : Nat) :
    (next info uuid offset wanted).length.toNat = min wanted info.payloadMax.toNat := by
  have small := info.payloadMax.toNat_lt
  exact UInt32.toNat_ofNat_of_lt' (by change _ < 2 ^ 32; omega)

theorem LogRequest.askedAt_next {info : DeviceInfo} (payloads : info.payloadMax ≠ 0) (uuid : Uuid)
    (offset : UInt32) {wanted : Nat} (more : wanted ≠ 0) :
    (next info uuid offset wanted).AskedAt info uuid offset.toNat wanted := by
  have positive : info.payloadMax.toNat ≠ 0 := fun zero => payloads (UInt32.toNat_inj.mp zero)
  have length := toNat_length_next info uuid offset wanted
  exact ⟨rfl, rfl, by omega, by omega⟩

/-- As long as bytes are wanted behind a piece, the position behind it does not wrap. -/
theorem toNat_behind {offset : UInt32} {wanted n : Nat} (fits : offset.toNat + wanted ≤ UInt32.size)
    (more : n < wanted) : (offset + UInt32.ofNat n).toNat = offset.toNat + n := by
  have size : UInt32.size = 2 ^ 32 := rfl
  rw [UInt32.toNat_add, UInt32.toNat_ofNat_of_lt' (by omega), Nat.mod_eq_of_lt (by omega)]

/-- The rest behind a piece fits, too. -/
theorem fits_behind {offset : UInt32} {wanted n : Nat}
    (fits : offset.toNat + wanted ≤ UInt32.size) :
    (offset + UInt32.ofNat n).toNat + (wanted - n) ≤ UInt32.size := by
  by_cases more : n < wanted
  · rw [toNat_behind fits more]
    omega
  · have small := (offset + UInt32.ofNat n).toNat_lt
    have size : UInt32.size = 2 ^ 32 := rfl
    omega

/-- What is asked behind a piece is asked behind what was received before it, too. -/
theorem LogRequest.AskedAt.behind {info : DeviceInfo} {uuid : Uuid} {offset : UInt32}
    {wanted n got : Nat} {request : LogRequest} (fits : offset.toNat + wanted ≤ UInt32.size)
    (asked : request.AskedAt info uuid ((offset + UInt32.ofNat n).toNat + got)
      (wanted - n - got)) :
    request.AskedAt info uuid (offset.toNat + (n + got)) (wanted - (n + got)) := by
  have some_ := asked.some_
  have within := asked.within
  have position := asked.position_eq
  rw [toNat_behind fits (by omega), Nat.add_assoc] at position
  exact ⟨asked.uuid_eq, position, some_, by omega⟩

/-! ## What a record tells -/

namespace Readout

open Exchange

variable {info : DeviceInfo} {uuid : Uuid} {offset : UInt32} {wanted : Nat}
  {exchanges : List Exchange} {answer : Except Error Bytes}

/-- Every send asks for bytes behind those that were received before. -/
theorem asks (readout : Readout info uuid offset wanted exchanges answer)
    (payloads : info.payloadMax ≠ 0) :
    offset.toNat + wanted ≤ UInt32.size →
    ∀ before device request verdict output after,
      exchanges = before ++ .send device request verdict output :: after →
      device = info ∧ ∃ piece : LogRequest, request = piece.sent ∧
        piece.AskedAt info uuid (offset.toNat + (received before).length)
          (wanted - (received before).length) := by
  induction readout with
  | complete offset => intro _ before _ _ _ _ _ split; simp at split
  | failed more dialogue | ended more dialogue =>
      intro _ before device request verdict output after split
      obtain ⟨heard, -, rfl, sent⟩ := dialogue.asks split
      rw [received_heard heard]
      exact ⟨rfl, _, sent, LogRequest.askedAt_next payloads _ _ more⟩
  | @more offset wanted first rest piece answer some_ dialogue nonempty readout ih =>
      intro fits before device request verdict output after split
      obtain ⟨queries, verdict', output', heard, rfl, came, -⟩ := dialogue.of_ok
      rw [List.append_assoc] at split
      rcases split_cases split with early | ⟨rfl, same, -⟩ | ⟨before', rfl, behind⟩
      · cases (heard _ early).1
      · cases same
        rw [received_heard heard]
        exact ⟨rfl, _, rfl, LogRequest.askedAt_next payloads _ _ some_⟩
      · obtain ⟨device_eq, request', sent, asked⟩ :=
          ih (fits_behind fits) before' device request verdict output after behind
        have got : received (queries ++ .send info (LogRequest.next info uuid offset wanted).sent
            verdict' output' :: before') = piece ++ received before' := by
          rw [List.append_cons, received_append, dialogue.received_eq]
        rw [got, List.length_append]
        exact ⟨device_eq, request', sent, asked.behind fits⟩

/-- Only a query that came back, or a reply with at least one byte, is followed by another
exchange. -/
theorem goes_on (readout : Readout info uuid offset wanted exchanges answer) :
    ∀ before exchange after, exchanges = before ++ exchange :: after → after ≠ [] →
      ∃ bytes, exchange.result = .ok bytes ∧ (exchange.isSend = true → bytes ≠ []) := by
  induction readout with
  | complete offset => intro before _ _ split; simp at split
  | failed some_ dialogue | ended some_ dialogue =>
      intro before exchange after split followed
      obtain ⟨query, came⟩ := dialogue.goes_on split followed
      exact ⟨[], came, by simp [query]⟩
  | more some_ dialogue nonempty readout ih =>
      intro before exchange after split followed
      obtain ⟨queries, verdict, output, heard, rfl, came, -⟩ := dialogue.of_ok
      rw [List.append_assoc] at split
      rcases split_cases split with early | ⟨-, rfl, -⟩ | ⟨before', -, behind⟩
      · obtain ⟨query, came⟩ := heard exchange early
        exact ⟨[], came, by simp [query]⟩
      · exact ⟨_, came, fun _ => nonempty⟩
      · exact ih before' exchange after behind followed

/-- An answer has the bytes that came, all that were wanted unless the last reply was empty. -/
theorem of_ok (readout : Readout info uuid offset wanted exchanges answer) :
    ∀ data, answer = .ok data → data = received exchanges ∧ data.length ≤ wanted ∧
      (data.length < wanted →
        ∃ before last,
          exchanges = before ++ [last] ∧ last.isSend = true ∧ last.result = .ok []) := by
  induction readout with
  | complete offset =>
      rintro data ⟨⟩
      exact ⟨rfl, Nat.le_refl 0, fun less => absurd less (Nat.lt_irrefl 0)⟩
  | failed some_ dialogue => rintro data ⟨⟩
  | ended some_ dialogue =>
      rintro data ⟨⟩
      refine ⟨dialogue.received_eq.symm, Nat.zero_le _, fun _ => ?_⟩
      obtain ⟨queries, verdict, output, -, same, came, -⟩ := dialogue.of_ok
      exact ⟨queries, _, same, rfl, came⟩
  | @more offset wanted first rest piece answer some_ dialogue nonempty readout ih =>
      intro data answered
      obtain ⟨-, -, -, -, -, -, fits⟩ := dialogue.of_ok
      rw [LogRequest.toNat_length_next] at fits
      rcases ended : answer with e | bytes <;> rw [ended] at answered
      · cases answered
      · cases answered
        obtain ⟨whole, within, short⟩ := ih bytes ended
        refine ⟨?_, ?_, fun less => ?_⟩
        · rw [received_append, dialogue.received_eq, ← whole]
        · rw [List.length_append]
          omega
        · rw [List.length_append] at less
          obtain ⟨before, last, rfl, sent, empty⟩ := short (by omega)
          exact ⟨_, last, (List.append_assoc ..).symm, sent, empty⟩

/-- If the last exchange fails, its failure is the answer. -/
theorem of_failed (readout : Readout info uuid offset wanted exchanges answer) :
    ∀ before last e, exchanges = before ++ [last] → last.result = .error e → answer = .error e := by
  induction readout with
  | complete offset => intro before _ _ split; simp at split
  | failed some_ dialogue | ended some_ dialogue =>
      intro before last e split failed
      exact dialogue.of_failed split failed
  | more some_ dialogue nonempty readout ih =>
      intro before last e split failed
      obtain ⟨queries, verdict, output, heard, rfl, came, -⟩ := dialogue.of_ok
      rw [List.append_assoc] at split
      rcases split_cases split with early | ⟨-, rfl, -⟩ | ⟨before', -, behind⟩
      · rw [(heard last early).2] at failed
        cases failed
      · rw [came] at failed
        cases failed
      · rw [ih before' last e behind failed]
        rfl

/-- A failure is that of the last exchange, or of the making of a command for the next piece from
the catalog that came last. -/
theorem of_error (readout : Readout info uuid offset wanted exchanges answer)
    (payloads : info.payloadMax ≠ 0) :
    offset.toNat + wanted ≤ UInt32.size → ∀ e, answer = .error e →
      (∃ before last, exchanges = before ++ [last] ∧ last.result = .error e) ∨
      ∃ before count header written, ∃ piece : LogRequest,
        exchanges = before ++ [.query info (.withCapacity count) (.ok header) written] ∧
        piece.AskedAt info uuid (offset.toNat + (received exchanges).length)
          (wanted - (received exchanges).length) ∧
        Command.arrangedFor info CommandId.getLog (Command.arrangePiece piece)
          (QueryBuffer.fetched count header written) = .error e := by
  induction readout with
  | complete offset => rintro _ e ⟨⟩
  | ended some_ dialogue => rintro _ e ⟨⟩
  | failed some_ dialogue =>
      rintro _ e ⟨⟩
      rcases dialogue.of_error nofun with
        last | ⟨heard, before, count, header, written, same, refused⟩
      · exact .inl last
      · refine .inr ⟨before, count, header, written, _, same, ?_, refused⟩
        rw [received_heard heard]
        exact LogRequest.askedAt_next payloads _ _ some_
  | @more offset wanted first rest piece answer some_ dialogue nonempty readout ih =>
      intro fits e answered
      rcases ended : answer with e' | bytes <;> rw [ended] at answered <;> cases answered
      rcases ih (fits_behind fits) e ended with
        ⟨before, last, rfl, failed⟩ | ⟨before, count, header, written, request, rfl, asked, refused⟩
      · exact .inl ⟨_, last, (List.append_assoc ..).symm, failed⟩
      · refine .inr ⟨_, count, header, written, request, (List.append_assoc ..).symm, ?_, refused⟩
        rw [received_append, dialogue.received_eq, List.length_append]
        exact asked.behind fits

/-- Every piece but the last brings a byte that was wanted, so there are no more sends than
bytes. -/
theorem sends_le (readout : Readout info uuid offset wanted exchanges answer) :
    exchanges.countP Exchange.isSend ≤ wanted := by
  induction readout with
  | complete offset => exact Nat.le_refl 0
  | failed some_ dialogue | ended some_ dialogue =>
      have := dialogue.sends_le_one
      omega
  | more some_ dialogue nonempty readout ih =>
      have once := dialogue.sends_le_one
      have byte := List.length_pos_iff.mpr nonempty
      obtain ⟨_, _, _, -, -, -, fits⟩ := dialogue.of_ok
      rw [LogRequest.toNat_length_next] at fits
      rw [List.countP_append]
      omega

end Readout

/-! ## Bounds -/

open Exchange in
/-- What holds of the exchanges of a reading of `length` bytes from a position on, and of its
answer. -/
structure LogBounds (info : DeviceInfo) (uuid : Uuid) (position length : Nat)
    (exchanges : List Exchange) (answer : Except Error Bytes) : Prop where
  /-- There are no more sends than bytes. -/
  sends : exchanges.countP isSend ≤ length
  /-- Each of them asks for bytes behind those that came before, and not for too many. -/
  asks : ∀ before device request verdict output after,
    exchanges = before ++ .send device request verdict output :: after →
    device = info ∧ ∃ piece : LogRequest, request = piece.sent ∧
      piece.AskedAt info uuid (position + (received before).length)
        (length - (received before).length)
  /-- Nothing follows a failure or an empty reply. -/
  goes_on : ∀ before exchange after, exchanges = before ++ exchange :: after → after ≠ [] →
    ∃ bytes, exchange.result = .ok bytes ∧ (exchange.isSend = true → bytes ≠ [])
  /-- The data are the replies in order, and all that was asked for unless the last is empty. -/
  data : ∀ data, answer = .ok data → data = received exchanges ∧ data.length ≤ length ∧
    (data.length < length →
      ∃ before last, exchanges = before ++ [last] ∧ last.isSend = true ∧ last.result = .ok [])
  /-- A failure is answered as it is. -/
  failure : ∀ before last e, exchanges = before ++ [last] → last.result = .error e →
    answer = .error e
  /-- No other failure is answered, but that a command for the next piece could not be made. -/
  reason : ∀ e, answer = .error e →
    (∃ before last, exchanges = before ++ [last] ∧ last.result = .error e) ∨
    ∃ before count header written, ∃ piece : LogRequest,
      exchanges = before ++ [.query info (.withCapacity count) (.ok header) written] ∧
      piece.AskedAt info uuid (position + (received exchanges).length)
        (length - (received exchanges).length) ∧
      Command.arrangedFor info CommandId.getLog (Command.arrangePiece piece)
        (QueryBuffer.fetched count header written) = .error e

theorem Readout.bounds {info : DeviceInfo} {uuid : Uuid} {offset : UInt32} {wanted : Nat}
    {exchanges : List Exchange} {answer : Except Error Bytes}
    (readout : Readout info uuid offset wanted exchanges answer) (payloads : info.payloadMax ≠ 0)
    (fits : offset.toNat + wanted ≤ UInt32.size) :
    LogBounds info uuid offset.toNat wanted exchanges answer where
  sends := readout.sends_le
  asks := readout.asks payloads fits
  goes_on := readout.goes_on
  data := readout.of_ok
  failure := readout.of_failed
  reason := readout.of_error payloads fits

/-- A log of a device with payloads is read in pieces. -/
theorem Inquiry.readLog_readout (backend : Backend δ) {info : DeviceInfo}
    (payloads : info.payloadMax ≠ 0) (uuid : Uuid) (offset length : UInt32)
    (w : World (Recorded δ)) :
    ∃ exchanges,
      let ran := readLog backend.recorded info uuid offset length w
      ran.2.device.exchanges = w.device.exchanges ++ exchanges ∧
        Readout info uuid offset length.toNat exchanges ran.1 := by
  rw [readLog, if_neg payloads]
  exact readPieces_readout backend info uuid length.toNat offset w

/-- **Reading a log ends and stays in bounds**, over every backend, whatever statuses, sizes and
bytes it answers; without payloads it fails and without a length it is done, both before anything is
asked. -/
theorem log_reading_bounded (backend : Backend δ) (info : DeviceInfo) (uuid : Uuid)
    (offset length : UInt32) (fits : offset.toNat + length.toNat ≤ UInt32.size)
    (world : World δ) :
    let ran := Inquiry.readLog backend info uuid offset length world
    let exchanges := Task.exchanges (Inquiry.readLog backend.recorded info uuid offset length) world
    (info.payloadMax ≠ 0 →
      LogBounds info uuid offset.toNat length.toNat exchanges ran.1) ∧
    (info.payloadMax = 0 →
      ran = (.error (.invalidArgument .noPayloads), world) ∧ exchanges = []) ∧
    (info.payloadMax ≠ 0 → length = 0 → ran = (.ok [], world) ∧ exchanges = []) := by
  intro ran exchanges
  refine ⟨fun payloads => ?_, fun none_ => ?_, fun payloads empty => ?_⟩
  · obtain ⟨_, left, readout⟩ :=
      Inquiry.readLog_readout backend payloads uuid offset length world.recording
    have same := answer_task (Inquiry.readLog_follows backend.recorded_follows info uuid offset
      length) world
    rw [show ran.1 = _ from same, show exchanges = _ from left]
    exact readout.bounds payloads fits
  · simp only [ran, exchanges, Task.exchanges, Inquiry.readLog, none_]
    exact ⟨rfl, rfl⟩
  · subst empty
    simp only [ran, exchanges, Task.exchanges, Inquiry.readLog, if_neg payloads]
    rw [Inquiry.readPieces, Inquiry.readPieces, if_pos (by rfl), if_pos (by rfl)]
    exact ⟨rfl, rfl⟩

/-- A log whose second reply claims more bytes than it was asked for. -/
def World.boastful : World Script :=
  { device :=
      { catalog? := some [.enabled CommandId.getLog 24 variableSize]
        sends := [.ok { data? := some [1, 2] },
          .ok { data? := some [3, 4], outSize? := some 0xffffffff }] } }

/-- Of its four bytes the three that were asked for are read. -/
theorem log_reading_bounded_boastful :
    let info : DeviceInfo := { payloadMax := 24 }
    let exchanges :=
      Task.exchanges (Inquiry.readLog Script.backend.recorded info .effectsLog 0 3) .boastful
    exchanges.countP Exchange.isSend ≤ 3 ∧ [1, 2, 3] = Exchange.received exchanges := by
  intro info exchanges
  have bounds := (log_reading_bounded Script.backend info .effectsLog 0 3 (by decide) .boastful).1
    (by decide)
  have answered : (Inquiry.readLog Script.backend info .effectsLog 0 3 .boastful).1 =
      .ok [1, 2, 3] := ok_of_toOption (by decide +kernel)
  exact ⟨bounds.sends, (bounds.data _ answered).1⟩

end CxlMailbox
