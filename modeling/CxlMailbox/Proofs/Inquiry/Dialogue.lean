/-
# CxlMailbox.Proofs.Inquiry.Dialogue — what one command says to its backend, and what it answers

A command that is made for an id, given its payloads and sent has a `Dialogue` with its backend: two
catalog queries and one send, or what comes of these before the first of them fails.  Nothing else
decides the answer: the catalog that came decides what is sent (`arranged`), and the reply to that
is decoded.

* `prepare_rounds` is the making of a command, over any backend;
* `conclude_output` is the send and the final output of a command that is ready;
* `prepare_dialogue` puts both together, and `Inquiry.get_dialogue` and `readPiece_dialogue` are the
  commands that have dialogues.
-/
import CxlMailbox.Proofs.Command.Construction
import CxlMailbox.Proofs.Inquiry.Outcome

namespace CxlMailbox

set_option autoImplicit false

open Effect Session

variable {δ α : Type}

/-! ## Dialogues -/

namespace Exchange

/-- What an exchange came to: a query that came back brings no bytes, and a send the reply that its
status makes final. -/
def result : Exchange → Except Error Bytes
  | query _ _ verdict _ => verdict.map fun _ => []
  | send _ request verdict written => verdict.bind fun receipt => finalReply request receipt written

/-- Where an exchange stands in a record: among the first ones, at one that is known, or behind
it. -/
theorem split_cases {first rest before after : List Exchange} {known exchange : Exchange}
    (split : first ++ known :: rest = before ++ exchange :: after) :
    exchange ∈ first ∨ (before = first ∧ exchange = known ∧ after = rest) ∨
      ∃ before', before = first ++ known :: before' ∧ rest = before' ++ exchange :: after := by
  induction first generalizing before with
  | nil =>
      rcases before with _ | ⟨head, before⟩
      · obtain ⟨same, rest_⟩ := List.cons.inj split
        exact .inr (.inl ⟨rfl, same.symm, rest_.symm⟩)
      · obtain ⟨same, rest_⟩ := List.cons.inj split
        exact .inr (.inr ⟨before, by rw [same]; rfl, rest_⟩)
  | cons query first ih =>
      rcases before with _ | ⟨head, before⟩
      · exact .inl (by rw [← (List.cons.inj split).1]; exact List.mem_cons_self)
      · obtain ⟨same, split⟩ := List.cons.inj split
        rcases ih split with early | ⟨rfl, same', rest_⟩ | ⟨before', rfl, rest_⟩
        · exact .inl (List.mem_cons_of_mem _ early)
        · exact .inr (.inl ⟨by rw [same], same', rest_⟩)
        · exact .inr (.inr ⟨before', by rw [same]; rfl, rest_⟩)

end Exchange

/-- The catalog that the second round of a query brings. -/
def QueryBuffer.fetched (count header : UInt32) (written : List CatalogEntry) :
    List CatalogEntry :=
  ((withCapacity count).fill header written).reported

/-- The exchanges of one command for the device, and its answer.  With the catalog that was fetched
the command is `arranged`, and the reply to its send is decoded. -/
inductive Dialogue (info : DeviceInfo) (arranged : List CatalogEntry → Except Error Command)
    (decode : Bytes → Except Error α) : List Exchange → Except Error α → Prop
  /-- The first round fails. -/
  | uncounted (e : Error) (written : List CatalogEntry) :
      Dialogue info arranged decode [.query info (.withCapacity 0) (.error e) written] (.error e)
  /-- The second round fails. -/
  | unlisted (count : UInt32) (written : List CatalogEntry) (e : Error)
      (written' : List CatalogEntry) :
      Dialogue info arranged decode
        [.query info (.withCapacity 0) (.ok count) written,
          .query info (.withCapacity count) (.error e) written'] (.error e)
  /-- The catalog or the largest payload does not allow the command. -/
  | refused (count : UInt32) (written : List CatalogEntry) (header : UInt32)
      (written' : List CatalogEntry) (e : Error) :
      arranged (QueryBuffer.fetched count header written') = .error e →
      Dialogue info arranged decode
        [.query info (.withCapacity 0) (.ok count) written,
          .query info (.withCapacity count) (.ok header) written'] (.error e)
  /-- The command is sent. -/
  | sent (count : UInt32) (written : List CatalogEntry) (header : UInt32)
      (written' : List CatalogEntry) (c : Command) (verdict : Except Error Receipt)
      (output : Bytes) :
      arranged (QueryBuffer.fetched count header written') = .ok c →
      Dialogue info arranged decode
        [.query info (.withCapacity 0) (.ok count) written,
          .query info (.withCapacity count) (.ok header) written',
          .send c.device c.request verdict output]
        ((Exchange.send c.device c.request verdict output).result.bind decode)

namespace Dialogue

variable {info : DeviceInfo} {arranged : List CatalogEntry → Except Error Command}
  {decode : Bytes → Except Error α} {exchanges : List Exchange} {answer : Except Error α}

/-- Queries that came back. -/
def Heard (queries : List Exchange) : Prop :=
  ∀ query ∈ queries, query.isSend = false ∧ query.result = .ok []

theorem heard_two (info : DeviceInfo) (offered offered' : QueryBuffer) (count header : UInt32)
    (written written' : List CatalogEntry) :
    Heard [.query info offered (.ok count) written,
      .query info offered' (.ok header) written'] := by
  intro query member
  rcases List.mem_cons.mp member with rfl | last
  · exact ⟨rfl, rfl⟩
  · rw [List.mem_singleton.mp last]
    exact ⟨rfl, rfl⟩

/-- Behind the queries that came back a dialogue ends: with a query that failed, with the refusal of
the command for the catalog that the last one brought, or with the send. -/
theorem ends (dialogue : Dialogue info arranged decode exchanges answer) :
    ∃ queries, Heard queries ∧
      ((∃ offered e written, answer = .error e ∧
        exchanges = queries ++ [.query info offered (.error e) written]) ∨
      (∃ before count header written e,
        arranged (QueryBuffer.fetched count header written) = .error e ∧ answer = .error e ∧
        exchanges = queries ∧
        queries = before ++ [.query info (.withCapacity count) (.ok header) written]) ∨
      ∃ catalog c verdict output, arranged catalog = .ok c ∧
        answer = (Exchange.send c.device c.request verdict output).result.bind decode ∧
        exchanges = queries ++ [.send c.device c.request verdict output]) := by
  cases dialogue with
  | uncounted e written => exact ⟨[], nofun, .inl ⟨_, e, written, rfl, rfl⟩⟩
  | unlisted count written e written' =>
      refine ⟨[.query info (.withCapacity 0) (.ok count) written], ?_,
        .inl ⟨_, e, written', rfl, rfl⟩⟩
      intro query member
      rw [List.mem_singleton.mp member]
      exact ⟨rfl, rfl⟩
  | refused count written header written' e refused =>
      exact ⟨_, heard_two info _ _ count header written written',
        .inr (.inl ⟨[_], count, header, written', e, refused, rfl, rfl, rfl⟩)⟩
  | sent count written header written' c verdict output allowed =>
      exact ⟨_, heard_two info _ _ count header written written',
        .inr (.inr ⟨_, c, verdict, output, allowed, rfl, rfl⟩)⟩

/-- A dialogue that answers has sent its command. -/
theorem of_ok {a : α} (dialogue : Dialogue info arranged decode exchanges (.ok a)) :
    ∃ queries catalog c verdict output, Heard queries ∧ arranged catalog = .ok c ∧
      exchanges = queries ++ [.send c.device c.request verdict output] ∧
      (Exchange.send c.device c.request verdict output).result.bind decode = .ok a := by
  obtain ⟨queries, heard, ⟨_, _, _, failed, -⟩ | ⟨_, _, _, _, _, -, failed, -⟩ |
    ⟨catalog, c, verdict, output, allowed, answered, same⟩⟩ := dialogue.ends
  · cases failed
  · cases failed
  · exact ⟨queries, catalog, c, verdict, output, heard, allowed, same, answered.symm⟩

/-- Only queries that came back are followed by another exchange. -/
theorem goes_on (dialogue : Dialogue info arranged decode exchanges answer)
    {before after : List Exchange} {exchange : Exchange}
    (split : exchanges = before ++ exchange :: after) (followed : after ≠ []) :
    exchange.isSend = false ∧ exchange.result = .ok [] := by
  have within {queries : List Exchange} (heard : Heard queries) {last : Exchange}
      (split : queries ++ [last] = before ++ exchange :: after) :
      exchange.isSend = false ∧ exchange.result = .ok [] := by
    rcases Exchange.split_cases split with early | ⟨-, -, last⟩ | ⟨_, -, none_⟩
    · exact heard exchange early
    · exact absurd last followed
    · simp at none_
  obtain ⟨queries, heard, ⟨_, _, _, -, rfl⟩ | ⟨_, _, _, _, _, -, -, rfl, -⟩ |
    ⟨_, _, _, _, -, -, rfl⟩⟩ := dialogue.ends
  · exact within heard split
  · refine heard exchange ?_
    rw [split]
    exact List.mem_append_right _ List.mem_cons_self
  · exact within heard split

/-- The failure of its last exchange is the failure of a dialogue. -/
theorem of_failed (dialogue : Dialogue info arranged decode exchanges answer)
    {before : List Exchange} {last : Exchange} {e : Error} (split : exchanges = before ++ [last])
    (failed : last.result = .error e) : answer = .error e := by
  obtain ⟨queries, heard, ⟨_, _, _, rfl, rfl⟩ | ⟨_, _, _, _, _, -, -, rfl, -⟩ |
    ⟨_, _, _, _, -, rfl, rfl⟩⟩ := dialogue.ends
  · obtain ⟨-, same⟩ := List.append_inj' split rfl
    rw [← (List.cons.inj same).1] at failed
    cases failed
    rfl
  · have early : last ∈ exchanges := by
      rw [split]
      exact List.mem_append_right _ List.mem_cons_self
    rw [(heard last early).2] at failed
    cases failed
  · obtain ⟨-, same⟩ := List.append_inj' split rfl
    rw [(List.cons.inj same).1, failed]
    rfl

/-- A dialogue fails with its last exchange, or because the command was refused. -/
theorem of_error {e : Error} (dialogue : Dialogue info arranged decode exchanges (.error e))
    (decodes : ∀ bytes, decode bytes ≠ .error e) :
    (∃ before last, exchanges = before ++ [last] ∧ last.result = .error e) ∨
      Heard exchanges ∧ ∃ before count header written,
        exchanges = before ++ [.query info (.withCapacity count) (.ok header) written] ∧
        arranged (QueryBuffer.fetched count header written) = .error e := by
  obtain ⟨queries, heard, ⟨_, _, _, failed, same⟩ |
    ⟨before, count, header, written, _, refused, failed, same, last⟩ |
    ⟨_, _, _, _, -, failed, same⟩⟩ := dialogue.ends
  · cases failed
    exact .inl ⟨queries, _, same, rfl⟩
  · cases failed
    exact .inr ⟨same ▸ heard, before, count, header, written, same.trans last, refused⟩
  · refine .inl ⟨queries, _, same, ?_⟩
    rcases result : Exchange.result _ with e' | bytes <;> rw [result] at failed
    · rw [Except.bind, Except.error.injEq] at failed
      rw [failed]
    · exact absurd failed.symm (decodes bytes)

/-- A dialogue sends at most once. -/
theorem sends_le_one (dialogue : Dialogue info arranged decode exchanges answer) :
    exchanges.countP Exchange.isSend ≤ 1 := by
  have silent {queries : List Exchange} (heard : Heard queries) :
      queries.countP Exchange.isSend = 0 :=
    List.countP_eq_zero.mpr fun query member => by simp [(heard query member).1]
  have one (exchange : Exchange) : [exchange].countP Exchange.isSend ≤ 1 :=
    List.countP_le_length
  obtain ⟨queries, heard, ⟨_, _, _, -, rfl⟩ | ⟨_, _, _, _, _, -, -, rfl, -⟩ |
    ⟨_, _, _, _, -, -, rfl⟩⟩ := dialogue.ends
  · rw [List.countP_append, silent heard, Nat.zero_add]
    exact one _
  · rw [silent heard]
    exact Nat.zero_le 1
  · rw [List.countP_append, silent heard, Nat.zero_add]
    exact one _

end Dialogue

/-! ## The parts of a dialogue -/

namespace Session

variable (backend : Backend δ) (info : DeviceInfo) (id : UInt32)

/-- The making of a command fails with a round of its query, or it is the construction from the
catalog that the second round brought. -/
theorem prepare_rounds (world : World δ) :
    let s : Session δ := ⟨.unvalidated info, world⟩
    let first := backend.query world.files info (.withCapacity 0) world.device
    (∃ e log, first.verdict = .error e ∧
      prepare backend id s = (.error e, s.moved first.device log)) ∨
    ∃ count, first.verdict = .ok count ∧
      let second := backend.query world.files info (.withCapacity count) first.device
      (∃ e log, second.verdict = .error e ∧
        prepare backend id s = (.error e, s.moved second.device log)) ∨
      ∃ header log, second.verdict = .ok header ∧
        let made := (Command.unvalidated info).construct
          (QueryBuffer.fetched count header second.written) id
        prepare backend id s = (made.1, (s.moved second.device log).withCommand made.2) := by
  intro s first
  rcases query_cases backend (s := s) rfl with
    ⟨e, log, failed, ran⟩ | ⟨count, counted, ⟨e, log, failed, ran⟩ | ⟨header, log, done, ran⟩⟩
  · exact .inl ⟨e, log, failed, bind_error ran _⟩
  · exact .inr ⟨count, counted, .inl ⟨e, log, failed, bind_error ran _⟩⟩
  · let second := backend.query world.files info (.withCapacity count) first.device
    refine .inr ⟨count, counted, .inr ⟨header, ?_⟩⟩
    let catalog := QueryBuffer.fetched count header second.written
    let fetched := (Command.unvalidated info).receiveCatalog catalog
    obtain ⟨log', validated⟩ := validate_apply id ((s.moved second.device log).withCommand fetched)
    refine ⟨log', done, ?_⟩
    rw [prepare, bind_ok ran]
    simp only [Command.construct]
    rcases looked : fetched.validate id with ⟨e | _, c⟩ <;>
      rw [withCommand_command, looked] at validated
    · exact bind_error validated _
    · exact (bind_ok validated _).trans (allocSend_apply id _)

/-- A command that is ready is sent, and its final output is decoded: the answer is that of the
reply. -/
theorem conclude_output {s : Session δ} {id : UInt32} (clear : s.command.sendFault? = none)
    (same : s.command.id = id) (decode : Bytes → Except Error α) :
    let reply := backend.send s.world.files s.command.device s.command.request s.world.device
    let exchange := Exchange.send s.command.device s.command.request reply.verdict reply.written
    let ran := (do
      let _ ← conclude backend
      decode (← outputFor id) : Drive δ α) s
    ran.1 = exchange.result.bind decode ∧ ran.2.world.device = reply.device ∧
      ran.2.world.files = s.world.files := by
  intro reply exchange ran
  obtain ⟨log, submitted⟩ := submit_sends backend clear
  obtain ⟨log', concluded⟩ := conclude_apply backend s
  rw [submitted] at concluded
  rcases verdict : reply.verdict with e | receipt
  case error =>
    simp only [reply] at verdict
    simp only [verdict, Except.bind] at concluded
    have failed : ran = _ := bind_error concluded _
    simp only [failed, exchange, reply, verdict, Exchange.result, Except.bind]
    exact ⟨trivial, rfl, rfl⟩
  case ok =>
    simp only [reply] at verdict
    simp only [verdict, Except.bind] at concluded
    -- Whether the command completed is read once more, off the status that it keeps.
    have final : (s.command.received receipt reply.written).outputFor id =
        finalReply s.command.request receipt reply.written := by
      rw [← Command.received_finalResult, Command.outputFor]
      exact if_neg fun other => other same
    have came : exchange.result = finalReply s.command.request receipt reply.written := by
      simp only [exchange, reply, verdict, Exchange.result, Except.bind]
    rcases ended : (Status.ofWord receipt.returnWord).completion with e | completion
    · rw [ended] at concluded
      have failed : ran = _ := bind_error concluded _
      rw [came, finalReply_of_error ended, failed]
      exact ⟨rfl, rfl, rfl⟩
    · rw [ended] at concluded
      have read : ran = _ := (bind_ok concluded _).trans
        (Inquiry.decoding_apply (fun c => c.outputFor id) decode _)
      rw [came, ← final, read]
      exact ⟨rfl, rfl, rfl⟩

/-- Bytes that are not decoded are the final output itself. -/
theorem outputFor_whole (id : UInt32) :
    (do (Except.ok (← outputFor id) : Except Error Bytes) : Drive δ Bytes) = outputFor id :=
  bind_pure _

/-- A run whose input fits is sent with that input. -/
theorem run_sized {s : Session δ} (input : Bytes) (some_ : 0 < input.length)
    (fits : input.length ≤ s.command.device.payloadMax.toNat) :
    run backend input s =
      conclude backend (s.withCommand { s.command with input := .owned input }) := by
  have given : ¬ input.isEmpty = true := by
    rw [List.isEmpty_iff_length_eq_zero]
    omega
  rw [run_eq, if_neg given, Labels.input_arranged input fits,
    overlay_of_length_eq (by simp)]

/-- Any other input is refused. -/
theorem run_oversized {s : Session δ} (input : Bytes)
    (large : s.command.device.payloadMax.toNat < input.length) :
    run backend input s =
      (.error (.payloadSize input.length s.command.device.payloadMax), s) := by
  have given : ¬ input.isEmpty = true := by
    rw [List.isEmpty_iff_length_eq_zero]
    omega
  have refused := setInput_apply none input.length s
  rw [Command.setInput_none_of_lt large] at refused
  rw [run_eq, if_neg given, bind_error refused]
  rfl

/-- What follows the making of a command: the payloads are arranged, or refused without a request,
and then the command is sent and its final output decoded. -/
def Concludes (id : UInt32) (arrange : Command → Except Error Command)
    (decode : Bytes → Except Error α) (rest : Drive (Recorded δ) α) : Prop :=
  ∀ t : Session (Recorded δ), t.command.id = id → t.command.resolution.isFound = true →
    match arrange t.command with
    | .error e => (rest t).1 = .error e ∧ (rest t).2.exchanges = t.exchanges
    | .ok c => ∃ verdict written,
        let exchange := Exchange.send c.device c.request verdict written
        (rest t).1 = exchange.result.bind decode ∧
          (rest t).2.exchanges = t.exchanges ++ [exchange]

/-- A command that is ready concludes as it is. -/
theorem conclude_concludes (decode : Bytes → Except Error α) :
    Concludes id .ok decode (do
      let _ ← conclude backend.recorded
      decode (← outputFor id)) := by
  intro t same found
  have clear : t.command.sendFault? = none := Command.sendFault?_eq_none_iff.mpr found
  obtain ⟨answered, left, -⟩ := conclude_output backend.recorded clear same decode
  exact ⟨_, _, answered, congrArg Recorded.exchanges left⟩

end Session

/-- The command for an id that a catalog allows, once its payloads are arranged. -/
def Command.arrangedFor (info : DeviceInfo) (id : UInt32)
    (arrange : Command → Except Error Command) (catalog : List CatalogEntry) :
    Except Error Command :=
  match (unvalidated info).construct catalog id with
  | (.error e, _) => .error e
  | (.ok (), c) => arrange c

/-- A command that is made and concluded has a dialogue, behind what was recorded before. -/
theorem Session.prepare_dialogue {backend : Backend δ} {id : UInt32}
    {arrange : Command → Except Error Command} {decode : Bytes → Except Error α}
    {rest : Drive (Recorded δ) α} (concludes : Concludes id arrange decode rest)
    (info : DeviceInfo) (w : World (Recorded δ)) :
    ∃ exchanges,
      let ran := (do
        prepare backend.recorded id
        rest : Drive (Recorded δ) α) ⟨.unvalidated info, w⟩
      ran.2.exchanges = w.device.exchanges ++ exchanges ∧
        Dialogue info (Command.arrangedFor info id arrange) decode exchanges ran.1 := by
  let first := backend.query w.files info (.withCapacity 0) w.device.device
  rcases prepare_rounds backend.recorded info id w with
    ⟨e, log, failed, ran⟩ | ⟨count, counted, ⟨e, log, failed, ran⟩ | ⟨header, log, done, ran⟩⟩
  · refine ⟨_, ?_, by rw [bind_error ran]; exact .uncounted e first.written⟩
    rw [bind_error ran, ← failed]
    rfl
  · let second := backend.query w.files info (.withCapacity count) first.device
    refine ⟨_, ?_, by rw [bind_error ran]; exact .unlisted count first.written e second.written⟩
    rw [bind_error ran, ← failed, ← counted]
    exact List.append_assoc ..
  · let second := backend.query w.files info (.withCapacity count) first.device
    let catalog := QueryBuffer.fetched count header second.written
    let queries : List Exchange := [.query info (.withCapacity 0) (.ok count) first.written,
      .query info (.withCapacity count) (.ok header) second.written]
    let t : Session (Recorded δ) := (⟨.unvalidated info, w⟩ : Session (Recorded δ)).moved
      (backend.recorded.queried w.files info count w.device) log
    have asked : t.exchanges = w.device.exchanges ++ queries := by
      simp only [queries, ← counted, ← done]
      exact List.append_assoc ..
    let made := (Command.unvalidated info).construct catalog id
    have prepared : prepare backend.recorded id ⟨.unvalidated info, w⟩ =
        (made.1, t.withCommand made.2) := ran
    rcases built : made with ⟨e | _, c⟩ <;> rw [built] at prepared
    · refine ⟨queries, by rw [bind_error prepared]; exact asked, ?_⟩
      rw [bind_error prepared]
      refine .refused count _ header _ e ?_
      rw [Command.arrangedFor, show Command.construct _ _ _ = _ from built]
    · have met := prepare_ok (congrArg Prod.fst prepared)
      rw [prepared] at met
      have concluded := concludes (t.withCommand c) met.1 met.2
      rw [bind_ok prepared]
      rcases arranged : arrange c with e | c' <;>
        simp only [withCommand_command, arranged] at concluded
      · refine ⟨queries, concluded.2.trans asked, ?_⟩
        rw [concluded.1]
        refine .refused count _ header _ e ?_
        rw [Command.arrangedFor, show Command.construct _ _ _ = _ from built]
        exact arranged
      · obtain ⟨verdict, written, answered, sent⟩ := concluded
        refine ⟨queries ++ [.send c'.device c'.request verdict written], ?_, ?_⟩
        · rw [sent, show (t.withCommand c).exchanges = _ from asked]
          exact List.append_assoc ..
        · rw [answered]
          refine .sent count _ header _ c' verdict written ?_
          rw [Command.arrangedFor, show Command.construct _ _ _ = _ from built]
          exact arranged

/-! ## Commands with a dialogue -/

/-- A command for a piece of a log, with its payloads. -/
def Command.forPiece (c : Command) (request : LogRequest) : Command :=
  { c with
    input := .owned request.encode
    output := .owned (Bytes.zeros request.length.toNat)
    outSize := request.length.toNat }

/-- The payloads of a piece, the output before the input, if they fit the device. -/
def Command.arrangePiece (request : LogRequest) (c : Command) : Except Error Command :=
  if c.device.payloadMax.toNat < request.length.toNat then
    .error (.payloadSize request.length.toNat c.device.payloadMax)
  else if c.device.payloadMax.toNat < LogRequest.size then
    .error (.payloadSize LogRequest.size c.device.payloadMax)
  else .ok (c.forPiece request)

theorem Command.arrangePiece_eq_ok_iff {request : LogRequest} {c c' : Command} :
    c.arrangePiece request = .ok c' ↔
      request.length.toNat ≤ c.device.payloadMax.toNat ∧
      LogRequest.size ≤ c.device.payloadMax.toNat ∧ c' = c.forPiece request := by
  unfold arrangePiece
  by_cases large : c.device.payloadMax.toNat < request.length.toNat
  · rw [if_pos large]
    exact ⟨nofun, fun fits => absurd fits.1 (Nat.not_le.mpr large)⟩
  · rw [if_neg large]
    by_cases small : c.device.payloadMax.toNat < LogRequest.size
    · rw [if_pos small]
      exact ⟨nofun, fun fits => absurd fits.2.1 (Nat.not_le.mpr small)⟩
    · rw [if_neg small]
      exact ⟨fun same => ⟨Nat.le_of_not_lt large, Nat.le_of_not_lt small,
        (Except.ok.inj same).symm⟩, fun fits => congrArg Except.ok fits.2.2.symm⟩

/-- What a device is sent for a piece of a log. -/
def LogRequest.sent (request : LogRequest) : SendRequest :=
  .ofBuffers CommandId.getLog 0 request.encode (Bytes.zeros request.length.toNat)

/-- A command that can be made is made from an entry of the catalog. -/
theorem Command.constructed_of_ok {info : DeviceInfo} {catalog : List CatalogEntry} {id : UInt32}
    {c : Command} (made : (unvalidated info).construct catalog id = (.ok (), c)) :
    ∃ entry, c.Constructed info catalog id entry := by
  have outcome := constructs_construct info catalog id
  simp only [made, Except.map, Constructs] at outcome
  split at outcome
  · cases outcome
  next entry _ =>
    split at outcome
    · cases outcome
    · split at outcome
      · cases outcome
      · obtain ⟨_, same, constructed⟩ := outcome
        cases same
        exact ⟨entry, constructed⟩

/-- A command without payloads of its own is sent as it was made. -/
theorem Command.arrangedFor_bare {info : DeviceInfo} {id : UInt32} {catalog : List CatalogEntry}
    {c : Command} (allowed : arrangedFor info id .ok catalog = .ok c) :
    ∃ entry, c.Constructed info catalog id entry := by
  rw [arrangedFor] at allowed
  split at allowed
  · cases allowed
  next made =>
    cases allowed
    exact constructed_of_ok made

/-- A command that was made for pieces of a log is sent as `LogRequest.sent`. -/
theorem Command.Constructed.request_forPiece {info : DeviceInfo} {catalog : List CatalogEntry}
    {entry : CatalogEntry} {c : Command}
    (constructed : c.Constructed info catalog CommandId.getLog entry) (request : LogRequest) :
    (c.forPiece request).request = request.sent := by
  rw [Command.request, LogRequest.sent, forPiece, constructed.id_eq, constructed.rawOpcode]
  rfl

/-- Whatever the catalog, the command for a piece is sent as `LogRequest.sent`, and only if the
device's payloads can carry it. -/
theorem Command.arrangedFor_piece {info : DeviceInfo} {request : LogRequest}
    {catalog : List CatalogEntry} {c : Command}
    (allowed : arrangedFor info CommandId.getLog (arrangePiece request) catalog = .ok c) :
    c.device = info ∧ c.request = request.sent ∧
      request.length.toNat ≤ info.payloadMax.toNat := by
  rw [arrangedFor] at allowed
  split at allowed
  · cases allowed
  next made heq =>
    obtain ⟨entry, constructed⟩ := constructed_of_ok heq
    obtain ⟨fits, -, rfl⟩ := arrangePiece_eq_ok_iff.mp allowed
    rw [constructed.device] at fits
    exact ⟨constructed.device, constructed.request_forPiece request, fits⟩

namespace Inquiry

variable (backend : Backend δ) (info : DeviceInfo) (w : World (Recorded δ))

theorem get_dialogue (id : UInt32) (decode : Bytes → Except Error α) :
    ∃ exchanges,
      let ran := (get backend.recorded id decode).once info w
      ran.2.device.exchanges = w.device.exchanges ++ exchanges ∧
        Dialogue info (Command.arrangedFor info id .ok) decode exchanges ran.1 := by
  obtain ⟨exchanges, left, dialogue⟩ :=
    prepare_dialogue (conclude_concludes backend id decode) info w
  refine ⟨exchanges, ?_⟩
  rw [once_apply]
  exact ⟨left, dialogue⟩

/-- What is done for a piece once its command is made. -/
theorem piece_arranged (request : LogRequest) (t : Session δ) :
    let rest : Drive δ Bytes := do
      Session.setOutput none request.length.toNat
      let _ ← Session.run backend request.encode
      Session.outputFor CommandId.getLog
    match t.command.arrangePiece request with
    | .error e => (rest t).1 = .error e ∧ (rest t).2.world = t.world
    | .ok c => rest t = (do
        let _ ← conclude backend
        Session.outputFor CommandId.getLog : Drive δ Bytes) (t.withCommand c) := by
  intro rest
  have sized := setOutput_apply none request.length.toNat t
  unfold Command.arrangePiece
  by_cases large : t.command.device.payloadMax.toNat < request.length.toNat
  · rw [if_pos large]
    rw [Command.setOutput_of_lt large] at sized
    rw [show rest t = _ from bind_error sized _]
    exact ⟨rfl, rfl⟩
  · rw [if_neg large]
    rw [Command.setOutput_of_le (Nat.le_of_not_lt large) (by simp)] at sized
    let u := t.withCommand { t.command with
      output := .make request.length.toNat none, outSize := request.length.toNat }
    have ran : rest t = (do
        let _ ← Session.run backend request.encode
        Session.outputFor CommandId.getLog : Drive δ Bytes) u := bind_ok sized _
    rw [ran]
    by_cases small : t.command.device.payloadMax.toNat < LogRequest.size
    · have refused := run_oversized backend (s := u) request.encode
        (by rw [request.length_encode]; exact small)
      rw [if_pos small, bind_error refused, request.length_encode]
      exact ⟨rfl, rfl⟩
    · have sending := run_sized backend (s := u) request.encode
        (by rw [request.length_encode]; decide)
        (by rw [request.length_encode]; exact Nat.le_of_not_lt small)
      rw [if_neg small, bind_apply, sending, ← bind_apply]
      rfl

theorem readPiece_dialogue (request : LogRequest) :
    ∃ exchanges,
      let ran := readPiece backend.recorded info request w
      ran.2.device.exchanges = w.device.exchanges ++ exchanges ∧
        Dialogue info (Command.arrangedFor info CommandId.getLog (Command.arrangePiece request)) .ok
          exchanges ran.1 := by
  have concludes : Concludes CommandId.getLog (Command.arrangePiece request) .ok
      (do
        Session.setOutput none request.length.toNat
        let _ ← Session.run backend.recorded request.encode
        Session.outputFor CommandId.getLog) := by
    intro t same found
    have arranged := piece_arranged backend.recorded request t
    rcases fits : Command.arrangePiece request t.command with e | c <;>
      simp only [fits] at arranged ⊢
    · exact ⟨arranged.1, congrArg (fun world => world.device.exchanges) arranged.2⟩
    · obtain ⟨-, -, rfl⟩ := Command.arrangePiece_eq_ok_iff.mp fits
      rw [arranged, ← outputFor_whole]
      exact conclude_concludes backend CommandId.getLog .ok
        (t.withCommand (t.command.forPiece request)) same found
  obtain ⟨exchanges, left, dialogue⟩ := prepare_dialogue concludes info w
  refine ⟨exchanges, ?_⟩
  rw [readPiece, once_apply]
  exact ⟨left, dialogue⟩

end Inquiry

end CxlMailbox
