/-
# CxlMailbox.Proofs.Command.Construction — what the making of a command comes to

A command is made in three steps: its catalog is fetched, its id is looked up, and its payloads get
the declared sizes.  Over a backend that serves one catalog (`Backend.Serves`) each step has one
outcome:

* `Serves.query`: two rounds, the second for as many entries as the first counted, bring the catalog
  in its order, and they are all that is asked (`Serves.queried_recorded`);
* `validate_first` and `validate_none`: the first entry with the id is taken, if there is one;
* `input_withDeclaredInput` and `output_withDeclaredOutput`: each declared size becomes that many
  zero bytes.

`Session.prepare_served` puts them together, and `construction_exact` says what comes out for every
catalog, id and largest payload (`Constructs`).
-/
import CxlMailbox.Proofs.Command.Allocation
import CxlMailbox.Proofs.Command.Coherence
import CxlMailbox.Proofs.Exchange

namespace CxlMailbox

set_option autoImplicit false

variable {δ : Type}

/-! ## Backends that serve a catalog -/

/-- Asked for no entries, the backend answers with the number of entries of the catalog, and asked
for some, it fills the slots from the front of the catalog and leaves the number alone.  It does so
in every state that is `held`, and catalog queries do not lead out of these. -/
structure Backend.Serves (backend : Backend δ) (info : DeviceInfo) (catalog : List CatalogEntry)
    (held : δ → Prop) : Prop where
  counts : ∀ files d, held d →
    let reply := backend.query files info (.withCapacity 0) d
    reply.verdict = .ok (UInt32.ofNat catalog.length) ∧ held reply.device
  fills : ∀ files d n, held d → n ≠ 0 →
    let reply := backend.query files info (.withCapacity n) d
    reply.verdict = .ok n ∧
      (QueryBuffer.withCapacity n).fill n reply.written =
        (QueryBuffer.withCapacity n).fill n (catalog.take n.toNat) ∧
      held reply.device

/-- The part of a catalog that two rounds of a query bring: the number of entries is a word. -/
def reachablePart (catalog : List CatalogEntry) : List CatalogEntry :=
  catalog.take (UInt32.ofNat catalog.length).toNat

theorem reachablePart_eq {catalog : List CatalogEntry} (small : catalog.length < UInt32.size) :
    reachablePart catalog = catalog := by
  rw [reachablePart, UInt32.toNat_ofNat_of_lt' small, List.take_length]

/-- The state that two rounds of a query leave, the second for `n` entries. -/
def Backend.queried (backend : Backend δ) (files : FileTree) (info : DeviceInfo) (n : UInt32)
    (d : δ) : δ :=
  let first := backend.query files info (.withCapacity 0) d
  (backend.query files info (.withCapacity n) first.device).device

namespace Backend.Serves

variable {backend : Backend δ} {info : DeviceInfo} {catalog : List CatalogEntry} {held : δ → Prop}

/-- A request for as many entries as were counted brings all that can be reached. -/
theorem second_round (serves : backend.Serves info catalog held) (files : FileTree) {d : δ}
    (here : held d) :
    let n := UInt32.ofNat catalog.length
    let reply := backend.query files info (.withCapacity n) d
    reply.verdict = .ok n ∧ held reply.device ∧
      ((QueryBuffer.withCapacity n).fill n reply.written).reported = reachablePart catalog := by
  intro n reply
  -- A catalog without entries, as far as a word counts them, is asked for its size once more.
  by_cases none_ : n = 0
  · obtain ⟨verdict, still⟩ := serves.counts files d here
    have first : reply = backend.query files info (.withCapacity 0) d := by
      simp only [reply, none_]
    rw [first]
    refine ⟨verdict, still, ?_⟩
    simp [reachablePart, QueryBuffer.reported, QueryBuffer.fill, show UInt32.ofNat _ = 0 from none_,
      none_]
  · obtain ⟨verdict, filled, still⟩ := serves.fills files d n here none_
    refine ⟨verdict, still, ?_⟩
    have whole : (catalog.take n.toNat).length = (QueryBuffer.withCapacity n).capacity := by
      have := Nat.mod_le catalog.length UInt32.size
      simp [QueryBuffer.withCapacity, QueryBuffer.capacity, n]
      omega
    rw [filled, QueryBuffer.reported_fill whole, List.take_take, Nat.min_self]
    rfl

/-- A query that has to be made asks twice and brings what can be reached of the catalog. -/
theorem query (serves : backend.Serves info catalog held) {s : Session δ}
    (here : held s.world.device) (device : s.command.device = info)
    (unsettled : s.command.queryVerdict? = none) :
    let d := backend.queried s.world.files info (UInt32.ofNat catalog.length) s.world.device
    held d ∧ ∃ log, Session.query backend s =
      (.ok (), (s.moved d log).withCommand (s.command.receiveCatalog (reachablePart catalog))) := by
  intro d
  obtain ⟨counted, between⟩ := serves.counts s.world.files s.world.device here
  obtain ⟨filled, after, reported⟩ := serves.second_round s.world.files between
  obtain ⟨log, ran⟩ := Session.query_fetches backend unsettled
  refine ⟨after, log, ?_⟩
  simp only [device, counted, filled, reported] at ran
  exact ran

/-- Over a backend with a record, these are two exchanges. -/
theorem recorded (serves : backend.Serves info catalog held) :
    backend.recorded.Serves info catalog fun state => held state.device where
  counts files state here := serves.counts files state.device here
  fills files state n here some_ := serves.fills files state.device n here some_

theorem queried_recorded (serves : backend.Serves info catalog held) (files : FileTree)
    (state : Recorded δ) (here : held state.device) :
    let n := UInt32.ofNat catalog.length
    ∃ written written', (backend.recorded.queried files info n state).exchanges =
      state.exchanges ++ [.query info (.withCapacity 0) (.ok n) written,
        .query info (.withCapacity n) (.ok n) written'] := by
  intro n
  let first := backend.query files info (.withCapacity 0) state.device
  let second := backend.query files info (.withCapacity n) first.device
  obtain ⟨counted, between⟩ := serves.counts files state.device here
  obtain ⟨filled, -, -⟩ := serves.second_round files between
  refine ⟨first.written, second.written, ?_⟩
  simp only [Backend.queried, Backend.recorded, n, counted, filled, List.append_assoc]
  rfl

end Backend.Serves

/-! ## The look-up -/

namespace Command

variable {info : DeviceInfo} {catalog : List CatalogEntry} {id : UInt32}

/-- A command that was resolved and has no payloads yet. -/
def matched (info : DeviceInfo) (catalog : List CatalogEntry) (id : UInt32) (index : Nat) :
    Command :=
  { device := info, resolution := .found, catalog := some catalog, index? := some index, id }

theorem validate_none (info : DeviceInfo)
    (missing : (catalog.find? fun entry => entry.id == id) = none) :
    (((unvalidated info).receiveCatalog catalog).validate id).1 = .error (.unsupported id) := by
  have unmatched : (catalog.findIdx? fun entry => entry.id == id) = none := by
    rw [List.findIdx?_eq_none_iff]
    intro entry member
    simpa using List.find?_eq_none.mp missing entry member
  simp [validate, receiveCatalog, unvalidated, unmatched]

/-- The first entry with the id is the one that is taken. -/
theorem validate_first (info : DeviceInfo) {entry : CatalogEntry}
    (first : (catalog.find? fun entry => entry.id == id) = some entry) :
    entry.id = id ∧ ∃ index, entry? (matched info catalog id index) = some entry ∧
      ((unvalidated info).receiveCatalog catalog).validate id =
        (.ok (), matched info catalog id index) := by
  obtain ⟨same, index, inRange, here, earlier⟩ := List.find?_eq_some_iff_getElem.mp first
  have index_eq : (catalog.findIdx? fun entry => entry.id == id) = some index := by
    rw [List.findIdx?_eq_some_iff_getElem]
    refine ⟨inRange, ?_, fun j before => ?_⟩
    · rw [here]
      exact same
    · simpa using earlier j before
  refine ⟨by simpa using same, index, List.getElem?_eq_some_iff.mpr ⟨inRange, here⟩, ?_⟩
  simp [validate, receiveCatalog, unvalidated, index_eq, matched]

/-! ## The payloads -/

variable {c : Command}

/-- The number of bytes that a declared output size stands for. -/
def outputSize (info : DeviceInfo) (entry : CatalogEntry) : Nat :=
  if entry.sizeOut.toInt < 0 then info.payloadMax.toNat else entry.sizeOut.toInt.toNat

theorem declaredOutput_eq (c : Command) (entry : CatalogEntry) :
    c.declaredOutput entry = outputSize c.device entry := by
  have := c.declaredOutput_cases entry
  unfold outputSize
  split <;> omega

/-- An input that was absent gets the declared size; a negative size is none. -/
theorem input_withDeclaredInput (absent : c.input = .absent) (entry : CatalogEntry) :
    (c.withDeclaredInput entry).input.bytes = Bytes.zeros entry.sizeIn.toInt.toNat := by
  by_cases some_ : 0 < entry.sizeIn.toInt
  · rw [withDeclaredInput_of_pos some_]
    rfl
  · have nothing : entry.sizeIn.toInt.toNat = 0 := by omega
    rw [withDeclaredInput_of_nonpos (by omega), absent, nothing]
    rfl

/-- So does an output that was absent; a negative size is the largest one. -/
theorem output_withDeclaredOutput (absent : c.output = .absent) (unsized : c.outSize = 0)
    (entry : CatalogEntry) :
    (c.withDeclaredOutput entry).output.bytes = Bytes.zeros (outputSize c.device entry) ∧
      (c.withDeclaredOutput entry).outSize = outputSize c.device entry := by
  have size : (c.declaredOutput entry).toNat = outputSize c.device entry := by
    rw [declaredOutput_eq]
    omega
  simp only [withDeclaredOutput, size]
  by_cases some_ : 0 < outputSize c.device entry
  · rw [if_pos some_]
    exact ⟨rfl, rfl⟩
  · have nothing : outputSize c.device entry = 0 := by omega
    rw [if_neg some_, nothing, absent, unsized]
    exact ⟨rfl, rfl⟩

/-! ## The outcome -/

/-- The three steps that make a command, once the catalog has come. -/
def construct (c : Command) (catalog : List CatalogEntry) (id : UInt32) :
    Except Error Unit × Command :=
  match (c.receiveCatalog catalog).validate id with
  | (.error e, c) => (.error e, c)
  | (.ok (), c) => c.allocSend id

/-- A command as it is made from a catalog entry: resolved, and with payloads of zeros. -/
structure Constructed (info : DeviceInfo) (catalog : List CatalogEntry) (id : UInt32)
    (entry : CatalogEntry) (c : Command) : Prop where
  device : c.device = info
  id_eq : c.id = id
  found : c.resolution.isFound = true
  catalog_eq : c.catalog = some catalog
  entry_eq : c.entry? = some entry
  rawOpcode : c.rawOpcode = 0
  unsent : c.status = none
  input : c.input.bytes = Bytes.zeros entry.sizeIn.toInt.toNat
  output : c.output.bytes = Bytes.zeros (outputSize info entry)
  outSize : c.outSize = c.output.bytes.length

/-- What the making of a command comes to: the id has to be in the catalog, and both sizes of its
first entry have to fit the device, the input's before the output's. -/
def Constructs (info : DeviceInfo) (catalog : List CatalogEntry) (id : UInt32)
    (result : Except Error Command) : Prop :=
  match catalog.find? fun entry => entry.id == id with
  | none => result = .error (.unsupported id)
  | some entry =>
    if (info.payloadMax.toNat : Int) < entry.sizeIn.toInt then
      result = .error (.payloadSize entry.sizeIn.toInt info.payloadMax)
    else if (info.payloadMax.toNat : Int) < entry.sizeOut.toInt then
      result = .error (.payloadSize entry.sizeOut.toInt info.payloadMax)
    else ∃ c, result = .ok c ∧ c.Constructed info catalog id entry

theorem construct_missing (info : DeviceInfo)
    (missing : (catalog.find? fun entry => entry.id == id) = none) :
    ((unvalidated info).construct catalog id).1 = .error (.unsupported id) := by
  have refused := validate_none info missing
  rw [construct]
  rcases ran : ((unvalidated info).receiveCatalog catalog).validate id with ⟨e | _, c⟩ <;>
    rw [ran] at refused
  · exact refused
  · cases refused

/-- With an entry, what is left to do is to allocate. -/
theorem construct_found (info : DeviceInfo) {entry : CatalogEntry}
    (first : (catalog.find? fun entry => entry.id == id) = some entry) :
    entry.id = id ∧ ∃ index, entry? (matched info catalog id index) = some entry ∧
      (unvalidated info).construct catalog id = (matched info catalog id index).allocSend id := by
  obtain ⟨same, index, here, validated⟩ := validate_first info first
  refine ⟨same, index, here, ?_⟩
  rw [construct, validated]

/-- The payloads of the declared sizes are all that the command still needs. -/
theorem constructed_matched {entry : CatalogEntry} {index : Nat}
    (here : entry? (matched info catalog id index) = some entry) :
    (((matched info catalog id index).withDeclaredInput entry).withDeclaredOutput
      entry).Constructed info catalog id entry := by
  have input := input_withDeclaredInput (c := matched info catalog id index) rfl entry
  rw [withDeclaredInput_eq] at input ⊢
  generalize (withDeclaredInput (matched info catalog id index) entry).input = payload at input ⊢
  obtain ⟨output, outSize⟩ := output_withDeclaredOutput
    (c := { matched info catalog id index with input := payload }) rfl rfl entry
  rw [withDeclaredOutput_eq] at output outSize ⊢
  exact
    { device := rfl
      id_eq := rfl
      found := rfl
      catalog_eq := rfl
      entry_eq := here
      rawOpcode := rfl
      unsent := rfl
      input := input
      output := output
      outSize := by rw [output, Bytes.length_zeros]; exact outSize }

/-- The three steps come to what they should. -/
theorem constructs_construct (info : DeviceInfo) (catalog : List CatalogEntry) (id : UInt32) :
    let made := (unvalidated info).construct catalog id
    Constructs info catalog id (made.1.map fun _ => made.2) := by
  intro made
  unfold Constructs
  rcases looked : catalog.find? fun entry => entry.id == id with _ | entry
  case none =>
    have refused : made.1 = .error (.unsupported id) := construct_missing info looked
    simp only [looked, refused, Except.map]
  obtain ⟨same, index, here, made_eq⟩ := construct_found info looked
  simp only [looked]
  by_cases input : (info.payloadMax.toNat : Int) < entry.sizeIn.toInt
  · have failed := (AllocFailure.oversizedInput here same input).ran
    rw [if_pos input]
    simp only [made, made_eq, failed, Except.map]
    rfl
  by_cases output : (info.payloadMax.toNat : Int) < entry.sizeOut.toInt
  · have failed := (AllocFailure.oversizedOutput here same (Int.not_lt.mp input) output).ran
    rw [if_neg input, if_pos output]
    simp only [made, made_eq, failed, Except.map]
    rfl
  · have allocated := allocSend_of_le here same (Int.not_lt.mp input) (Int.not_lt.mp output)
    rw [if_neg input, if_neg output]
    simp only [made, made_eq, allocated, Except.map]
    exact ⟨_, rfl, constructed_matched here⟩

end Command

/-! ## Over a backend -/

/-- The command that a drive makes of an unvalidated one, if it succeeds. -/
def Drive.made (drive : Drive δ Unit) (info : DeviceInfo) (world : World δ) :
    Except Error Command :=
  let (answer, command) := (drive.onDevice info world).1
  answer.map fun _ => command

theorem Drive.made_eq {drive : Drive δ Unit} {info : DeviceInfo} {world : World δ}
    {answer : Except Error Unit} {s : Session δ}
    (ran : drive ⟨.unvalidated info, world⟩ = (answer, s)) :
    drive.made info world = answer.map fun _ => s.command := by
  simp only [made, onDevice, ran]

namespace Session

variable {backend : Backend δ} {info : DeviceInfo} {catalog : List CatalogEntry} {held : δ → Prop}

/-- The three steps, over a backend that serves a catalog. -/
theorem prepare_served (serves : backend.Serves info catalog held) (world : World δ)
    (here : held world.device) (id : UInt32) :
    let s : Session δ := ⟨.unvalidated info, world⟩
    let d := backend.queried world.files info (UInt32.ofNat catalog.length) world.device
    let made := (Command.unvalidated info).construct (reachablePart catalog) id
    held d ∧ ∃ log, prepare backend id s = (made.1, (s.moved d log).withCommand made.2) := by
  intro s d made
  let fetched := (Command.unvalidated info).receiveCatalog (reachablePart catalog)
  obtain ⟨still, log₁, queried⟩ := serves.query (s := s) here rfl rfl
  obtain ⟨log₂, validated⟩ := validate_apply id ((s.moved d log₁).withCommand fetched)
  refine ⟨still, log₂, ?_⟩
  rw [prepare, Effect.bind_ok queried]
  simp only [made, Command.construct]
  rcases looked : fetched.validate id with ⟨e | _, c⟩ <;>
    rw [withCommand_command, looked] at validated
  · exact Effect.bind_error validated _
  · exact (Effect.bind_ok validated _).trans (allocSend_apply id _)

/-- A command whose declared sizes fit is made. -/
theorem prepare_constructed (serves : backend.Serves info catalog held) (world : World δ)
    (here : held world.device) {id : UInt32} {entry : CatalogEntry}
    (first : ((reachablePart catalog).find? fun entry => entry.id == id) = some entry)
    (input : entry.sizeIn.toInt ≤ info.payloadMax.toNat)
    (output : entry.sizeOut.toInt ≤ info.payloadMax.toNat) :
    ∃ t : Session δ, prepare backend id ⟨.unvalidated info, world⟩ = (.ok (), t) ∧
      held t.world.device ∧ t.command.Constructed info (reachablePart catalog) id entry := by
  obtain ⟨still, log, ran⟩ := prepare_served serves world here id
  have made := Command.constructs_construct info (reachablePart catalog) id
  simp only [Command.Constructs, first] at made
  rw [if_neg (by omega), if_neg (by omega)] at made
  obtain ⟨c, built, constructed⟩ := made
  rcases answer : ((Command.unvalidated info).construct (reachablePart catalog) id).1 with e | _ <;>
    rw [answer] at built ran
  · cases built
  · cases built
    exact ⟨_, ran, still, constructed⟩

/-- A raw command is made as a pass-through command and then gets its opcode. -/
theorem made_prepareRaw {opcode : UInt16} (nonzero : opcode ≠ 0) (world : World δ) :
    (prepareRaw backend opcode).made info world =
      ((prepare backend CommandId.raw).made info world).map
        fun c => { c with rawOpcode := opcode } := by
  have ran := prepareRaw_apply backend nonzero ⟨.unvalidated info, world⟩
  rcases prepared : prepare backend CommandId.raw ⟨.unvalidated info, world⟩ with ⟨e | _, t⟩ <;>
    rw [prepared] at ran <;>
    rw [Drive.made_eq ran, Drive.made_eq prepared] <;> rfl

theorem exchanges_prepareRaw {opcode : UInt16} (nonzero : opcode ≠ 0) (s : Session δ) :
    (prepareRaw backend.recorded opcode).exchanges s =
      (prepare backend.recorded CommandId.raw).exchanges s := by
  simp only [Drive.exchanges, prepareRaw_apply backend.recorded nonzero]
  rcases prepare backend.recorded CommandId.raw s.recording with ⟨e | _, t⟩ <;> rfl

end Session

/-- **Making a command is exact** over every backend that serves a catalog: two queries, no send,
and a result that the catalog, the id and the largest payload decide. -/
theorem construction_exact {backend : Backend δ} {info : DeviceInfo} {catalog : List CatalogEntry}
    {held : δ → Prop} (serves : backend.Serves info catalog held)
    (small : catalog.length < UInt32.size) (world : World δ) (here : held world.device) :
    let n := UInt32.ofNat catalog.length
    let s : Session δ := ⟨.unvalidated info, world⟩
    (∀ id, Command.Constructs info catalog id ((Session.prepare backend id).made info world) ∧
      ∃ written written', (Session.prepare backend.recorded id).exchanges s =
        [.query info (.withCapacity 0) (.ok n) written,
          .query info (.withCapacity n) (.ok n) written']) ∧
    (Session.prepareRaw backend 0).made info world = .error .reservedOpcode ∧
    (Session.prepareRaw backend.recorded 0).exchanges s = [] ∧
    ∀ opcode, opcode ≠ 0 →
      (Session.prepareRaw backend opcode).made info world =
        ((Session.prepare backend CommandId.raw).made info world).map
          (fun c => { c with rawOpcode := opcode }) ∧
      (Session.prepareRaw backend.recorded opcode).exchanges s =
        (Session.prepare backend.recorded CommandId.raw).exchanges s := by
  intro n s
  refine ⟨fun id => ⟨?_, ?_⟩, rfl, rfl, fun opcode nonzero => ?_⟩
  · obtain ⟨-, log, ran⟩ := Session.prepare_served serves world here id
    rw [reachablePart_eq small] at ran
    rw [Drive.made_eq ran]
    exact Command.constructs_construct info catalog id
  · obtain ⟨-, log, ran⟩ := Session.prepare_served serves.recorded world.recording here id
    rw [Drive.exchanges, show s.recording = ⟨.unvalidated info, world.recording⟩ from rfl, ran]
    exact serves.queried_recorded world.files { device := world.device } here
  · exact ⟨Session.made_prepareRaw nonzero world, Session.exchanges_prepareRaw nonzero s⟩

/-! ## A script with a catalog -/

/-- A script serves its catalog, which it never changes. -/
theorem Script.serves (info : DeviceInfo) (catalog : List CatalogEntry) :
    Script.backend.Serves info catalog fun script => script.catalog? = some catalog where
  counts files script here := by
    simp [backend, answerQuery, recorded, here, serve, QueryBuffer.withCapacity,
      QueryBuffer.requested]
  fills files script n here some_ := by
    have asked : (QueryBuffer.withCapacity n).requested ≠ 0 := by
      simpa [QueryBuffer.withCapacity, QueryBuffer.requested, ← UInt32.toNat_inj] using some_
    have clipped := overlay_take_front catalog (QueryBuffer.withCapacity n).slots
    simp only [backend, answerQuery, recorded, here, serve, asked, if_false, QueryBuffer.fill]
    refine ⟨rfl, ?_, trivial⟩
    rw [← clipped]
    simp [QueryBuffer.withCapacity]

/-- Two entries with one id, and one whose output does not fit a device with 16 bytes. -/
def World.twofold : World Script :=
  { device :=
      { catalog? := some
          [.enabled CommandId.getAlertConfig 4 variableSize, .enabled CommandId.identify 0 32,
            .enabled CommandId.getAlertConfig 99 0] } }

/-- The first entry counts, its variable output has 16 bytes, and the others are not made. -/
theorem construction_exact_twofold :
    let made id := (Session.prepare Script.backend id).made { payloadMax := 16 } .twofold
    (∃ c, made CommandId.getAlertConfig = .ok c ∧ c.catalog = World.twofold.device.catalog? ∧
      c.input.bytes = Bytes.zeros 4 ∧ c.output.bytes = Bytes.zeros 16 ∧ c.outSize = 16) ∧
    made CommandId.identify = .error (.payloadSize 32 16) ∧
    made CommandId.getLog = .error (.unsupported CommandId.getLog) := by
  intro made
  obtain ⟨exact_, -⟩ := construction_exact (Script.serves { payloadMax := 16 } _) (by decide)
    .twofold rfl
  obtain ⟨c, ok, constructed⟩ := (exact_ CommandId.getAlertConfig).1
  refine ⟨⟨c, ok, constructed.catalog_eq, constructed.input, constructed.output, ?_⟩,
    (exact_ CommandId.identify).1, (exact_ CommandId.getLog).1⟩
  rw [constructed.outSize, constructed.output]
  rfl

end CxlMailbox
