/-
# CxlMailbox.Proofs.Labels.Commands — the label commands of the program

A label command of the program finds the length of its range itself, reads or writes a file of the
host, and prints what it did.  `LabelView` is all that it can change for its user: the label area,
the files, and what was printed.  `LabelCommand.onView?` says what a command that succeeds makes of
a view; one that fails leaves the view as it was.

* `LabelView.read_refines`, `write_refines` and `zero_refines`: the operations behind the commands,
  on a device that holds an array;
* `LabelCommand.perform_refines`: a command on the device does what it does on the view;
* `mapM_refines` and `label_commands_exact`: so does every sequence of commands, from an array of
  zeros on.
-/
import CxlMailbox.CommandLine.Report
import CxlMailbox.Proofs.Emulator.Execution
import CxlMailbox.Proofs.Exchange
import CxlMailbox.Proofs.Files.Writing
import CxlMailbox.Proofs.Labels.Host
import CxlMailbox.Proofs.Labels.Refinement
import CxlMailbox.Proofs.Text.Rendering

namespace CxlMailbox

set_option autoImplicit false

open Effect

/-! ## Ranges -/

namespace Labels

/-- The length of a range that lies in an area. -/
def range? (area : Bytes) (offset length : UInt32) : Option Nat :=
  let n := span area.length offset.toNat length.toNat
  if (length ≠ 0 ∨ offset.toNat < area.length) ∧ offset.toNat + n ≤ area.length then some n
  else none

variable {config : DeviceConfig} {area : Bytes} {offset length : UInt32} {n : Nat}

theorem range?_eq_some_iff : range? area offset length = some n ↔
    (length ≠ 0 ∨ offset.toNat < area.length) ∧
      n = span area.length offset.toNat length.toNat ∧ offset.toNat + n ≤ area.length := by
  rw [range?]
  split
  case isTrue inside =>
    rw [Option.some.injEq]
    constructor
    · rintro rfl
      exact ⟨inside.1, rfl, inside.2⟩
    · rintro ⟨-, rfl, -⟩
      rfl
  case isFalse outside =>
    refine iff_of_false nofun ?_
    rintro ⟨starts, rfl, ends⟩
    exact outside ⟨starts, ends⟩

/-- The length of bytes, if there are any, is never the length that is left open. -/
theorem range?_of_length {data : Bytes} (nonempty : data ≠ []) (small : data.length < UInt32.size)
    (area : Bytes) (offset : UInt32) :
    range? area offset (UInt32.ofNat data.length) =
      if offset.toNat + data.length ≤ area.length then some data.length else none := by
  have length : (UInt32.ofNat data.length).toNat = data.length := toNat_wordOf small
  have positive : data.length ≠ 0 := fun none => nonempty (List.length_eq_zero_iff.mp none)
  have asked : UInt32.ofNat data.length ≠ 0 := by
    intro zero
    rw [zero] at length
    exact positive length.symm
  simp only [range?, length, span, if_neg positive, asked, ne_eq, not_false_eq_true, true_or,
    true_and]

theorem resolveLength_eq_ok_iff_range? (sized : area.length = config.labelAreaSize.toNat) :
    resolveLength config.info offset length = .ok n ↔ range? area offset length = some n := by
  rw [resolveLength_eq_ok_iff, range?_eq_some_iff, sized, UInt32.lt_iff_toNat_lt]
  rfl

/-- The commands' own rule for the length of a range is that of the operations. -/
theorem rangeLength_eq_span (info : DeviceInfo) (offset length : UInt32) :
    CommandLine.Report.rangeLength info offset length =
      span info.labelAreaSize.toNat offset.toNat length.toNat := by
  have zero : length = 0 ↔ length.toNat = 0 := by simp [← UInt32.toNat_inj]
  simp only [CommandLine.Report.rangeLength, span, zero]

theorem rangeLength_of_resolved {info : DeviceInfo}
    (resolved : resolveLength info offset length = .ok n) :
    CommandLine.Report.rangeLength info offset length = n := by
  obtain ⟨-, rfl, -⟩ := resolveLength_eq_ok_iff.mp resolved
  exact rangeLength_eq_span info offset length

/-- The bytes of a range, if it lies in the area and payloads of at most `max` bytes carry it. -/
def readable? (max : Nat) (area : Bytes) (offset length : UInt32) : Option Bytes := do
  let n ← range? area offset length
  if headerSize ≤ max ∧ n ≤ max then some (Bytes.slice area offset.toNat n) else none

/-- The area with bytes written to it, if they end inside it and payloads of at most `max` bytes
carry them. -/
def written? (max : Nat) (area : Bytes) (offset : UInt32) (data : Bytes) : Option Bytes :=
  if offset.toNat + data.length ≤ area.length ∧ headerSize + data.length ≤ max then
    some (Bytes.splice area offset.toNat data)
  else none

/-- What was written is readable with its length. -/
theorem readable?_of_written? {max : Nat} {after data : Bytes} (small : area.length < UInt32.size)
    (nonempty : data ≠ []) (wrote : written? max area offset data = some after) :
    readable? max after offset (UInt32.ofNat data.length) = some data := by
  rw [written?] at wrote
  split at wrote
  case isFalse => cases wrote
  case isTrue fits =>
    obtain rfl := Option.some.inj wrote
    have carried : headerSize ≤ max ∧ data.length ≤ max := by omega
    rw [readable?, range?_of_length nonempty (by omega), Bytes.length_splice, if_pos fits.1]
    refine (if_pos carried).trans ?_
    rw [Bytes.slice_splice fits.1]

end Labels

/-! ## What a user sees -/

namespace CommandLine

/-- All that a label command can change for its user. -/
structure LabelView where
  area : Bytes
  files : FileTree
  printed : String

namespace LabelView

/-- The view with more lines printed. -/
def print (view : LabelView) (lines : List String) : LabelView :=
  { view with printed := view.printed ++ Text.printedLines lines }

/-- The view of a device that was switched on. -/
def initial (config : DeviceConfig) (world : World Emulator) : LabelView :=
  ⟨Bytes.zeros config.labelAreaSize.toNat, world.files, world.printed⟩

/-- The world is that of the view: the device holds the area, and files and printed text are
there. -/
structure Shown (config : DeviceConfig) (view : LabelView) (world : World Emulator) : Prop where
  holds : world.device.Holds config view.area
  sized : view.area.length = config.labelAreaSize.toNat
  host : world.OnHost view.files view.printed

theorem initial_shown {configs : List DeviceConfig} {config : DeviceConfig}
    (first : configs.find? (fun other => other.id == config.id) = some config)
    {world : World Emulator} (started : world.device.devices = configs.map .powerOn) :
    (initial config world).Shown config world :=
  ⟨Emulator.holds_of_powerOn first started, Bytes.length_zeros _, rfl, rfl⟩

end LabelView

/-- A label command of the program. -/
inductive LabelCommand where
  | read (output? : Option String) (offset length : UInt32)
  | write (input : String) (offset : UInt32)
  | zero (offset length : UInt32)
  deriving DecidableEq, Repr

namespace LabelCommand

def request : LabelCommand → DeviceRequest
  | read output? offset length => .readLabels output? offset length
  | write input offset => .writeLabels input offset
  | zero offset length => .zeroLabels offset length

/-- Carries a command out on an emulated device. -/
def perform (config : DeviceConfig) (now : UInt64) (command : LabelCommand) :
    StateM (World Emulator) (Except Failure Unit) :=
  (Report.perform Emulator.backend config.info now command.request).run

/-! ### What the commands print -/

def readLine (name : String) (n : Nat) (path : String) : String :=
  s!"{name}: read {n} label bytes to {path}"

def wroteLine (name : String) (n : Nat) (offset : UInt32) : String :=
  s!"{name}: wrote {n} label bytes at offset {Text.hexNumeral 1 offset.toNat}"

def zeroedLine (name : String) (n : Nat) (offset : UInt32) : String :=
  s!"{name}: zeroed {n} label bytes at offset {Text.hexNumeral 1 offset.toNat}"

/-! ### What the commands do -/

/-- What a command that succeeds makes of a view. -/
def onView? (config : DeviceConfig) (view : LabelView) : LabelCommand → Option LabelView
  | read none offset length => do
    let data ← Labels.readable? config.payloadMax.toNat view.area offset length
    some (view.print (Text.dump data offset))
  | read (some path) offset length => do
    let data ← Labels.readable? config.payloadMax.toNat view.area offset length
    let files ← (view.files.write path data).toOption
    some ({ view with files }.print [readLine config.name data.length path])
  | write input offset => do
    let data ← (view.files.read input).toOption
    if data = [] then some view
    else
      let area ← Labels.written? config.payloadMax.toNat view.area offset data
      some ({ view with area }.print [wroteLine config.name data.length offset])
  | zero offset length => do
    let n ← Labels.range? view.area offset length
    let area ← Labels.written? config.payloadMax.toNat view.area offset (Bytes.zeros n)
    some ({ view with area }.print [zeroedLine config.name n offset])

/-- A command on a view: whether it succeeds, and what it leaves.  One that fails changes
nothing. -/
def onView (config : DeviceConfig) (command : LabelCommand) : StateM LabelView Bool :=
  fun view =>
    let after? := command.onView? config view
    (after?.isSome, after?.getD view)

end LabelCommand

end CommandLine

/-! ## Operations on a device that holds an array -/

theorem DeviceConfig.ServesLabels.of_standard {config : DeviceConfig}
    (standard : config.catalog = standardCatalog) : config.ServesLabels :=
  ⟨⟨_, DeviceConfig.find?_offered standard rfl, rfl, rfl⟩,
    ⟨_, DeviceConfig.find?_offered standard rfl, rfl, rfl⟩⟩

namespace LabelCall

variable {area : Bytes} {call : LabelCall} {n : Nat} {stored : Bytes}

/-- A call is accepted exactly if its range lies in the area, its buffer covers that, and the
payloads can carry it. -/
theorem accepted_iff {max : Nat} : call.Accepted max area ↔
    ∃ n, Labels.range? area call.offset call.length = some n ∧ call.Covers n ∧
      call.Fits max n := by
  constructor
  · rintro ⟨starts, ends, covers, fits⟩
    exact ⟨_, Labels.range?_eq_some_iff.mpr ⟨starts, rfl, ends⟩, covers, fits⟩
  · rintro ⟨n, ranged, covers, fits⟩
    obtain ⟨starts, rfl, ends⟩ := Labels.range?_eq_some_iff.mp ranged
    exact ⟨starts, ends, covers, fits⟩

/-- A call whose range lies in the area is accepted if its buffer covers the range and the payloads
can carry it. -/
theorem accepted_ranged_iff (max : Nat)
    (ranged : Labels.range? area call.offset call.length = some n) :
    call.Accepted max area ↔ call.Covers n ∧ call.Fits max n := by
  simp only [accepted_iff, ranged, Option.some.injEq, exists_eq_left']

/-- An accepted call splices what it stores into the area. -/
theorem areaAfter_eq_splice (ranged : Labels.range? area call.offset call.length = some n)
    (covers : call.Covers n) (puts : call.stored? n = some stored) :
    call.areaAfter area = Bytes.splice area call.offset.toNat stored := by
  obtain ⟨-, sized, ends⟩ := Labels.range?_eq_some_iff.mp ranged
  have length : stored.length = n := length_stored covers puts
  have same : call.span area.length = n := sized.symm
  rw [Bytes.splice_eq (by omega), areaAfter, same, puts, length]

/-- A call that stores bytes sends them behind a header. -/
theorem fits_of_stored? {max : Nat} (puts : call.stored? n = some stored) :
    call.Fits max n ↔ Labels.headerSize + n ≤ max := by
  cases call with
  | read buffer offset length => cases puts
  | write data offset length | zero offset length => rfl

/-- A buffer as long as the range is filled as a whole. -/
theorem filled_whole {buffer : Bytes} {offset length : UInt32}
    (ranged : Labels.range? area offset length = some n) (whole : buffer.length = n) :
    (read buffer offset length).filled area = Bytes.slice area offset.toNat n := by
  obtain ⟨-, sized, -⟩ := Labels.range?_eq_some_iff.mp ranged
  have spanned : (read buffer offset length).span area.length = n := sized.symm
  rw [filled, spanned, List.drop_of_length_le (Nat.le_of_eq whole), List.append_nil, Bytes.slice]

section

variable {config : DeviceConfig} {world : World Emulator} (serves : config.ServesLabels)
  (holds : world.device.Holds config area) (sized : area.length = config.labelAreaSize.toNat)
include serves holds sized

theorem perform_accepted (accepted : call.Accepted config.payloadMax.toNat area) :
    ∃ world', call.perform Emulator.backend config.info world =
        ((.ok (), call.filled area), world') ∧
      world'.device.Holds config (call.areaAfter area) := by
  obtain ⟨outcome, held⟩ := call.perform_refines serves holds sized
  rcases ran : call.perform Emulator.backend config.info world with ⟨⟨answer, buffer⟩, world'⟩
  rw [ran, onArray, if_pos accepted] at outcome held
  cases answer with
  | error e => cases outcome
  | ok =>
      cases outcome
      exact ⟨world', rfl, held⟩

theorem perform_unaccepted (refused : ¬ call.Accepted config.payloadMax.toNat area) :
    ∃ e world', call.perform Emulator.backend config.info world =
        ((.error e, call.buffer), world') ∧ world'.device.Holds config area := by
  obtain ⟨outcome, held⟩ := call.perform_refines serves holds sized
  rcases ran : call.perform Emulator.backend config.info world with ⟨⟨answer, buffer⟩, world'⟩
  rw [ran, onArray, if_neg refused] at outcome held
  cases answer with
  | ok => cases outcome
  | error e =>
      cases outcome
      exact ⟨e, world', rfl, held⟩

end

end LabelCall

namespace CommandLine.LabelView

open Labels

variable {config : DeviceConfig} {view : LabelView} {world : World Emulator}

/-- How an operation ends that leaves a view if it succeeds, and changes nothing if it fails. -/
structure Ends (config : DeviceConfig) (view : LabelView) (after? : Option LabelView)
    (succeeded : Bool) (world : World Emulator) : Prop where
  outcome : succeeded = after?.isSome
  shown : (after?.getD view).Shown config world

variable (serves : config.ServesLabels) (shown : view.Shown config world)
include serves shown

/-- A read into a buffer as long as the range fills it, and changes nothing. -/
theorem read_refines (offset length : UInt32) :
    let buffer := Bytes.zeros (Report.rangeLength config.info offset length)
    let ran := Labels.read Emulator.backend config.info buffer offset length world
    (ran.1.1.map fun _ => ran.1.2).toOption =
        readable? config.payloadMax.toNat view.area offset length ∧
      view.Shown config ran.2 := by
  intro buffer ran
  let call := LabelCall.read buffer offset length
  have whole {n : Nat} (ranged : range? view.area offset length = some n) :
      call.buffer.length = n := by
    obtain ⟨-, rfl, -⟩ := range?_eq_some_iff.mp ranged
    rw [shown.sized, ← show _ = span config.labelAreaSize.toNat offset.toNat length.toNat from
      rangeLength_eq_span config.info offset length]
    exact Bytes.length_zeros _
  have host : ran.2.OnHost view.files view.printed := call.perform_onHost _ _ shown.host
  by_cases accepted : call.Accepted config.payloadMax.toNat view.area
  · obtain ⟨n, ranged, -, fits⟩ := LabelCall.accepted_iff.mp accepted
    obtain ⟨world', same, held⟩ : ∃ world', ran = _ ∧ _ :=
      LabelCall.perform_accepted serves shown.holds shown.sized accepted
    have filled : call.filled view.area = Bytes.slice view.area offset.toNat n :=
      LabelCall.filled_whole ranged (whole ranged)
    rw [same] at host ⊢
    refine ⟨?_, held, shown.sized, host⟩
    rw [filled, readable?, show range? view.area offset length = _ from ranged]
    exact (if_pos fits).symm
  · have unreadable : readable? config.payloadMax.toNat view.area offset length = none := by
      rcases ranged : range? view.area offset length with _ | n
      · rw [readable?, ranged]
        rfl
      · rw [readable?, ranged]
        refine if_neg fun fits => accepted (LabelCall.accepted_iff.mpr ⟨n, ranged, ?_, fits⟩)
        exact Nat.le_of_eq (whole ranged).symm
    obtain ⟨e, world', same, held⟩ : ∃ e world', ran = _ ∧ _ :=
      LabelCall.perform_unaccepted serves shown.holds shown.sized accepted
    rw [same] at host ⊢
    rw [unreadable]
    exact ⟨rfl, held, shown.sized, host⟩

/-- A call that stores bytes writes them to its range, or changes nothing. -/
theorem store_refines {call : LabelCall} {n : Nat} {stored : Bytes}
    (ranged : range? view.area call.offset call.length = some n) (covers : call.Covers n)
    (puts : call.stored? n = some stored) :
    let ran := call.perform Emulator.backend config.info world
    let area? := written? config.payloadMax.toNat view.area call.offset stored
    view.Ends config (area?.map ({ view with area := · })) ran.1.1.isOk ran.2 := by
  intro ran area?
  have length : stored.length = n := LabelCall.length_stored covers puts
  obtain ⟨-, -, ends⟩ := range?_eq_some_iff.mp ranged
  have host : ran.2.OnHost view.files view.printed := call.perform_onHost _ _ shown.host
  have accepted := (LabelCall.accepted_ranged_iff config.payloadMax.toNat ranged).trans
    ((and_iff_right covers).trans (LabelCall.fits_of_stored? puts))
  by_cases fits : headerSize + n ≤ config.payloadMax.toNat
  · obtain ⟨world', same, held⟩ : ∃ world', ran = _ ∧ _ :=
      LabelCall.perform_accepted serves shown.holds shown.sized (accepted.mpr fits)
    rw [LabelCall.areaAfter_eq_splice ranged covers puts] at held
    have written : area? = some (Bytes.splice view.area call.offset.toNat stored) :=
      if_pos (length.symm ▸ ⟨ends, fits⟩)
    rw [same] at host
    rw [written, same]
    exact ⟨rfl, held, (Bytes.length_splice ..).trans shown.sized, host⟩
  · obtain ⟨e, world', same, held⟩ : ∃ e world', ran = _ ∧ _ :=
      LabelCall.perform_unaccepted serves shown.holds shown.sized (mt accepted.mp fits)
    have unwritten : area? = none := if_neg fun inside => fits (length ▸ inside.2)
    rw [same] at host
    rw [unwritten, same]
    exact ⟨rfl, held, shown.sized, host⟩

/-- A call whose range is not in the area changes nothing. -/
theorem store_outside {call : LabelCall}
    (outside : range? view.area call.offset call.length = none) :
    let ran := call.perform Emulator.backend config.info world
    view.Ends config none ran.1.1.isOk ran.2 := by
  intro ran
  have host : ran.2.OnHost view.files view.printed := call.perform_onHost _ _ shown.host
  have refused : ¬ call.Accepted config.payloadMax.toNat view.area := by
    rw [LabelCall.accepted_iff, outside]
    rintro ⟨n, ⟨⟩, -⟩
  obtain ⟨e, world', same, held⟩ : ∃ e world', ran = _ ∧ _ :=
    LabelCall.perform_unaccepted serves shown.holds shown.sized refused
  rw [same] at host ⊢
  exact ⟨rfl, held, shown.sized, host⟩

/-- A write stores the bytes as a whole, or changes nothing. -/
theorem write_refines {data : Bytes} (nonempty : data ≠ []) (small : data.length < UInt32.size)
    (offset : UInt32) :
    let ran := Labels.write Emulator.backend config.info data offset (UInt32.ofNat data.length)
      world
    let area? := written? config.payloadMax.toNat view.area offset data
    view.Ends config (area?.map ({ view with area := · })) ran.1.isOk ran.2 := by
  intro ran area?
  let call := LabelCall.write data offset (UInt32.ofNat data.length)
  have whole := range?_of_length nonempty small view.area offset
  by_cases inside : offset.toNat + data.length ≤ view.area.length
  · have ranged : range? view.area call.offset call.length = some data.length :=
      whole.trans (if_pos inside)
    exact store_refines serves shown ranged (Nat.le_refl _)
      (congrArg some (List.take_of_length_le (Nat.le_refl _)))
  · have outside : range? view.area call.offset call.length = none := whole.trans (if_neg inside)
    have unwritten : area? = none := if_neg fun fits => inside fits.1
    rw [unwritten]
    exact store_outside serves shown outside

/-- A range is zeroed as a whole, or nothing is changed. -/
theorem zero_refines (offset length : UInt32) :
    let ran := Labels.zero Emulator.backend config.info offset length world
    let area? := (range? view.area offset length).bind fun n =>
      written? config.payloadMax.toNat view.area offset (Bytes.zeros n)
    view.Ends config (area?.map ({ view with area := · })) ran.1.isOk ran.2 := by
  intro ran area?
  let call := LabelCall.zero offset length
  rcases ranged : range? view.area call.offset call.length with _ | n
  · have unwritten : area? = none := congrArg (Option.bind · _) ranged
    rw [unwritten]
    exact store_outside serves shown ranged
  · have written : area? = written? config.payloadMax.toNat view.area offset (Bytes.zeros n) :=
      congrArg (Option.bind · _) ranged
    rw [written]
    exact store_refines serves shown ranged trivial rfl

end CommandLine.LabelView

/-! ## Commands on a device that holds an array -/

namespace CommandLine

open LabelView

variable {config : DeviceConfig} {view : LabelView} {world : World Emulator}

theorem Report.ask_apply {δ α : Type} (task : Task δ Error α) (world : World δ) :
    Report.ask task world = ((task world).1.mapError .mailbox, (task world).2) := rfl

/-- The bytes of a range are those of a read into a buffer of its length, whatever the range. -/
theorem Report.labelBytes_apply {δ : Type} (backend : Backend δ) (info : DeviceInfo)
    (offset length : UInt32) (world : World δ) :
    let buffer := Bytes.zeros (rangeLength info offset length)
    let ran := Labels.read backend info buffer offset length world
    labelBytes backend info offset length world = (ran.1.1.map fun _ => ran.1.2, ran.2) := by
  intro buffer ran
  rcases ranged : Labels.resolveLength info offset length with fault | n
  · have refused : ran = ((.error (.invalidArgument fault), buffer), world) := by
      simp only [ran, Labels.read, ranged]
      rfl
    simp only [labelBytes, ranged, refused]
    rfl
  · have read : (liftM (Labels.read backend info buffer offset length) :
        Task δ Error (Except Error Unit × Bytes)) world = (.ok ran.1, ran.2) := rfl
    simp only [labelBytes, ranged]
    refine (bind_ok read _).trans ?_
    rcases ran with ⟨⟨_ | _, _⟩, _⟩ <;> rfl

theorem Report.readFile_apply {δ : Type} (path : String) (world : World δ) :
    (readFile path : Task δ Failure Bytes) world =
      ((world.files.read path).mapError .file, world) := by
  have got : (getThe (World δ) : Task δ Failure (World δ)) world = (.ok world, world) := rfl
  rw [readFile, bind_ok got]
  rcases world.files.read path with fault | content <;> rfl

theorem Report.writeFile_apply {δ : Type} (path : String) (content : Bytes) (world : World δ) :
    (writeFile path content : Task δ Failure Unit) world =
      match world.files.write path content with
      | .ok files => (.ok (), { world with files })
      | .error fault => (.error (.file fault), world) := by
  have got : (getThe (World δ) : Task δ Failure (World δ)) world = (.ok world, world) := rfl
  rw [writeFile, bind_ok got]
  rcases world.files.write path content with fault | files <;> rfl

theorem print_apply {δ ε : Type} (line : String) (world : World δ) :
    (Task.print line : Task δ ε Unit) world =
      (.ok (), { world with printed := world.printed ++ Text.printedLines [line] }) := by
  rw [Text.printedLines, List.map_singleton, String.join_cons, String.join_nil,
    String.append_empty, ← String.append_assoc]
  rfl

theorem LabelView.Shown.print (shown : view.Shown config world) (lines : List String) :
    (view.print lines).Shown config
      { world with printed := world.printed ++ Text.printedLines lines } :=
  ⟨shown.holds, shown.sized, shown.host.1, congrArg (· ++ _) shown.host.2⟩

/-- An operation that changes the area, with a line that tells of its success. -/
theorem LabelView.Ends.reported {area? : Option Bytes} {task : Task Emulator Error Unit}
    (ends : view.Ends config (area?.map ({ view with area := · })) (task world).1.isOk
      (task world).2) (line : String) :
    let ran := (do Report.ask task; Task.print line : Task Emulator Failure Unit) world
    view.Ends config (area?.bind fun area => some ({ view with area }.print [line])) ran.1.isOk
      ran.2 := by
  obtain ⟨outcome, shown⟩ := ends
  have asked := Report.ask_apply task world
  rcases ended : task world with ⟨e | _, world'⟩ <;> rw [ended] at outcome shown asked
  · cases area? with
    | some area => cases outcome
    | none =>
        rw [bind_error asked]
        exact ⟨rfl, shown⟩
  · cases area? with
    | none => cases outcome
    | some area =>
        rw [bind_ok asked, print_apply]
        exact ⟨rfl, shown.print [line]⟩

namespace LabelCommand

variable (serves : config.ServesLabels) (shown : view.Shown config world)
include serves shown

theorem read_refines (now : UInt64) (output? : Option String) (offset length : UInt32) :
    let command := read output? offset length
    let ran := command.perform config now world
    view.Ends config (command.onView? config view) ran.1.isOk ran.2 := by
  intro command ran
  obtain ⟨answer, kept⟩ := LabelView.read_refines serves shown offset length
  have asked := Report.ask_apply
    (Report.labelBytes Emulator.backend config.info offset length) world
  rw [Report.labelBytes_apply] at asked
  dsimp only at asked
  generalize Labels.read Emulator.backend config.info _ offset length world = loaded
    at answer kept asked
  rcases loaded with ⟨⟨e | _, data⟩, world'⟩
  · have refused : ran = (.error (.mailbox e), world') := bind_error asked _
    have failed : command.onView? config view = none := by
      cases output? <;> simp only [command, onView?, ← answer] <;> rfl
    rw [refused, failed]
    exact ⟨rfl, kept⟩
  · replace answer : some data =
        Labels.readable? config.payloadMax.toNat view.area offset length := answer
    cases output? with
    | none =>
        have dumped : ran = _ := (bind_ok asked _).trans (Text.print_lines _ world')
        have after : command.onView? config view = some (view.print (Text.dump data offset)) := by
          simp only [command, onView?, ← answer]
          rfl
        rw [dumped, after]
        exact ⟨rfl, kept.print _⟩
    | some path =>
        have wrote := Report.writeFile_apply path data world'
        rw [show world'.files = view.files from kept.host.1] at wrote
        rcases written : view.files.write path data with fault | files <;> rw [written] at wrote
        · have refused : ran = _ := (bind_ok asked _).trans (bind_error wrote _)
          have failed : command.onView? config view = none := by
            simp only [command, onView?, ← answer, Except.toOption, Option.bind_eq_bind,
              Option.bind_some, written, Option.bind_none]
          rw [refused, failed]
          exact ⟨rfl, kept⟩
        · have delivered : ran = _ := (bind_ok asked _).trans ((bind_ok wrote _).trans
            (print_apply (readLine config.name data.length path) _))
          have after : command.onView? config view = some (({ view with files } : LabelView).print
              [readLine config.name data.length path]) := by
            simp only [command, onView?, ← answer, Except.toOption, Option.bind_eq_bind,
              Option.bind_some, written]
          rw [delivered, after]
          exact ⟨rfl, kept.holds, kept.sized, rfl, congrArg (· ++ _) kept.host.2⟩

theorem write_refines (now : UInt64) (input : String) (offset : UInt32) :
    let command := write input offset
    let ran := command.perform config now world
    view.Ends config (command.onView? config view) ran.1.isOk ran.2 := by
  intro command ran
  have opened := Report.readFile_apply input world
  rw [shown.host.1] at opened
  rcases read : view.files.read input with fault | data <;> rw [read] at opened
  · have refused : ran = (.error (.file fault), world) := bind_error opened _
    have failed : command.onView? config view = none := by
      simp only [command, onView?, read]
      rfl
    rw [refused, failed]
    exact ⟨rfl, shown⟩
  have taken : ran = _ := bind_ok opened _
  rw [taken]
  by_cases empty : data = []
  · subst empty
    have after : command.onView? config view = some view := by
      simp only [command, onView?, read]
      rfl
    rw [after]
    exact ⟨rfl, shown.holds, shown.sized, shown.host⟩
  have isEmpty : ¬ data.isEmpty = true := mt List.isEmpty_iff.mp empty
  have after : command.onView? config view =
      (Labels.written? config.payloadMax.toNat view.area offset data).bind fun area =>
        some (({ view with area } : LabelView).print
          [wroteLine config.name data.length offset]) := by
    simp only [command, onView?, read, Except.toOption, Option.bind_eq_bind, Option.bind_some]
    exact if_neg empty
  rw [after, if_neg isEmpty]
  by_cases small : data.length < UInt32.size
  · rw [if_neg (Nat.not_le.mpr small)]
    exact (LabelView.write_refines serves shown empty small offset).reported _
  · have unwritten : Labels.written? config.payloadMax.toNat view.area offset data = none := by
      refine if_neg fun fits => small ?_
      have sized := shown.sized
      exact Nat.lt_of_le_of_lt (by omega) config.labelAreaSize.toNat_lt
    rw [if_pos (Nat.le_of_not_lt small), unwritten]
    exact ⟨rfl, shown⟩

theorem zero_refines (now : UInt64) (offset length : UInt32) :
    let command := zero offset length
    let ran := command.perform config now world
    view.Ends config (command.onView? config view) ran.1.isOk ran.2 := by
  intro command ran
  have reported := (LabelView.zero_refines serves shown offset length).reported
    (zeroedLine config.name (Report.rangeLength config.info offset length) offset)
  have after : command.onView? config view = (Labels.range? view.area offset length).bind _ := rfl
  rw [after]
  rcases ranged : Labels.range? view.area offset length with _ | n
  · rw [ranged] at reported
    exact reported
  · obtain rfl := Labels.rangeLength_of_resolved
      ((Labels.resolveLength_eq_ok_iff_range? shown.sized).mpr ranged)
    rw [ranged] at reported
    exact reported

/-- **A command on the device does what it does on the view.** -/
theorem perform_refines (now : UInt64) (command : LabelCommand) :
    let ran := command.perform config now world
    view.Ends config (command.onView? config view) ran.1.isOk ran.2 := by
  cases command with
  | read output? offset length => exact read_refines serves shown now output? offset length
  | write input offset => exact write_refines serves shown now input offset
  | zero offset length => exact zero_refines serves shown now offset length

end LabelCommand

/-! ## Sequences of commands -/

namespace LabelCommand

/-- A sequence of commands does on the device what it does on the view. -/
theorem mapM_refines (serves : config.ServesLabels) (now : UInt64) (commands : List LabelCommand)
    {view : LabelView} {world : World Emulator} (shown : view.Shown config world) :
    let ran := commands.mapM (perform config now) world
    let seen := commands.mapM (onView config) view
    ran.1.map Except.isOk = seen.1 ∧ seen.2.Shown config ran.2 := by
  induction commands generalizing view world with
  | nil => exact ⟨rfl, shown⟩
  | cons command commands ih =>
      obtain ⟨outcome, kept⟩ := perform_refines serves shown now command
      obtain ⟨outcomes, kept⟩ := ih kept
      simp only [List.mapM_cons]
      exact ⟨(congrArg (· :: _) outcome).trans (congrArg (_ :: ·) outcomes), kept⟩

/-- What every command of a sequence keeps that succeeds, the sequence keeps. -/
theorem mapM_keeps {P : LabelView → Prop} {commands : List LabelCommand}
    (keeps : ∀ command ∈ commands, ∀ view after, P view →
      command.onView? config view = some after → P after) {view : LabelView} (holds : P view) :
    P (commands.mapM (onView config) view).2 := by
  induction commands generalizing view with
  | nil => exact holds
  | cons command commands ih =>
      obtain ⟨here, later⟩ := List.forall_mem_cons.mp keeps
      simp only [List.mapM_cons]
      have kept : P (command.onView config view).2 := by
        rcases made : command.onView? config view with _ | after
        · exact (congrArg (P <| Option.getD · view) made).mpr holds
        · exact (congrArg (P <| Option.getD · view) made).mpr (here view after holds made)
      exact ih later kept

/-- A read leaves the area as it is, and changes no file but the one that it writes. -/
theorem read_cases {view after : LabelView} {output? : Option String} {offset length : UInt32}
    (made : (read output? offset length).onView? config view = some after) :
    after.area = view.area ∧ (after.files = view.files ∨
      ∃ path data, view.files.write path data = .ok after.files) := by
  cases output? with
  | none =>
      obtain ⟨data, -, same⟩ := Option.bind_eq_some_iff.mp made
      obtain rfl := Option.some.inj same
      exact ⟨rfl, .inl rfl⟩
  | some path =>
      obtain ⟨data, -, rest⟩ := Option.bind_eq_some_iff.mp made
      obtain ⟨files, wrote, same⟩ := Option.bind_eq_some_iff.mp rest
      obtain rfl := Option.some.inj same
      exact ⟨rfl, .inr ⟨path, data, ok_of_toOption wrote⟩⟩

/-- In a tree where every node stands in a directory, every node goes on to. -/
theorem rooted_of_onView? {view after : LabelView} {command : LabelCommand}
    (rooted : view.files.Rooted) (made : command.onView? config view = some after) :
    after.files.Rooted := by
  cases command with
  | read output? offset length =>
      obtain ⟨-, same | ⟨path, data, wrote⟩⟩ := read_cases made
      · exact same ▸ rooted
      · exact FileTree.write_rooted rooted wrote
  | write input offset =>
      obtain ⟨data, -, rest⟩ := Option.bind_eq_some_iff.mp made
      split at rest
      · obtain rfl := Option.some.inj rest
        exact rooted
      · obtain ⟨area, -, same⟩ := Option.bind_eq_some_iff.mp rest
        obtain rfl := Option.some.inj same
        exact rooted
  | zero offset length =>
      obtain ⟨n, -, rest⟩ := Option.bind_eq_some_iff.mp made
      obtain ⟨area, -, same⟩ := Option.bind_eq_some_iff.mp rest
      obtain rfl := Option.some.inj same
      exact rooted

/-- A write of bytes that succeeds stores them. -/
theorem written_of_onView? {view after : LabelView} {input : String} {offset : UInt32}
    {data : Bytes} (given : view.files.read input = .ok data) (nonempty : data ≠ [])
    (made : (write input offset).onView? config view = some after) :
    Labels.written? config.payloadMax.toNat view.area offset data = some after.area := by
  simp only [onView?, given, Except.toOption, Option.bind_eq_bind, Option.bind_some,
    if_neg nonempty] at made
  obtain ⟨area, wrote, same⟩ := Option.bind_eq_some_iff.mp made
  obtain rfl := Option.some.inj same
  exact wrote

/-- A command that succeeds on the view succeeds on the device. -/
theorem perform_succeeds (serves : config.ServesLabels) {view after : LabelView}
    {world : World Emulator} (shown : view.Shown config world) (now : UInt64)
    {command : LabelCommand} (made : command.onView? config view = some after) :
    let ran := command.perform config now world
    ran.1 = .ok () ∧ after.Shown config ran.2 := by
  intro ran
  obtain ⟨outcome, kept⟩ : view.Ends config _ ran.1.isOk ran.2 :=
    perform_refines serves shown now command
  rw [made] at outcome kept
  rcases answer : ran.1 with e | _
  · rw [answer] at outcome
    cases outcome
  · exact ⟨rfl, kept⟩

/-- What a read of readable bytes delivers. -/
theorem read_delivers (serves : config.ServesLabels) {view : LabelView} {world : World Emulator}
    (shown : view.Shown config world) (now : UInt64) {offset length : UInt32} {data : Bytes}
    (readable : Labels.readable? config.payloadMax.toNat view.area offset length = some data) :
    let back (output? : Option String) := perform config now (read output? offset length) world
    ((back none).1 = .ok () ∧
      (back none).2.printed = world.printed ++ Text.printedLines (Text.dump data offset)) ∧
    ∀ path files, world.files.write path data = .ok files →
      (back (some path)).1 = .ok () ∧ (back (some path)).2.files = files := by
  intro back
  constructor
  · have made : (read none offset length).onView? config view =
        some (view.print (Text.dump data offset)) := by
      simp only [onView?, readable, Option.bind_eq_bind, Option.bind_some]
    obtain ⟨answer, kept⟩ := perform_succeeds serves shown now made
    exact ⟨answer, kept.host.2.trans (congrArg (· ++ _) shown.host.2.symm)⟩
  · intro path files wrote
    rw [shown.host.1] at wrote
    have made : (read (some path) offset length).onView? config view =
        some (({ view with files } : LabelView).print
          [readLine config.name data.length path]) := by
      simp only [onView?, readable, wrote, Except.toOption, Option.bind_eq_bind, Option.bind_some]
    obtain ⟨answer, kept⟩ := perform_succeeds serves shown now made
    exact ⟨answer, kept.host.1⟩

end LabelCommand

/-- A dump reads into a buffer as long as its range, and prints that buffer. -/
theorem LabelCommand.dump_apply (config : DeviceConfig) (now : UInt64) (offset length : UInt32)
    (world : World Emulator) :
    let buffer := Bytes.zeros (Report.rangeLength config.info offset length)
    let filled := Labels.read Emulator.backend config.info buffer offset length world
    let dumped := (read none offset length).perform config now world
    dumped.1 = filled.1.1.mapError .mailbox ∧ dumped.2.device = filled.2.device ∧
      (filled.1.1 = .ok () → dumped.2.printed =
        world.printed ++ Text.printedLines (Text.dump filled.1.2 offset)) := by
  intro buffer filled dumped
  obtain ⟨-, printed⟩ : filled.2.OnHost world.files world.printed :=
    (LabelCall.read buffer offset length).perform_onHost Emulator.backend config.info ⟨rfl, rfl⟩
  have asked := Report.ask_apply
    (Report.labelBytes Emulator.backend config.info offset length) world
  rw [Report.labelBytes_apply, show Labels.read _ _ _ _ _ _ = filled from rfl] at asked
  rcases ended : filled.1.1 with e | _ <;> simp only [ended] at asked
  · have refused : dumped = (.error (.mailbox e), filled.2) := bind_error asked _
    rw [refused]
    exact ⟨rfl, rfl, nofun⟩
  · have delivered : dumped = _ := (bind_ok asked _).trans (Text.print_lines _ filled.2)
    rw [delivered]
    exact ⟨rfl, rfl, fun _ => congrArg (· ++ _) printed⟩

/-- An empty file is not written. -/
theorem Report.writeLabels_empty {δ : Type} (backend : Backend δ) (info : DeviceInfo)
    {input : String} (offset : UInt32) (world : World δ)
    (empty : world.files.read input = .ok []) :
    Report.writeLabels backend info input offset world =
      (.ok (), world.logged .warn s!"{input}: nothing to write") := by
  have opened := Report.readFile_apply input world
  rw [empty] at opened
  exact bind_ok opened _

namespace LabelCommand

theorem rooted_of_mapM {view : LabelView} (rooted : view.files.Rooted)
    (commands : List LabelCommand) : (commands.mapM (onView config) view).2.files.Rooted :=
  mapM_keeps (P := (·.files.Rooted)) (fun _ _ _ _ => rooted_of_onView?) rooted

def isRead : LabelCommand → Bool
  | read .. => true
  | write .. | zero .. => false

/-- What was written stays readable while there are only reads. -/
theorem readable?_of_write {view after : LabelView} (small : view.area.length < UInt32.size)
    {input : String} {offset : UInt32} {data : Bytes} (given : view.files.read input = .ok data)
    (nonempty : data ≠ []) (made : (write input offset).onView? config view = some after)
    {reads : List LabelCommand} (onlyReads : ∀ command ∈ reads, command.isRead) :
    Labels.readable? config.payloadMax.toNat (reads.mapM (onView config) after).2.area offset
      (UInt32.ofNat data.length) = some data := by
  have same : (reads.mapM (onView config) after).2.area = after.area := by
    refine mapM_keeps (P := fun view => view.area = after.area) ?_ rfl
    intro command among view next same made
    cases command with
    | read output? offset length => exact (read_cases made).1.trans same
    | write input offset | zero offset length => cases onlyReads _ among
  rw [same]
  exact Labels.readable?_of_written? small nonempty (written_of_onView? given nonempty made)

/-- **The label commands report and store exactly the range that they touch.**  Whatever commands
are carried out on a device that was switched on, each does what it does on a view.  Their own rule
for the length of a range gives a buffer that is as long as the range; an empty file is not written;
and what was written is read back, by a dump and by a file. -/
theorem label_commands_exact {configs : List DeviceConfig} {config : DeviceConfig}
    (standard : config.catalog = standardCatalog)
    (first : configs.find? (fun other => other.id == config.id) = some config)
    {world : World Emulator} (started : world.device.devices = configs.map .powerOn)
    (now : UInt64) (commands : List LabelCommand) :
    let ran := commands.mapM (perform config now) world
    let seen := commands.mapM (onView config) (.initial config world)
    (ran.1.map Except.isOk = seen.1 ∧ seen.2.Shown config ran.2) ∧
    (∀ offset length,
      (∀ n, Labels.resolveLength config.info offset length = .ok n →
        Report.rangeLength config.info offset length = n) ∧
      let buffer := Bytes.zeros (Report.rangeLength config.info offset length)
      let filled := Labels.read Emulator.backend config.info buffer offset length ran.2
      let dumped := (read none offset length).perform config now ran.2
      dumped.1 = filled.1.1.mapError .mailbox ∧ dumped.2.device = filled.2.device ∧
        (filled.1.1 = .ok () → dumped.2.printed =
          ran.2.printed ++ Text.printedLines (Text.dump filled.1.2 offset))) ∧
    (∀ input offset, seen.2.files.read input = .ok [] →
      let recorded := Report.writeLabels Emulator.backend.recorded config.info input offset
      recorded.exchanges ran.2 = [] ∧ (write input offset).perform config now ran.2 =
        (.ok (), ran.2.logged .warn s!"{input}: nothing to write")) ∧
    ∀ input offset data, data ≠ [] → seen.2.files.read input = .ok data →
      let wrote := (write input offset).perform config now ran.2
      wrote.1 = .ok () → ∀ reads : List LabelCommand, (∀ command ∈ reads, command.isRead) →
        let later := (reads.mapM (perform config now) wrote.2).2
        let back (output? : Option String) :=
          (read output? offset (UInt32.ofNat data.length)).perform config now later
        ((back none).1 = .ok () ∧
          (back none).2.printed = later.printed ++ Text.printedLines (Text.dump data offset)) ∧
        ∀ path files, later.files.write path data = .ok files →
          (back (some path)).1 = .ok () ∧ (back (some path)).2.files = files ∧
            (world.files.Rooted →
              (∀ major minor, later.files.lookup path ≠ .ok (.device major minor)) →
              files.read path = .ok data) := by
  intro ran seen
  have serves := DeviceConfig.ServesLabels.of_standard standard
  obtain ⟨outcomes, shown⟩ : ran.1.map Except.isOk = seen.1 ∧ seen.2.Shown config ran.2 :=
    mapM_refines serves now commands (LabelView.initial_shown first started)
  refine ⟨⟨outcomes, shown⟩, ?_, ?_, ?_⟩
  · intro offset length
    exact ⟨fun n => Labels.rangeLength_of_resolved, dump_apply _ _ _ _ _⟩
  · intro input offset empty
    rw [← shown.host.1] at empty
    refine ⟨?_, Report.writeLabels_empty Emulator.backend config.info offset ran.2 empty⟩
    have silent := Report.writeLabels_empty Emulator.backend.recorded config.info offset
      ran.2.recording empty
    exact congrArg (·.2.device.exchanges) silent
  · intro input offset data nonempty given wrote succeeded reads onlyReads later back
    obtain ⟨outcome, kept⟩ : seen.2.Ends config _ wrote.1.isOk wrote.2 :=
      perform_refines serves shown now (write input offset)
    rw [succeeded] at outcome
    obtain ⟨after, made⟩ := Option.isSome_iff_exists.mp outcome.symm
    rw [made, Option.getD_some] at kept
    let view := (reads.mapM (onView config) after).2
    obtain ⟨-, shown'⟩ : _ ∧ view.Shown config later := mapM_refines serves now reads kept
    have small : seen.2.area.length < UInt32.size := shown.sized ▸ config.labelAreaSize.toNat_lt
    have readable := readable?_of_write small given nonempty made onlyReads
    obtain ⟨dumped, delivered⟩ := read_delivers serves shown' now readable
    refine ⟨dumped, fun path files written => ?_⟩
    obtain ⟨answer, left⟩ := delivered path files written
    refine ⟨answer, left, fun rooted regular => ?_⟩
    have rooted' : view.files.Rooted :=
      rooted_of_mapM (rooted_of_onView? (rooted_of_mapM rooted commands) made) reads
    rw [shown'.host.1] at written regular
    exact FileTree.read_write rooted' written regular

/-! ### A history with every kind of end -/

/-- A standard device with four label bytes and payloads of twelve. -/
def smallDevice : DeviceConfig := { payloadMax := 12, labelAreaSize := 4 }

/-- The device with a file of three bytes on the host. -/
def smallWorld : World Emulator where
  device := .ofConfigs [smallDevice]
  files := FileTree.empty.put (.ofPath "in") (.file [1, 2, 3])

/-- A file that is written, a range that is zeroed to the end, a dump and a read into a file; then a
range and a file that are not there. -/
def smallHistory : List LabelCommand :=
  [write "in" 1, zero 3 0, read none 0 0, read (some "out") 1 2, read (some "out") 4 0,
    write "gone" 0]

theorem small_history_exact :
    let ran := smallHistory.mapM (perform smallDevice 0) smallWorld
    let wrote := (write "in" 1).perform smallDevice 0 smallWorld
    let back := (read none 1 3).perform smallDevice 0 wrote.2
    (ran.1.map Except.isOk = [true, true, true, true, false, false] ∧
      ran.2.device.Holds smallDevice [0, 1, 2, 0] ∧ ran.2.files.read "out" = .ok [1, 2] ∧
      ran.2.printed = "mem0: wrote 3 label bytes at offset 0x1\n" ++
        "mem0: zeroed 1 label bytes at offset 0x3\n00000000: 00 01 02 00\n" ++
        "mem0: read 2 label bytes to out\n") ∧
    back.1 = .ok () ∧ back.2.printed = wrote.2.printed ++ "00000001: 01 02 03\n" := by
  intro ran wrote back
  let seen := smallHistory.mapM (onView smallDevice) (.initial smallDevice smallWorld)
  obtain ⟨outcomes, shown⟩ : ran.1.map Except.isOk = seen.1 ∧ seen.2.Shown smallDevice ran.2 :=
    (label_commands_exact rfl rfl rfl 0 smallHistory).1
  have area : seen.2.area = [0, 1, 2, 0] := by decide +kernel
  have succeeded : wrote.1 = .ok () := by
    have stores : ((write "in" 1).onView? smallDevice (.initial smallDevice smallWorld)).isSome :=
      by decide +kernel
    obtain ⟨after, made⟩ := Option.isSome_iff_exists.mp stores
    exact (perform_succeeds (.of_standard rfl) (LabelView.initial_shown rfl rfl) 0 made).1
  have given : smallWorld.files.read "in" = .ok [1, 2, 3] := by decide +kernel
  have readBack := (@label_commands_exact _ smallDevice rfl rfl smallWorld rfl 0 []).2.2.2
  have dumped : back.1 = .ok () ∧
      back.2.printed = wrote.2.printed ++ Text.printedLines (Text.dump [1, 2, 3] 1) :=
    (readBack "in" 1 [1, 2, 3] (by decide) given succeeded [] nofun).1
  refine ⟨⟨outcomes.trans (by decide +kernel), ?_, ?_, ?_⟩, dumped.1, ?_⟩
  · exact area ▸ shown.holds
  · rw [shown.host.1]
    decide +kernel
  · rw [shown.host.2]
    decide +kernel
  · exact dumped.2.trans (congrArg (wrote.2.printed ++ ·) (by decide +kernel))

end LabelCommand

end CommandLine

end CxlMailbox
