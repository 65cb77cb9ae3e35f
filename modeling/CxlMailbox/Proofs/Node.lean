/-
# CxlMailbox.Proofs.Node — a node that is not the recorded device

Both backends compare a node with the record before they do anything for it.

* The emulator compares the numbers of the device's node (`Emulator.refuses_moved`).
* The host opens the node and compares what it finds (`Sysfs.guarding_refuses`).  `Sysfs.guarding`
  asks anything at all behind that comparison, and `Sysfs.backend_eq_guarding` says that the host
  with a driver asks the driver there.
* What a driver writes into the words of a query arrives as entries (`Sysfs.Driver.query_conveys`).

`replaced_node_untouched`: over both, nothing is done for a node that is not the recorded device,
and nobody behind it is asked.
-/
import CxlMailbox.Proofs.Refusal
import CxlMailbox.Sysfs

namespace CxlMailbox

set_option autoImplicit false

variable {δ : Type}

/-! ## Emulated devices -/

/-- The emulator refuses every request to a device whose node was replaced. -/
theorem Emulator.refuses_moved {e : Emulator} {info : DeviceInfo} {d : EmulatedDevice}
    (found : e.device? info.id = some d) (moved : ¬ d.HasNode info) (files : FileTree) :
    backend.Refuses info (.deviceNodeInvalid info.nodePath) files e where
  query buffer := query_refused found moved files buffer
  send request := send_refused found moved files request

/-! ## The host -/

namespace Sysfs

/-- The host with anything at all behind its nodes, which is asked about a node once that was opened
and compared with the record. -/
def guarding (roots : SysfsRoots) (behind : Backend δ) : Backend δ where
  discover files d :=
    let search := discover roots files
    { found := search.found, device := d, log := search.log }
  query files info buffer d :=
    match openNode files info with
    | .error refusal => { verdict := .error refusal.1, device := d, log := refusal.2 }
    | .ok () => behind.query files info buffer d
  send files info request d :=
    match openNode files info with
    | .error refusal => { verdict := .error refusal.1, device := d, log := refusal.2 }
    | .ok () => behind.send files info request d

/-- A driver, as the backend that puts every request into its words. -/
def Driver.backend (driver : Driver δ) : Backend δ where
  discover _ d := { found := [], device := d }
  query _ := driver.query
  send _ := driver.send

theorem backend_eq_guarding (roots : SysfsRoots) (driver : Driver δ) :
    backend roots driver = guarding roots driver.backend := rfl

/-- How a node is refused that is not the recorded device: one that cannot be opened, by the
transport, and every other as invalid. -/
inductive NodeRefusal (files : FileTree) (info : DeviceInfo) : Error → Prop
  | unreachable {fault : FileFault} : files.lookup info.nodePath = .error fault →
      NodeRefusal files info (.transport info.nodePath fault.message)
  | directory : files.lookup info.nodePath = .ok .directory →
      NodeRefusal files info (.transport info.nodePath FileFault.isDirectory.message)
  | foreign {node : Node} : files.lookup info.nodePath = .ok node → node ≠ .directory →
      node ≠ .device info.major info.minor →
      NodeRefusal files info (.deviceNodeInvalid info.nodePath)

/-- Every node but the recorded device is refused when it is opened. -/
theorem openNode_refused {files : FileTree} {info : DeviceInfo}
    (other : files.lookup info.nodePath ≠ .ok (.device info.major info.minor)) :
    ∃ e log, openNode files info = .error (e, log) ∧ NodeRefusal files info e := by
  rcases found : files.lookup info.nodePath with fault | node
  · exact ⟨_, [], by simp only [openNode, found], .unreachable found⟩
  · cases node with
    | directory => exact ⟨_, [], by simp only [openNode, found], .directory found⟩
    | device major minor =>
        have different : ¬ (major = info.major ∧ minor = info.minor) := by
          rintro ⟨rfl, rfl⟩
          exact other found
        refine ⟨_, [mismatchLine info true major minor],
          by simp only [openNode, found, different, if_false], .foreign found nofun ?_⟩
        rintro ⟨rfl, rfl⟩
        exact different ⟨rfl, rfl⟩
    | file content | dangling =>
        exact ⟨_, [mismatchLine info false 0 0], by simp only [openNode, found],
          .foreign found nofun nofun⟩

/-- So the host refuses every request about it, whatever is behind the node. -/
theorem guarding_refuses (roots : SysfsRoots) (behind : Backend δ) {files : FileTree}
    {info : DeviceInfo}
    (other : files.lookup info.nodePath ≠ .ok (.device info.major info.minor)) :
    ∃ e, NodeRefusal files info e ∧ ∀ d, (guarding roots behind).Refuses info e files d := by
  obtain ⟨e, log, refused, why⟩ := openNode_refused other
  refine ⟨e, why, fun d => ⟨fun buffer => ⟨log, ?_⟩, fun request => ⟨log, ?_⟩⟩⟩
  · simp only [guarding, refused]
  · simp only [guarding, refused]

/-! ### What a driver writes -/

/-- An entry in the words of a query. -/
def wordsOf (entry : CatalogEntry) : List UInt32 :=
  [entry.id, entry.flags, entry.sizeIn.toUInt32, entry.sizeOut.toUInt32]

theorem length_flatMap_wordsOf (entries : List CatalogEntry) :
    (entries.flatMap wordsOf).length = entries.length * entryWords := by
  simp [List.length_flatMap, List.map_const', wordsOf, entryWords]

theorem entriesOf_flatMap (entries : List CatalogEntry) (rest : List UInt32) :
    entriesOf (entries.flatMap wordsOf ++ rest) = entries ++ entriesOf rest := by
  induction entries with
  | nil => rfl
  | cons entry entries ih =>
      rw [List.flatMap_cons, List.append_assoc]
      exact congrArg (entry :: ·) ih

theorem entriesOf_zeros (n : Nat) :
    entriesOf (List.replicate (n * entryWords) 0) = List.replicate n default := by
  induction n with
  | zero => simp [entriesOf]
  | succ n ih =>
      rw [entryWords, Nat.succ_mul]
      exact congrArg (default :: ·) ih

/-- A driver that answers a query with a count and entries is understood: the entries lie over the
first of the slots that were asked for, and the others of these are cleared. -/
theorem Driver.query_conveys {driver : Driver δ} {info : DeviceInfo} {buffer : QueryBuffer}
    {d d' : δ} {count : UInt32} {entries : List CatalogEntry}
    (fits : entries.length ≤ buffer.requested)
    (answered : driver.queryCommands info.major info.minor (queryWords buffer) d =
      (.ok (count :: 0 :: entries.flatMap wordsOf), d')) :
    let reply := driver.query info buffer d
    reply.verdict = .ok count ∧ reply.device = d' ∧
      reply.written = overlay entries (List.replicate buffer.requested default) := by
  have inside : (entries.flatMap wordsOf).length ≤ buffer.requested * entryWords := by
    rw [length_flatMap_wordsOf]
    exact Nat.mul_le_mul_right _ fits
  have words : overlay (count :: 0 :: entries.flatMap wordsOf) (queryWords buffer) =
      count :: 0 :: (entries.flatMap wordsOf ++
        List.replicate ((buffer.requested - entries.length) * entryWords) 0) := by
    rw [Nat.sub_mul, ← length_flatMap_wordsOf, ← overlay_replicate inside]
    rfl
  simp only [Driver.query, answered, words]
  refine ⟨rfl, trivial, ?_⟩
  change entriesOf (entries.flatMap wordsOf ++ _) = _
  rw [entriesOf_flatMap, entriesOf_zeros, overlay_replicate fits]

end Sysfs

/-- **A node that is not the recorded device is never touched.**  Over the emulator, in every state
in which the device's node has other numbers, and over the host with anything behind its nodes, a
driver among it, for all files among which the path does not lead to the recorded device: whatever
is done about the device ends without a request, or with the refusal of its first request, and
changes nothing. -/
theorem replaced_node_untouched :
    (∀ (world : World Emulator) (info : DeviceInfo) (d : EmulatedDevice),
      world.device.device? info.id = some d → ¬ d.HasNode info →
      Emulator.backend.Untouched info (.deviceNodeInvalid info.nodePath) world) ∧
    (∀ (δ : Type) (behind : Backend δ) (roots : SysfsRoots) (world : World δ) (info : DeviceInfo),
      world.files.lookup info.nodePath ≠ .ok (.device info.major info.minor) →
      ∃ e, Sysfs.NodeRefusal world.files info e ∧
        (Sysfs.guarding roots behind).Untouched info e world) ∧
    ∀ (δ : Type) (driver : Sysfs.Driver δ) (roots : SysfsRoots),
      Sysfs.backend roots driver = Sysfs.guarding roots driver.backend := by
  refine ⟨fun world info d found moved => ?_, fun δ behind roots world info other => ?_,
    fun δ driver roots => Sysfs.backend_eq_guarding roots driver⟩
  · exact (Emulator.refuses_moved found moved world.files).untouched
  · obtain ⟨e, why, refuses⟩ := Sysfs.guarding_refuses roots behind other
    exact ⟨e, why, (refuses world.device).untouched⟩

/-! ## A replaced node -/

/-- A standard device after its node was replaced. -/
def World.replaced : World Emulator :=
  { device := (Emulator.ofConfigs [{}]).replaceNode 0 }

/-- A label read from the replaced device leaves the two bytes of the caller's buffer, a log of
which two bytes are still to come ends there, and a send over a host whose path leads nowhere
fails. -/
theorem replaced_node_untouched_powerOn :
    let info := DeviceConfig.info {}
    ((LabelCall.read [7, 7] 0 2).perform Emulator.backend info .replaced).1.2 = [7, 7] ∧
      (∃ log, Inquiry.readPieces Emulator.backend info .effectsLog 48 2 .replaced =
        (.error (.deviceNodeInvalid info.nodePath), { World.replaced with log })) ∧
      ∃ e log, (Sysfs.guarding {} Script.backend).runSend {} (.ofBuffers 1 0 [] [9])
        { device := {} } = ((.error e, [9]), { device := {}, log }) := by
  intro info
  have nowhere : FileTree.empty.lookup "" = .error .notFound := rfl
  have untouched := replaced_node_untouched.1 .replaced info _ rfl (by decide)
  obtain ⟨e, -, host⟩ := replaced_node_untouched.2.1 Script Script.backend {} { device := {} } {}
    (by rw [show FileTree.lookup _ _ = _ from nowhere]; nofun)
  obtain ⟨log, sent⟩ := host.output (.ofBuffers 1 0 [] [9])
  refine ⟨untouched.lent _, ?_, e, log, sent⟩
  exact (untouched.rest .effectsLog 48 2 (by decide)).answer

end CxlMailbox
