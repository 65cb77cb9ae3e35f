/-
# CxlMailbox.Proofs.Discovery — which devices of the host are found

Discovery lists a directory, keeps the names of devices (`Numbered`), sorts them by number and name
(`rank`) and reads each device.  What it finds is in strict order (`ascending_found`), so its
members decide it: two searches that find the same devices find them in one order
(`eq_of_ascending`).

* `mem_found_iff`: a device is found if its name is listed and it can be read, which takes
  something of each kind to read (`probe_eq_ok_iff`);
* `probe_congr`: reading a device depends on the places that a few paths pass, no others;
* `DiffersIn.found_eq`: what is changed in some entries of the directory and their nodes leaves the
  other devices found as they were.  An entry is apart from the others since it is the first
  component behind the directory (`DiffersIn.below`).

`discovery_exact` puts this together, with the list that a registry keeps of what is found: of each
number the record with the least name, since that is the first (`first_iff_of_ascending`).
-/
import CxlMailbox.Proofs.Files
import CxlMailbox.Proofs.Registry
import CxlMailbox.Proofs.Text.Notation
import CxlMailbox.Sysfs
import Mathlib

namespace CxlMailbox

set_option autoImplicit false

namespace Sysfs

variable {roots : SysfsRoots} {files files' : FileTree} {name : String} {id : UInt32}
  {info : DeviceInfo}

/-! ## Names -/

/-- The name is `mem` and decimal digits of that value. -/
def Numbered (name : String) (id : UInt32) : Prop :=
  ∃ digits, name.toList = "mem".toList ++ digits ∧ Text.IsNumber 10 digits id.toNat

theorem isDigit_of_decimal {c : Char} {value : Nat} (digit : Text.IsDigit 10 c value) :
    c.isDigit := by
  obtain ⟨small, code⟩ :=
    Text.digitValue?_eq_some_iff_code.mp (Text.digitValue?_eq_some_iff.mpr digit)
  have low : 48 ≤ c.toNat := by omega
  have high : c.toNat ≤ 57 := by omega
  exact Bool.and_eq_true_iff.mpr ⟨decide_eq_true low, decide_eq_true high⟩

theorem all_isDigit {digits : List Char} {value : Nat} (number : Text.IsNumber 10 digits value) :
    digits.all Char.isDigit := by
  obtain ⟨-, values, known, -⟩ := number
  induction known with
  | nil => rfl
  | cons digit _ ih =>
      rw [List.all_cons, isDigit_of_decimal digit, ih]
      rfl

/-- A sign is no digit. -/
theorem isNumeral_iff_isNumber {digits : List Char} {value : Nat}
    (all : digits.all Char.isDigit) :
    Text.IsNumeral 10 digits value ↔ Text.IsNumber 10 digits value := by
  constructor
  · rintro ⟨digits', rfl | rfl, number⟩
    · exact number
    · rw [List.all_cons] at all
      cases all
  · exact Text.IsNumber.isNumeral

theorem deviceNumber?_eq_some_iff : deviceNumber? name = some id ↔ Numbered name id := by
  have numeral {digits : List Char} :
      (Text.readNumeral 10 UInt32.size digits).toOption.map UInt32.ofNat = some id ↔
        Text.IsNumeral 10 digits id.toNat := by
    rw [Option.map_eq_some_iff]
    constructor
    · rintro ⟨n, read, rfl⟩
      obtain ⟨small, spelled⟩ :=
        (Text.toOption_readNumeral_eq_some_iff (by decide) (by decide)).mp read
      rwa [UInt32.toNat_ofNat_of_lt' small]
    · intro spelled
      exact ⟨id.toNat, (Text.toOption_readNumeral_eq_some_iff (by decide) (by decide)).mpr
        ⟨id.toNat_lt, spelled⟩, UInt32.ofNat_toNat⟩
  unfold deviceNumber?
  split
  case h_1 digits same =>
    have behind : Numbered name id ↔ Text.IsNumber 10 digits id.toNat := by
      constructor
      · rintro ⟨digits', spelled, number⟩
        obtain rfl : digits = digits' := by simpa [same] using spelled
        exact number
      · exact fun number => ⟨digits, same, number⟩
    rw [behind]
    split_ifs with other
    · refine iff_of_false nofun fun number => ?_
      rcases Bool.or_eq_true_iff.mp other with none_ | letter
      · exact number.1 (List.isEmpty_iff.mp none_)
      · rw [all_isDigit number] at letter
        cases letter
    · simp only [Bool.or_eq_true, Bool.not_eq_true', not_or, Bool.not_eq_false] at other
      rw [numeral, isNumeral_iff_isNumber other.2]
  case h_2 other =>
    refine iff_of_false nofun ?_
    rintro ⟨digits, spelled, -⟩
    exact other digits spelled

theorem Numbered.unique {id' : UInt32} (numbered : Numbered name id)
    (numbered' : Numbered name id') : id = id' := by
  rw [← deviceNumber?_eq_some_iff] at numbered numbered'
  exact Option.some.inj (numbered.symm.trans numbered')

/-- The name of a device is one component of a path. -/
theorem Numbered.plain (numbered : Numbered name id) : Path.Plain name := by
  obtain ⟨digits, spelled, number⟩ := numbered
  have others (other : String) (short : other.toList.head? ≠ some 'm') : name ≠ other := by
    rintro rfl
    exact short (by rw [spelled]; rfl)
  refine ⟨others _ (by decide), ?_, others _ (by decide), others _ (by decide)⟩
  rw [spelled, List.mem_append]
  rintro (mem | digit)
  · exact absurd mem (by decide)
  · exact absurd (List.all_eq_true.mp (all_isDigit number) _ digit) (by decide)

/-! ## Order -/

/-- Number and name, compared in this order. -/
def rank (id : UInt32) (name : String) : Nat ×ₗ String := toLex (id.toNat, name)

theorem rank_injective {id' : UInt32} {name' : String} (same : rank id name = rank id' name') :
    id = id' ∧ name = name' := by
  obtain ⟨number, name⟩ := Prod.mk.inj (toLex_inj.mp same)
  exact ⟨UInt32.toNat_inj.mp number, name⟩

theorem inOrder_iff {a b : UInt32 × String} : inOrder a b ↔ rank a.1 a.2 ≤ rank b.1 b.2 := by
  rw [rank, rank, Prod.Lex.toLex_le_toLex, le_iff_lt_or_eq, UInt32.toNat_inj,
    ← UInt32.lt_iff_toNat_lt]
  simp only [inOrder, Bool.or_eq_true, Bool.and_eq_true, decide_eq_true_eq, beq_iff_eq]

/-- The names of devices with their numbers, in order. -/
def ranked (names : List String) : List (UInt32 × String) :=
  (names.filterMap fun name => (deviceNumber? name).map fun id => (id, name)).mergeSort inOrder

theorem mem_ranked {names : List String} :
    (id, name) ∈ ranked names ↔ name ∈ names ∧ Numbered name id := by
  simp only [ranked, List.mem_mergeSort, List.mem_filterMap, Option.map_eq_some_iff,
    Prod.mk.injEq, deviceNumber?_eq_some_iff]
  constructor
  · rintro ⟨_, listed, _, numbered, rfl, rfl⟩
    exact ⟨listed, numbered⟩
  · exact fun ⟨listed, numbered⟩ => ⟨name, listed, id, numbered, rfl, rfl⟩

/-- Of names without repetition none has the rank of another. -/
theorem ascending_ranked {names : List String} (distinct : names.Nodup) :
    (ranked names).Pairwise fun a b => rank a.1 a.2 < rank b.1 b.2 := by
  have sorted : (ranked names).Pairwise fun a b => inOrder a b :=
    List.pairwise_mergeSort
      (fun a b c first second => by
        rw [inOrder_iff] at first second ⊢
        exact first.trans second)
      (fun a b => by
        rw [Bool.or_eq_true, inOrder_iff, inOrder_iff]
        exact le_total _ _) _
  have different : (ranked names).Nodup := by
    refine (List.mergeSort_perm _ _).nodup_iff.mpr (List.Nodup.filterMap ?_ distinct)
    simp only [Option.mem_def, Option.map_eq_some_iff]
    rintro a b _ ⟨id, -, rfl⟩ ⟨id', -, same⟩
    exact (Prod.mk.inj same).2.symm
  refine sorted.imp₂ (fun a b inOrder different => ?_) different
  refine lt_of_le_of_ne (inOrder_iff.mp inOrder) fun same => different ?_
  exact Prod.ext (rank_injective same).1 (rank_injective same).2

/-! ## Reading a device -/

theorem nodeNumbers_eq_ok_iff {path : String} {numbers : UInt64 × UInt64} :
    nodeNumbers files path = .ok numbers ↔
      files.lookup path = .ok (.device numbers.1 numbers.2) := by
  unfold nodeNumbers
  split <;> simp_all [Prod.ext_iff]

/-- The record has what is read under a name: the number in the name, what node it has, and each
attribute in its directory. -/
structure Recorded (roots : SysfsRoots) (files : FileTree) (name : String) (info : DeviceInfo) :
    Prop where
  numbered : Numbered name info.id
  named : info.name = name
  attributePath : info.attributePath = joinPath roots.attributes name
  nodePath : info.nodePath = joinPath roots.nodes name
  directory : files.isDirectory info.attributePath
  node : files.lookup info.nodePath = .ok (.device info.major info.minor)
  persistentSize : readNumber files info.attributePath "pmem/size" = .ok info.persistentSize
  volatileSize : readNumber files info.attributePath "ram/size" = .ok info.volatileSize
  payloadMax : readSmallNumber files info.attributePath "payload_max" = .ok info.payloadMax
  labelAreaSize :
    readSmallNumber files info.attributePath "label_storage_size" = .ok info.labelAreaSize
  firmwareVersion : readText files info.attributePath "firmware_version" = .ok info.firmwareVersion

theorem Recorded.of_probe (read : probe roots files name = .ok info) :
    Recorded roots files name info := by
  rcases number : deviceNumber? name with _ | id
  · rw [probe, number] at read
    cases read
  · rw [probe, number] at read
    by_cases directory : files.isDirectory (joinPath roots.attributes name)
    · simp only [directory, Bool.not_true, Bool.false_eq_true, if_false] at read
      obtain ⟨numbers, node, read⟩ := Effect.except_bind_eq_ok_iff.mp read
      obtain ⟨_, persistentSize, read⟩ := Effect.except_bind_eq_ok_iff.mp read
      obtain ⟨_, volatileSize, read⟩ := Effect.except_bind_eq_ok_iff.mp read
      obtain ⟨_, payloadMax, read⟩ := Effect.except_bind_eq_ok_iff.mp read
      obtain ⟨_, labelAreaSize, read⟩ := Effect.except_bind_eq_ok_iff.mp read
      obtain ⟨_, firmwareVersion, read⟩ := Effect.except_bind_eq_ok_iff.mp read
      obtain rfl := Except.ok.inj read
      exact ⟨deviceNumber?_eq_some_iff.mp number, rfl, rfl, rfl, directory,
        nodeNumbers_eq_ok_iff.mp node, persistentSize, volatileSize, payloadMax, labelAreaSize,
        firmwareVersion⟩
    · simp only [directory, Bool.not_false, if_true] at read
      cases read

/-- A device can be read exactly if there is something to read of each kind. -/
theorem probe_eq_ok_iff :
    probe roots files name = .ok info ↔ Recorded roots files name info := by
  refine ⟨.of_probe, fun recorded => ?_⟩
  obtain rfl := recorded.named
  have number := deviceNumber?_eq_some_iff.mpr recorded.numbered
  have numbers : nodeNumbers files info.nodePath = .ok (info.major, info.minor) :=
    nodeNumbers_eq_ok_iff.mpr recorded.node
  simp only [probe, number, ← recorded.attributePath, ← recorded.nodePath, recorded.directory,
    Bool.not_true, Bool.false_eq_true, if_false, numbers, recorded.persistentSize,
    recorded.volatileSize, recorded.payloadMax, recorded.labelAreaSize, recorded.firmwareVersion]
  rfl

/-- The names of the attributes. -/
def leaves : List String :=
  ["pmem/size", "ram/size", "payload_max", "label_storage_size", "firmware_version"]

/-- The paths that are looked up for a device. -/
def probed (roots : SysfsRoots) (name : String) : List String :=
  let dir := joinPath roots.attributes name
  dir :: joinPath roots.nodes name :: leaves.map (joinPath dir)

theorem probe_congr (same : ∀ path ∈ probed roots name, files.Alike files' path) :
    probe roots files' name = probe roots files name := by
  simp only [probed, leaves, List.map_cons, List.map_nil, List.forall_mem_cons] at same
  obtain ⟨dir, node, persistent, volatile, payload, labels, firmware, -⟩ := same
  simp only [probe, nodeNumbers, readNumber, readSmallNumber, readText,
    FileTree.isDirectory_congr dir, FileTree.lookup_congr node,
    FileTree.readText_congr persistent, FileTree.readText_congr volatile,
    FileTree.readText_congr payload, FileTree.readText_congr labels,
    FileTree.readText_congr firmware]

/-! ## What is found -/

/-- The devices among some names that can be read. -/
def readAll (roots : SysfsRoots) (files : FileTree) (names : List String) : List DeviceInfo :=
  (deviceNames names).filterMap fun name => (probe roots files name).toOption

/-- Each record has a lesser rank than those behind it. -/
def Ascending (found : List DeviceInfo) : Prop :=
  found.Pairwise fun a b => rank a.id a.name < rank b.id b.name

/-- The members of a list in order determine it. -/
theorem eq_of_ascending {found found' : List DeviceInfo} (ascending : Ascending found)
    (ascending' : Ascending found') (same : ∀ info, info ∈ found ↔ info ∈ found') :
    found = found' := by
  have antisymm : Std.Antisymm fun a b : DeviceInfo => rank a.id a.name < rank b.id b.name :=
    ⟨fun _ _ less greater => absurd less greater.asymm⟩
  have irrefl : Std.Irrefl fun a b : DeviceInfo => rank a.id a.name < rank b.id b.name :=
    ⟨fun _ => lt_irrefl _⟩
  exact ascending.eq_of_mem_iff ascending' same

theorem toOption_probe_iff :
    (probe roots files name).toOption = some info ↔ Recorded roots files name info := by
  rw [← probe_eq_ok_iff]
  rcases probe roots files name with _ | _ <;> simp [Except.toOption]

theorem mem_readAll {names : List String} :
    info ∈ readAll roots files names ↔
      info.name ∈ names ∧ Recorded roots files info.name info := by
  simp only [readAll, List.mem_filterMap, toOption_probe_iff]
  constructor
  · rintro ⟨name, ordered, recorded⟩
    obtain rfl := recorded.named
    obtain ⟨⟨id, _⟩, entry, rfl⟩ := List.mem_map.mp ordered
    exact ⟨(mem_ranked.mp entry).1, recorded⟩
  · rintro ⟨listed, recorded⟩
    have entry := mem_ranked.mpr ⟨listed, recorded.numbered⟩
    exact ⟨info.name, List.mem_map.mpr ⟨_, entry, rfl⟩, recorded⟩

theorem ascending_readAll {names : List String} (distinct : names.Nodup) :
    Ascending (readAll roots files names) := by
  have ordered : readAll roots files names =
      (ranked names).filterMap fun entry => (probe roots files entry.2).toOption :=
    List.filterMap_map
  rw [ordered, Ascending, List.pairwise_filterMap]
  refine (ascending_ranked distinct).imp_of_mem ?_
  rintro ⟨id, name⟩ ⟨id', name'⟩ entry entry' less info read info' read'
  rw [toOption_probe_iff] at read read'
  rwa [read.named, read'.named, read.numbered.unique (mem_ranked.mp entry).2,
    read'.numbered.unique (mem_ranked.mp entry').2]

/-- In whatever order the names come, the same devices are found in the same order. -/
theorem readAll_perm {names names' : List String} (distinct : names.Nodup)
    (reordered : names'.Perm names) : readAll roots files names' = readAll roots files names :=
  eq_of_ascending (ascending_readAll (reordered.nodup_iff.mpr distinct))
    (ascending_readAll distinct) fun info => by
      rw [mem_readAll, mem_readAll, reordered.mem_iff]

/-- The directory of attributes can be listed and has an entry of that name. -/
def Listed (roots : SysfsRoots) (files : FileTree) (name : String) : Prop :=
  ∃ names, files.list roots.attributes = .ok names ∧ name ∈ names

/-- The name of a device is listed exactly if something is at its place. -/
theorem listed_iff_entry (numbered : Numbered name id) : Listed roots files name ↔
    files.lookup roots.attributes = .ok .directory ∧
      files.at? ((Place.ofPath roots.attributes).child name) ≠ none := by
  have apart : ¬ ((Place.ofPath roots.attributes).child name).within .workingDirectory := by
    intro inside
    have among := (Place.within_iff.mp inside).subset List.mem_concat_self
    have named : name = "tmp" ∨ name = "" := by
      simpa [Place.workingDirectory] using among
    have number := deviceNumber?_eq_some_iff.mpr numbered
    rcases named with rfl | rfl <;> cases number
  simp only [Listed, FileTree.list_eq_ok_iff, and_assoc, exists_and_left, exists_eq_left,
    FileTree.mem_namesIn apart]

theorem found_of_listed {names : List String} (listed : files.list roots.attributes = .ok names) :
    (discover roots files).found = readAll roots files names := by
  rw [discover, listed]
  rfl

theorem found_of_refused {fault : FileFault}
    (refused : files.list roots.attributes = .error fault) :
    (discover roots files).found = [] := by
  rw [discover, refused]

/-- A device is found exactly if the directory has its name and it can be read. -/
theorem mem_found_iff : info ∈ (discover roots files).found ↔
    Listed roots files info.name ∧ Recorded roots files info.name info := by
  rw [Listed]
  rcases listed : files.list roots.attributes with fault | names
  · simp [found_of_refused listed]
  · simp [found_of_listed listed, mem_readAll]

theorem ascending_found (roots : SysfsRoots) (files : FileTree) :
    Ascending (discover roots files).found := by
  rcases listed : files.list roots.attributes with fault | names
  · rw [found_of_refused listed]
    exact List.Pairwise.nil
  · rw [found_of_listed listed]
    obtain ⟨-, rfl⟩ := FileTree.list_eq_ok_iff.mp listed
    exact ascending_readAll (FileTree.nodup_namesIn _)

/-! ## Spoilt entries -/

/-- What belongs to an entry of the directory of attributes: all that is in it, and if it is named
as a device, the node of that name. -/
def Belongs (roots : SysfsRoots) (name : String) (place : Place) : Prop :=
  ((Place.ofPath roots.attributes).child name).within place ∨
    (∃ id, Numbered name id) ∧ ((Place.ofPath roots.nodes).child name).within place

/-- The trees differ at most in what belongs to some entries.  Neither of the two directories, nor
anything on the way to them, is part of that. -/
structure DiffersIn (roots : SysfsRoots) (spoilt : String → Bool) (files files' : FileTree) :
    Prop where
  elsewhere : ∀ place, (∀ name, spoilt name → ¬ Belongs roots name place) →
    files'.at? place = files.at? place
  apart : ∀ place ∈ Path.places roots.attributes ++ Path.places roots.nodes,
    ∀ name, spoilt name → ¬ Belongs roots name place

/-- A component of the path of an attribute is not named as a device. -/
def Component (part : String) : Prop := Path.Plain part ∧ deviceNumber? part = none

instance (part : String) : Decidable (Component part) := inferInstanceAs (Decidable (_ ∧ _))

namespace DiffersIn

variable {spoilt : String → Bool}

/-- What is in one entry is in no other. -/
theorem below (differs : DiffersIn roots spoilt files files') (sound : ¬ spoilt name)
    {parts : List String} (unnumbered : ∀ part ∈ parts, deviceNumber? part = none) :
    let place := parts.foldl Place.child ((Place.ofPath roots.attributes).child name)
    files'.at? place = files.at? place := by
  refine differs.elsewhere _ fun other bad belongs => ?_
  have different : other ≠ name := fun same => sound (same ▸ bad)
  rcases belongs with inside | ⟨⟨id, numbered⟩, inside⟩
  · rw [Place.within_iff, Place.names_foldl_child, Place.names_child, Place.names_child,
      List.append_assoc, List.prefix_append_right_inj, List.singleton_append,
      List.cons_prefix_cons] at inside
    exact different inside.1
  · rcases Place.within_foldl_child inside with inside | ⟨above, part, among, same⟩
    · rcases Place.within_child_iff.mp inside with inside | same
      · exact differs.apart _ (List.mem_append_left _ Path.ofPath_mem_places) other bad
          (.inr ⟨⟨id, numbered⟩, inside⟩)
      · exact different (Place.child_injective same).2
    · obtain ⟨-, rfl⟩ := Place.child_injective same
      exact nomatch (unnumbered _ among).symm.trans (deviceNumber?_eq_some_iff.mpr numbered)

theorem node (differs : DiffersIn roots spoilt files files') (sound : ¬ spoilt name) :
    let place := (Place.ofPath roots.nodes).child name
    files'.at? place = files.at? place := by
  refine differs.elsewhere _ fun other bad belongs => ?_
  have different : other ≠ name := fun same => sound (same ▸ bad)
  have outside := differs.apart _ (List.mem_append_right _ Path.ofPath_mem_places) other bad
  rcases belongs with inside | ⟨numbered, inside⟩
  · rcases Place.within_child_iff.mp inside with inside | same
    · exact outside (.inl inside)
    · exact different (Place.child_injective same).2
  · rcases Place.within_child_iff.mp inside with inside | same
    · exact outside (.inr ⟨numbered, inside⟩)
    · exact different (Place.child_injective same).2

/-- By induction on the components of an attribute's path, none of which is named as a device. -/
theorem alike_attribute (differs : DiffersIn roots spoilt files files') (sound : ¬ spoilt name)
    (plain : Path.Plain name) {parts : List String}
    (components : ∀ part ∈ parts, Component part) :
    files.Alike files' (parts.foldl joinPath (joinPath roots.attributes name)) ∧
      Place.ofPath (parts.foldl joinPath (joinPath roots.attributes name)) =
        parts.foldl Place.child ((Place.ofPath roots.attributes).child name) := by
  induction parts using List.reverseRecOn with
  | nil =>
      refine ⟨fun place passed => ?_, Path.ofPath_joinPath plain⟩
      rcases (Path.mem_places_joinPath plain).mp passed with passed | rfl
      · exact differs.elsewhere _ (differs.apart _ (List.mem_append_left _ passed))
      · exact differs.below sound (List.forall_mem_nil _)
  | append_singleton parts part ih =>
      obtain ⟨alike, leads⟩ := ih fun part among => components part (List.mem_append_left _ among)
      obtain ⟨plain', -⟩ := components part List.mem_concat_self
      rw [List.foldl_concat, List.foldl_concat]
      refine ⟨fun place passed => ?_, ?_⟩
      · rcases (Path.mem_places_joinPath plain').mp passed with passed | rfl
        · exact alike place passed
        · have under := differs.below sound fun part among => (components part among).2
          rw [List.foldl_concat] at under
          rwa [leads]
      · rw [Path.ofPath_joinPath plain', leads]

/-- The size of a kind of memory is in a directory of its own. -/
theorem alike_size (differs : DiffersIn roots spoilt files files') (sound : ¬ spoilt name)
    (plain : Path.Plain name) {kind : String} (component : Component kind) :
    files.Alike files' (joinPath (joinPath roots.attributes name) (kind ++ "/" ++ "size")) := by
  have components : ∀ part ∈ [kind, "size"], Component part := by
    rw [List.forall_mem_cons, List.forall_mem_singleton]
    exact ⟨component, by decide⟩
  rw [Path.joinPath_slash component.1 (by simp)]
  exact (differs.alike_attribute sound plain components).1

theorem probe_eq (differs : DiffersIn roots spoilt files files') (sound : ¬ spoilt name)
    (plain : Path.Plain name) : probe roots files' name = probe roots files name := by
  have node : files.Alike files' (joinPath roots.nodes name) := fun place passed => by
    rcases (Path.mem_places_joinPath plain).mp passed with passed | rfl
    · exact differs.elsewhere _ (differs.apart _ (List.mem_append_right _ passed))
    · exact differs.node sound
  have leaf (part : String) (component : Component part) :
      files.Alike files' (joinPath (joinPath roots.attributes name) part) :=
    (differs.alike_attribute sound plain (List.forall_mem_singleton.mpr component)).1
  refine probe_congr ?_
  simp only [probed, leaves, List.map_cons, List.map_nil, List.forall_mem_cons,
    show "pmem/size" = "pmem" ++ "/" ++ "size" from rfl,
    show "ram/size" = "ram" ++ "/" ++ "size" from rfl]
  exact ⟨(differs.alike_attribute sound plain (List.forall_mem_nil _)).1, node,
    differs.alike_size sound plain (by decide), differs.alike_size sound plain (by decide),
    leaf "payload_max" (by decide), leaf "label_storage_size" (by decide),
    leaf "firmware_version" (by decide), List.forall_mem_nil _⟩

theorem listed_iff (differs : DiffersIn roots spoilt files files') (sound : ¬ spoilt name)
    (numbered : Numbered name id) : Listed roots files' name ↔ Listed roots files name := by
  have same : files.Alike files' roots.attributes := fun place passed =>
    differs.elsewhere place (differs.apart place (List.mem_append_left _ passed))
  have entry : files'.at? ((Place.ofPath roots.attributes).child name) =
      files.at? ((Place.ofPath roots.attributes).child name) :=
    differs.below sound (List.forall_mem_nil _)
  rw [listed_iff_entry numbered, listed_iff_entry numbered, FileTree.lookup_congr same, entry]

/-- What is changed in some entries leaves the other devices found as they were. -/
theorem found_eq (differs : DiffersIn roots spoilt files files') :
    (discover roots files').found.filter (fun info => !spoilt info.name) =
      (discover roots files).found.filter (fun info => !spoilt info.name) := by
  refine eq_of_ascending ((ascending_found _ _).filter _) ((ascending_found _ _).filter _) ?_
  intro info
  simp only [List.mem_filter, Bool.not_eq_true', Bool.eq_false_iff, mem_found_iff]
  refine and_congr_left fun sound => ?_
  have read (numbered : Numbered info.name info.id) :
      Recorded roots files' info.name info ↔ Recorded roots files info.name info := by
    rw [← probe_eq_ok_iff, ← probe_eq_ok_iff, differs.probe_eq sound numbered.plain]
  constructor
  · rintro ⟨listed, recorded⟩
    exact ⟨(differs.listed_iff sound recorded.numbered).mp listed,
      (read recorded.numbered).mp recorded⟩
  · rintro ⟨listed, recorded⟩
    exact ⟨(differs.listed_iff sound recorded.numbered).mpr listed,
      (read recorded.numbered).mpr recorded⟩

end DiffersIn

/-! ## What a registry keeps -/

theorem firstById_sublist (seen : List UInt32) (found : List DeviceInfo) :
    (Registry.firstById seen found).Sublist found := by
  induction found generalizing seen with
  | nil => exact List.Sublist.refl _
  | cons head rest ih =>
      rw [Registry.firstById]
      split
      · exact (ih seen).cons head
      · exact (ih _).cons_cons head

theorem mem_firstById_iff {found : List DeviceInfo} :
    info ∈ Registry.firstById [] found ↔ found.find? (·.id == info.id) = some info := by
  refine ⟨fun kept => (Registry.first_of_firstById kept).2, fun first => ?_⟩
  have picked := Registry.byId?_firstById [] found info.id
  rw [if_neg List.not_mem_nil, first] at picked
  exact List.mem_of_find?_eq_some picked

/-- Of one number, a lesser rank is a lesser name. -/
theorem name_lt_of_rank_lt {other : DeviceInfo}
    (less : rank info.id info.name < rank other.id other.name) (same : info.id = other.id) :
    info.name < other.name := by
  rw [rank, rank, same, Prod.Lex.toLex_lt_toLex] at less
  exact (less.resolve_left (lt_irrefl _)).2

/-- The first of a number is the one with the least name. -/
theorem first_iff_of_ascending {found : List DeviceInfo} (ascending : Ascending found) :
    found.find? (·.id == info.id) = some info ↔
      info ∈ found ∧ ∀ other ∈ found, other.id = info.id → info.name ≤ other.name := by
  induction found with
  | nil => simp
  | cons head rest ih =>
      obtain ⟨least, ascending⟩ := List.pairwise_cons.mp ascending
      rw [List.find?_cons]
      by_cases same : head.id = info.id
      · simp only [same, beq_self_eq_true, Option.some.injEq]
        constructor
        · rintro rfl
          refine ⟨List.mem_cons_self, fun other among numbered => ?_⟩
          rcases List.mem_cons.mp among with rfl | later
          · exact le_refl _
          · exact (name_lt_of_rank_lt (least other later) numbered.symm).le
        · rintro ⟨among, first⟩
          rcases List.mem_cons.mp among with rfl | later
          · rfl
          · have before := name_lt_of_rank_lt (least info later) same
            exact absurd (first head List.mem_cons_self same) (not_le_of_gt before)
      · have other : info ≠ head := fun equal => same (equal ▸ rfl)
        simp only [beq_false_of_ne same, ih ascending, List.mem_cons, other, false_or,
          forall_eq_or_imp, same, false_implies, true_and]

theorem ascending_firstById {found : List DeviceInfo} (ascending : Ascending found) :
    (Registry.firstById [] found).Pairwise fun a b => a.id < b.id := by
  have distinct := List.pairwise_map.mp (Registry.nodup_firstById [] found)
  refine (ascending.sublist (firstById_sublist [] found)).imp₂ (fun a b less different => ?_)
    distinct
  rcases Prod.Lex.toLex_lt_toLex.mp less with number | ⟨same, -⟩
  · exact UInt32.lt_iff_toNat_lt.mpr number
  · exact absurd (UInt32.toNat_inj.mp same) different

/-- **Every device that can be read is found, in one order.** -/
theorem discovery_exact (roots : SysfsRoots) (files : FileTree) :
    let found := (discover roots files).found
    (∀ info, info ∈ found ↔ Listed roots files info.name ∧ Numbered info.name info.id ∧
      probe roots files info.name = .ok info) ∧
    Ascending found ∧
    (∀ names names', files.list roots.attributes = .ok names → names'.Perm names →
      readAll roots files names' = found) ∧
    (∀ files', (∀ place, files'.at? place = files.at? place) →
      (discover roots files').found = found) ∧
    (∀ spoilt files', DiffersIn roots spoilt files files' →
      (discover roots files').found.filter (fun info => !spoilt info.name) =
        found.filter fun info => !spoilt info.name) ∧
    ∀ (δ : Type) (driver : Driver δ) (registry : Registry) (world : World δ),
      registry.known? = none → world.files = files →
      let kept := (registry.devices (backend roots driver) world).1.1
      kept.Pairwise (fun a b => a.id < b.id) ∧
      ∀ info, info ∈ kept ↔
        info ∈ found ∧ ∀ other ∈ found, other.id = info.id → info.name ≤ other.name := by
  intro found
  refine ⟨fun info => ?_, ascending_found roots files, ?_, ?_, fun _ _ => DiffersIn.found_eq, ?_⟩
  · rw [mem_found_iff, probe_eq_ok_iff]
    exact and_congr_right fun _ => ⟨fun recorded => ⟨recorded.numbered, recorded⟩, And.right⟩
  · intro names names' listed reordered
    have distinct : names.Nodup := by
      obtain ⟨-, rfl⟩ := FileTree.list_eq_ok_iff.mp listed
      exact FileTree.nodup_namesIn _
    rw [readAll_perm distinct reordered, ← found_of_listed listed]
  · intro files' same
    have differs : DiffersIn roots (fun _ => false) files files' :=
      ⟨fun place _ => same place, fun _ _ _ => nofun⟩
    simpa using differs.found_eq
  · rintro δ driver registry world unasked rfl
    rw [Registry.devices_unknown unasked]
    refine ⟨ascending_firstById (ascending_found _ _), fun info => ?_⟩
    rw [mem_firstById_iff]
    exact first_iff_of_ascending (ascending_found _ _)

/-! ### A malformed device -/

/-- Directory and node of a device, every attribute of which is zero. -/
def blankDevice (name : String) : List (Place × Node) :=
  (⟨["d", name]⟩, .device 1 1) ::
    [[], ["pmem"], ["ram"]].map (fun parts => (⟨"s" :: name :: parts⟩, .directory)) ++
    [["pmem", "size"], ["ram", "size"], ["payload_max"], ["label_storage_size"],
      ["firmware_version"]].map fun parts => (⟨"s" :: name :: parts⟩, .file [48])

/-- A host with such devices. -/
def blankHost (names : List String) : FileTree :=
  ⟨(⟨["s"]⟩, .directory) :: (⟨["d"]⟩, .directory) :: names.flatMap blankDevice⟩

/-- The same tree, but with this at one place. -/
def overlaid (files : FileTree) (place : Place) (node : Node) : FileTree :=
  ⟨(place, node) :: files.entries⟩

theorem at?_overlaid_of_ne {place other : Place} (different : place ≠ other) (node : Node) :
    (overlaid files place node).at? other = files.at? other := by
  rw [FileTree.at?, FileTree.at?, overlaid, List.find?_cons_of_neg (by simpa using different)]

/-- An attribute that is no number costs its own device only. -/
theorem malformed_device_passed_over :
    let roots : SysfsRoots := { attributes := "/s", nodes := "/d" }
    let files := blankHost ["mem7", "mem1", "mem01"]
    let files' := overlaid files ⟨["s", "mem1", "ram", "size"]⟩ (.file [120])
    (discover roots files).found.map (·.name) = ["mem01", "mem1", "mem7"] ∧
    (discover roots files').found.map (·.name) = ["mem01", "mem7"] ∧
    (discover roots files').found.filter (fun info => !info.name == "mem1") =
      (discover roots files).found.filter fun info => !info.name == "mem1" := by
  intro roots files files'
  have ordered : deviceNames ["mem7", "mem1", "mem01"] = ["mem01", "mem1", "mem7"] := by cbv
  have apart : ∀ place ∈ Path.places roots.attributes ++ Path.places roots.nodes,
      ¬ ((Place.ofPath roots.attributes).child "mem1").within place ∧
        ¬ ((Place.ofPath roots.nodes).child "mem1").within place := by decide +kernel
  have differs : DiffersIn roots (· == "mem1") files files' := by
    constructor
    case elsewhere =>
      refine fun place outside => at?_overlaid_of_ne ?_ _
      rintro rfl
      exact outside "mem1" rfl (.inl (by decide +kernel))
    case apart =>
      intro place passed name bad
      obtain rfl := beq_iff_eq.mp bad
      rintro (inside | ⟨-, inside⟩)
      · exact (apart place passed).1 inside
      · exact (apart place passed).2 inside
  refine ⟨?_, ?_, (discovery_exact roots files).2.2.2.2.1 _ files' differs⟩
  · have listed : files.list roots.attributes = .ok ["mem7", "mem1", "mem01"] := by
      decide +kernel
    rw [found_of_listed listed, readAll, ordered]
    decide +kernel
  · have listed : files'.list roots.attributes = .ok ["mem7", "mem1", "mem01"] := by
      decide +kernel
    rw [found_of_listed listed, readAll, ordered]
    decide +kernel

end Sysfs

end CxlMailbox
