/-
# CxlMailbox.Proofs.Files.Writing — what is written to a file is read from it

A write puts a file at the place that its path leads to.  That makes directories of everything on
the way there, and takes away everything that was below (`put_at?_above`, `put_at?_beside`).  In a
tree where every node stands in a directory (`Rooted`) nothing was below, since a write does not put
a file in the stead of a directory.  So every directory stays one, the path leads where it led, and
the content is read (`read_write`).  The tree that is left is of the same kind (`write_rooted`).

`Rooted` is decided from the entries of a tree (`rooted_iff`).
-/
import CxlMailbox.Proofs.Effect
import CxlMailbox.Proofs.Files

namespace CxlMailbox

set_option autoImplicit false

/-! ## The way to a place -/

namespace Place

/-- The places that a place lies in, apart from itself. -/
def above (place : Place) : List Place :=
  (List.range place.names.length).map fun n => ⟨place.names.take n⟩

variable {place dir : Place} {name : String}

theorem mem_above_iff : dir ∈ place.above ↔ dir.within place ∧ dir ≠ place := by
  obtain ⟨names⟩ := dir
  rw [above, List.mem_map, within_iff]
  constructor
  · rintro ⟨n, inside, ⟨⟩⟩
    have short := List.mem_range.mp inside
    refine ⟨List.take_prefix n _, fun same => ?_⟩
    have length := congrArg (·.names.length) same
    simp only [List.length_take] at length
    omega
  · rintro ⟨front, apart⟩
    refine ⟨names.length, List.mem_range.mpr ?_, ?_⟩
    · refine Nat.lt_of_le_of_ne front.length_le fun length => apart ?_
      exact congrArg Place.mk (front.eq_of_length length)
    · exact congrArg Place.mk (List.prefix_iff_eq_take.mp front).symm

theorem mem_above_of_child (way : (dir.child name).within place) : dir ∈ place.above := by
  have inside := within_iff.mp way
  refine mem_above_iff.mpr ⟨within_iff.mpr ((List.prefix_append _ _).trans inside), ?_⟩
  rintro rfl
  exact absurd inside.length_le (by simp [names_child])

theorem parent_child (dir : Place) (name : String) : (dir.child name).parent = dir :=
  congrArg Place.mk List.dropLast_concat

end Place

namespace FileTree

variable {tree tree' : FileTree} {place other : Place} {node : Node}

/-! ## Entries -/

/-- What the entries have at a place. -/
def stored? (tree : FileTree) (place : Place) : Option Node :=
  (tree.entries.find? fun entry => entry.1 = place).map (·.2)

/-- What is at a place without an entry. -/
def implied? (place : Place) : Option Node :=
  if place.within .workingDirectory then some .directory else none

theorem at?_eq (tree : FileTree) (place : Place) :
    tree.at? place = (tree.stored? place).or (implied? place) := by
  rw [at?, stored?]
  split
  case h_1 entry found => rw [found]; rfl
  case h_2 missing => rw [missing]; rfl

theorem at?_ne_none_of_implied (implied : implied? place ≠ none) : tree.at? place ≠ none := by
  rw [at?_eq]
  exact fun none_ => implied (Option.or_eq_none_iff.mp none_).2

theorem at?_ne_none_of_mem (among : (place, node) ∈ tree.entries) : tree.at? place ≠ none := by
  rw [at?_eq, stored?]
  intro none_
  have missing := Option.map_eq_none_iff.mp (Option.or_eq_none_iff.mp none_).1
  simpa using List.find?_eq_none.mp missing _ among

theorem stored?_filter (keep : Place → Bool) (entries : List (Place × Node)) (place : Place) :
    stored? ⟨entries.filter fun entry => keep entry.1⟩ place =
      if keep place then stored? ⟨entries⟩ place else none := by
  rw [stored?, stored?, List.find?_filter]
  split
  case isTrue kept =>
    congr 2
    funext entry
    by_cases same : entry.1 = place
    · simp [same, kept]
    · simp [same]
  case isFalse dropped =>
    rw [Option.map_eq_none_iff, List.find?_eq_none]
    rintro entry -
    by_cases same : entry.1 = place
    · simp [same, dropped]
    · simp [same]

theorem stored?_concat (entries : List (Place × Node)) (place : Place) (node : Node)
    (other : Place) :
    stored? ⟨entries ++ [(place, node)]⟩ other =
      (stored? ⟨entries⟩ other).or (if other = place then some node else none) := by
  rw [stored?, stored?, List.find?_append, Option.map_or]
  congr 1
  by_cases same : other = place
  · simp [same]
  · simp [same, Ne.symm same]

/-! ## Directories that are made -/

/-- A tree with a directory at a place. -/
def withDirectory (tree : FileTree) (dir : Place) : FileTree :=
  if tree.at? dir = some .directory then tree
  else ⟨(tree.entries.filter fun entry => entry.1 ≠ dir) ++ [(dir, .directory)]⟩

theorem makeParents_eq (tree : FileTree) (place : Place) :
    tree.makeParents place = place.above.foldl withDirectory tree := rfl

theorem withDirectory_at?_self (tree : FileTree) (dir : Place) :
    (tree.withDirectory dir).at? dir = some .directory := by
  rw [withDirectory]
  split
  case isTrue there => exact there
  case isFalse =>
    have dropped := stored?_filter (fun other => other ≠ dir) tree.entries dir
    rw [if_neg (by simp)] at dropped
    rw [at?_eq, stored?_concat, dropped, if_pos rfl]
    rfl

theorem withDirectory_stored? (tree : FileTree) {dir : Place} (apart : other ≠ dir) :
    (tree.withDirectory dir).stored? other = tree.stored? other := by
  rw [withDirectory]
  split
  case isTrue => rfl
  case isFalse =>
    have kept := stored?_filter (fun other => other ≠ dir) tree.entries other
    rw [if_pos (by simpa)] at kept
    rw [stored?_concat, kept, if_neg apart, Option.or_none]

theorem withDirectory_at? {dir : Place} (there : tree.at? other = some .directory) :
    (tree.withDirectory dir).at? other = some .directory := by
  by_cases same : other = dir
  · rw [same]
    exact withDirectory_at?_self tree dir
  · rw [at?_eq, withDirectory_stored? tree same, ← at?_eq, there]

theorem foldl_withDirectory_at? {dirs : List Place}
    (there : tree.at? other = some .directory ∨ other ∈ dirs) :
    (dirs.foldl withDirectory tree).at? other = some .directory := by
  induction dirs generalizing tree with
  | nil => exact there.resolve_right List.not_mem_nil
  | cons dir dirs ih =>
      refine ih ?_
      rcases there with there | among
      · exact .inl (withDirectory_at? there)
      · rcases List.mem_cons.mp among with rfl | among
        · exact .inl (withDirectory_at?_self tree _)
        · exact .inr among

theorem foldl_withDirectory_stored? (tree : FileTree) {dirs : List Place} (apart : other ∉ dirs) :
    (dirs.foldl withDirectory tree).stored? other = tree.stored? other := by
  induction dirs generalizing tree with
  | nil => rfl
  | cons dir dirs ih =>
      obtain ⟨here, later⟩ := not_or.mp (mt List.mem_cons.mpr apart)
      exact (ih _ later).trans (withDirectory_stored? tree here)

/-! ## A node that is put -/

theorem remove_stored? (tree : FileTree) (place other : Place) :
    (tree.remove place).stored? other =
      if place.within other then none else tree.stored? other := by
  refine (stored?_filter (fun other => !place.within other) tree.entries other).trans ?_
  cases place.within other <;> rfl

theorem put_at?_self (tree : FileTree) (place : Place) (node : Node) :
    (tree.put place node).at? place = some node := by
  have apart : place ∉ place.above := fun among => (Place.mem_above_iff.mp among).2 rfl
  have inside : place.within place := Place.within_iff.mpr List.prefix_rfl
  have free : (place.above.foldl withDirectory (tree.remove place)).stored? place = none := by
    rw [foldl_withDirectory_stored? _ apart, remove_stored?, if_pos inside]
  rw [at?_eq, put, stored?_concat, makeParents_eq, if_pos rfl]
  exact congrArg (fun stored : Option Node => (stored.or (some node)).or (implied? place)) free

theorem put_at?_of_ne (apart : other ≠ place) : (tree.put place node).at? other =
    (place.above.foldl withDirectory (tree.remove place)).at? other := by
  rw [at?_eq, put, stored?_concat, if_neg apart, Option.or_none, at?_eq]
  rfl

/-- The way to a node that is put is made of directories. -/
theorem put_at?_above {dir : Place} (way : dir ∈ place.above) :
    (tree.put place node).at? dir = some .directory := by
  rw [put_at?_of_ne (Place.mem_above_iff.mp way).2]
  exact foldl_withDirectory_at? (.inr way)

/-- Off the way to the node there is what was there before; only below the node all entries are
gone. -/
theorem put_at?_beside (apart : other ≠ place) (off : other ∉ place.above) :
    (tree.put place node).at? other =
      if place.within other then implied? other else tree.at? other := by
  rw [put_at?_of_ne apart, at?_eq, foldl_withDirectory_stored? _ off, remove_stored?, at?_eq]
  split <;> rfl

/-! ## Trees in which every node stands in a directory -/

/-- Whatever is in a tree stands in a directory. -/
def Rooted (tree : FileTree) : Prop :=
  ∀ dir name, tree.at? (dir.child name) ≠ none → tree.at? dir = some .directory

namespace Rooted

theorem directory_above (rooted : tree.Rooted) {dir : Place} (there : tree.at? place ≠ none)
    (way : dir ∈ place.above) : tree.at? dir = some .directory := by
  obtain ⟨inside, apart⟩ := Place.mem_above_iff.mp way
  obtain ⟨rest, whole⟩ := Place.within_iff.mp inside
  obtain ⟨names⟩ := dir
  obtain rfl : place = ⟨names ++ rest⟩ := congrArg Place.mk whole.symm
  clear whole inside way
  -- By induction on the names between the two, the last of them first.
  induction rest using List.reverseRecOn with
  | nil => exact absurd (congrArg Place.mk (List.append_nil names).symm) apart
  | append_singleton rest name ih =>
      rw [← List.append_assoc] at there
      have standing := rooted ⟨names ++ rest⟩ name there
      rcases rest.eq_nil_or_concat with rfl | ⟨front, last, rfl⟩
      · rwa [List.append_nil] at standing
      · exact ih (standing ▸ Option.some_ne_none _) fun same => by
          simpa using congrArg Place.names same

/-- Directories stay when a node is put in the stead of none. -/
theorem put_directory (rooted : tree.Rooted) (free : tree.at? place ≠ some .directory)
    {dir : Place} (there : tree.at? dir = some .directory) :
    (tree.put place node).at? dir = some .directory := by
  have apart : dir ≠ place := fun same => free (same ▸ there)
  by_cases way : dir ∈ place.above
  · exact put_at?_above way
  · have outside : ¬ place.within dir := fun inside =>
      free (rooted.directory_above (by simp [there])
        (Place.mem_above_iff.mpr ⟨inside, apart.symm⟩))
    rw [put_at?_beside apart way, if_neg outside, there]

/-- A node that is put in the stead of no directory stands in one, and so does every other. -/
theorem put (rooted : tree.Rooted) (free : tree.at? place ≠ some .directory) :
    (tree.put place node).Rooted := by
  intro dir name there
  by_cases way : dir ∈ place.above
  · exact put_at?_above way
  · have off : ¬ (dir.child name).within place := mt Place.mem_above_of_child way
    have apart : dir.child name ≠ place := by
      rintro rfl
      exact off (Place.within_iff.mpr List.prefix_rfl)
    rw [put_at?_beside apart fun among => off (Place.mem_above_iff.mp among).1] at there
    refine rooted.put_directory free (rooted dir name ?_)
    split at there
    · exact at?_ne_none_of_implied there
    · exact there

end Rooted

/-- It is enough that the entries and the working directory stand in directories. -/
theorem rooted_iff : tree.Rooted ↔
    (∀ entry ∈ tree.entries, entry.1 = .root ∨ tree.at? entry.1.parent = some .directory) ∧
      ∀ dir ∈ Place.workingDirectory.above, tree.at? dir = some .directory := by
  constructor
  · intro rooted
    refine ⟨fun entry among => ?_, fun dir => rooted.directory_above ?_⟩
    · obtain ⟨⟨names⟩, node⟩ := entry
      rcases names.eq_nil_or_concat with rfl | ⟨front, name, rfl⟩
      · exact .inl rfl
      · rw [List.concat_eq_append] at among ⊢
        have parent := Place.parent_child ⟨front⟩ name
        exact .inr ((congrArg tree.at? parent).trans
          (rooted ⟨front⟩ name (at?_ne_none_of_mem among)))
    · exact at?_ne_none_of_implied (by decide)
  · rintro ⟨entries, working⟩ dir name there
    rw [at?_eq, ne_eq, Option.or_eq_none_iff, not_and_or] at there
    rcases there with stored | implied
    · obtain ⟨node, found⟩ := Option.ne_none_iff_exists'.mp stored
      obtain ⟨entry, found, -⟩ := Option.map_eq_some_iff.mp found
      have own : entry.1 = dir.child name := by simpa using List.find?_some found
      have standing := entries entry (List.mem_of_find?_eq_some found)
      rw [own, Place.parent_child] at standing
      refine standing.resolve_left fun root => ?_
      simpa [Place.names_child, Place.root] using congrArg Place.names root
    · have way : (dir.child name).within .workingDirectory := by
        by_contra outside
        exact implied (if_neg outside)
      exact working dir (Place.mem_above_of_child way)

instance (tree : FileTree) : Decidable tree.Rooted := decidable_of_iff _ rooted_iff.symm

example : FileTree.empty.Rooted := by decide +kernel

/-! ## What is written -/

/-- A walk stays one where directories stay. -/
theorem walk_mono
    (stay : ∀ dir, tree.at? dir = some .directory → tree'.at? dir = some .directory)
    {start last : Place} {parts : List String} (walked : tree.walk start parts = .ok last) :
    tree'.walk start parts = .ok last := by
  induction parts generalizing start with
  | nil => exact walked
  | cons part rest ih =>
      rw [walk] at walked ⊢
      split at walked
      case h_1 | h_2 | h_3 | h_4 => cases walked
      case h_5 there =>
        rw [stay _ there]
        dsimp only
        split_ifs at walked ⊢
        · exact ih walked
        · exact ih walked
        · exact ih walked

theorem lookup_located {path : String} (located : tree.locate path = .ok place)
    (there : tree.at? place = some node) (leads : node ≠ .dangling) :
    tree.lookup path = .ok node := by
  unfold lookup
  rw [located]
  simp only [bind, Except.bind, there]
  rfl

variable {path : String} {content : Bytes}

/-- A write that succeeds puts a file in the stead of no directory, or it goes to a device. -/
theorem write_cases (wrote : tree.write path content = .ok tree') :
    ∃ place, tree.locate path = .ok place ∧ tree.at? place ≠ some .directory ∧
      (tree' = tree.put place (.file content) ∨
        tree' = tree ∧ ∃ major minor, tree.at? place = some (.device major minor)) := by
  unfold write at wrote
  split at wrote
  case isTrue =>
    obtain ⟨taken, -, rest⟩ := Effect.except_bind_eq_ok_iff.mp wrote
    obtain ⟨dir, -, thrown⟩ := Effect.except_bind_eq_ok_iff.mp rest
    cases thrown
  case isFalse =>
    obtain ⟨place, located, rest⟩ := Effect.except_bind_eq_ok_iff.mp wrote
    refine ⟨place, located, ?_⟩
    split at rest
    case h_1 => cases rest
    case h_2 there | h_3 there =>
      obtain rfl := Except.ok.inj rest
      exact ⟨by simp [there], .inl rfl⟩
    case h_4 major minor device =>
      refine ⟨by simp [device], .inr ⟨?_, major, minor, device⟩⟩
      split at rest
      · cases rest
      · exact (Except.ok.inj rest).symm
    case h_5 missing =>
      refine ⟨by simp [missing], .inl ?_⟩
      split at rest
      case h_1 => exact (Except.ok.inj rest).symm
      case h_2 | h_3 | h_4 => cases rest

theorem write_rooted (rooted : tree.Rooted) (wrote : tree.write path content = .ok tree') :
    tree'.Rooted := by
  obtain ⟨place, -, free, rfl | ⟨rfl, -⟩⟩ := write_cases wrote
  · exact rooted.put free
  · exact rooted

/-- **What is written to a path is read from it**, unless the path leads to a device. -/
theorem read_write (rooted : tree.Rooted) (wrote : tree.write path content = .ok tree')
    (regular : ∀ major minor, tree.lookup path ≠ .ok (.device major minor)) :
    tree'.read path = .ok content := by
  obtain ⟨place, located, free, rfl | ⟨rfl, major, minor, device⟩⟩ := write_cases wrote
  · have located' : (tree.put place (.file content)).locate path = .ok place := by
      unfold locate at located ⊢
      obtain ⟨taken, read, walked⟩ := Effect.except_bind_eq_ok_iff.mp located
      rw [read]
      exact walk_mono (fun _ => rooted.put_directory free) walked
    unfold read
    rw [lookup_located located' (put_at?_self _ _ _) nofun]
    rfl
  · exact absurd (lookup_located located device nofun) (regular major minor)

end FileTree

end CxlMailbox
