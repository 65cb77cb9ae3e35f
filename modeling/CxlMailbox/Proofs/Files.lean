/-
# CxlMailbox.Proofs.Files — what a path depends on

A path that is looked up passes some places, its own the last (`Path.places`).  What is found there
decides the lookup: in two trees that are alike along a path, the path leads to the same
(`FileTree.Alike`).  A listing holds the names of the entries, each once, in an order that the tree
decides (`mem_namesIn`, `nodup_namesIn`).

A component behind a path leads one place further down (`mem_places_joinPath`).
-/
import CxlMailbox.Files
import Mathlib.Data.List.Infix

namespace CxlMailbox

set_option autoImplicit false

/-! ## Places -/

namespace Place

/-- Where a component of a path leads. -/
def step (place : Place) (part : String) : Place :=
  if part = "." then place else if part = ".." then place.parent else place.child part

theorem step_dot (place : Place) : place.step "." = place := if_pos rfl

theorem names_child (place : Place) (name : String) :
    (place.child name).names = place.names ++ [name] := rfl

theorem child_injective {place other : Place} {name name' : String}
    (same : place.child name = other.child name') : place = other ∧ name = name' := by
  obtain ⟨names⟩ := place
  obtain ⟨names'⟩ := other
  obtain ⟨front, last⟩ := List.append_inj' (Place.mk.inj same) rfl
  exact ⟨congrArg Place.mk front, (List.cons.inj last).1⟩

/-- Components that lead down one behind the other. -/
theorem names_foldl_child (place : Place) (parts : List String) :
    (parts.foldl child place).names = place.names ++ parts := by
  induction parts generalizing place with
  | nil => exact (List.append_nil _).symm
  | cons part parts ih => rw [List.foldl_cons, ih, names_child, List.append_assoc]; rfl

theorem within_iff {dir place : Place} : dir.within place ↔ dir.names <+: place.names :=
  List.isPrefixOf_iff_prefix

/-- What is in an entry of a directory, or what that entry is in, is in the directory, or the
directory in it. -/
theorem within_child_iff {dir place : Place} {name : String} :
    dir.within (place.child name) ↔ dir.within place ∨ dir = place.child name := by
  rw [within_iff, within_iff, names_child, List.prefix_concat_iff, or_comm]
  obtain ⟨names⟩ := dir
  exact or_congr_right (Place.mk.injEq _ _).symm.to_iff

/-- What is on the way down from a place was on the way to it, or one of the components leads
there. -/
theorem within_foldl_child {dir place : Place} {parts : List String}
    (inside : dir.within (parts.foldl child place)) :
    dir.within place ∨ ∃ above, ∃ part ∈ parts, dir = child above part := by
  induction parts using List.reverseRecOn with
  | nil => exact .inl inside
  | append_singleton parts part ih =>
      rw [List.foldl_concat, within_child_iff] at inside
      rcases inside with inside | rfl
      · rcases ih inside with inside | ⟨above, part', among, same⟩
        · exact .inl inside
        · exact .inr ⟨above, part', List.mem_append_left _ among, same⟩
      · exact .inr ⟨_, part, List.mem_concat_self, rfl⟩

end Place

/-! ## Paths -/

theorem startsWith_slash_iff {text : String} :
    text.startsWith "/" ↔ text.toList.head? = some '/' := by
  rw [String.startsWith_string_iff]
  exact List.singleton_prefix_iff_head?_eq_some

theorem endsWith_slash_iff {text : String} :
    text.endsWith "/" ↔ text.toList.getLast? = some '/' := by
  rw [String.endsWith_eq_endsWith_toSlice, String.Slice.endsWith_string_iff, String.copy_toSlice]
  exact List.singleton_suffix_iff_getLast?_eq_some

namespace Path

/-- The places that a path passes, its own the last. -/
def places (path : String) : List Place :=
  (ofText path).parts.scanl Place.step (ofText path).start

/-- A text that leads one step down as a component of a path. -/
structure Plain (part : String) : Prop where
  some_ : part ≠ ""
  slashless : '/' ∉ part.toList
  here : part ≠ "."
  up : part ≠ ".."

instance (part : String) : Decidable (Plain part) :=
  decidable_of_iff (part ≠ "" ∧ '/' ∉ part.toList ∧ part ≠ "." ∧ part ≠ "..")
    ⟨fun ⟨some_, slashless, here, up⟩ => ⟨some_, slashless, here, up⟩,
      fun ⟨some_, slashless, here, up⟩ => ⟨some_, slashless, here, up⟩⟩

variable {base part : String}

theorem Plain.step (plain : Plain part) (place : Place) : place.step part = place.child part := by
  rw [Place.step, if_neg plain.here, if_neg plain.up]

theorem components_append (front rest : List Char) :
    components (front ++ '/' :: rest) = components front ++ components rest := by
  rw [components, List.splitOn_append_cons_self, List.filter_append, List.map_append]
  rfl

theorem Plain.components (plain : Plain part) : components part.toList = [part] := by
  rw [Path.components, List.splitOn_eq_singleton plain.slashless]
  simp [plain.some_]

theorem Plain.toList_ne_nil (plain : Plain part) : part.toList ≠ [] := by
  simpa using plain.some_

theorem Plain.relative (plain : Plain part) (rest : String) :
    ¬ (part ++ rest).startsWith "/" := by
  obtain ⟨first, more, same⟩ := List.exists_cons_of_ne_nil plain.toList_ne_nil
  rw [startsWith_slash_iff, String.toList_append, same, List.cons_append, List.head?_cons,
    Option.some.injEq]
  rintro rfl
  exact plain.slashless (same ▸ List.mem_cons_self)

/-- The text of a path with a component behind it. -/
theorem joinPath_plain (plain : Plain part) : joinPath base part =
    if base.isEmpty || base.endsWith "/" then base ++ part else base ++ "/" ++ part := by
  have relative := plain.relative ""
  rw [String.append_empty] at relative
  rw [CxlMailbox.joinPath, if_neg relative]

theorem Plain.open_joinPath (plain : Plain part) : (joinPath base part).endsWith "/" = false := by
  have last : part.toList.getLast? ≠ some '/' :=
    fun last => plain.slashless (List.mem_of_mem_getLast? last)
  rw [Bool.eq_false_iff, ne_eq, endsWith_slash_iff, joinPath_plain plain]
  split <;> rwa [String.toList_append, List.getLast?_append_of_ne_nil _ plain.toList_ne_nil]

/-- A relative path behind a component is a path behind both. -/
theorem joinPath_slash {rest : String} (plain : Plain part) (relative : ¬ rest.startsWith "/") :
    joinPath base (part ++ "/" ++ rest) = joinPath (joinPath base part) rest := by
  have some_ : (joinPath base part).isEmpty = false := by
    rw [Bool.eq_false_iff, ne_eq, String.isEmpty_iff, joinPath_plain plain]
    split <;> simp [plain.some_]
  have relative' : ¬ (part ++ "/" ++ rest).startsWith "/" := by
    rw [String.append_assoc]
    exact plain.relative _
  rw [CxlMailbox.joinPath, CxlMailbox.joinPath.eq_def (joinPath base part) rest,
    if_neg relative', if_neg relative, some_, plain.open_joinPath, joinPath_plain plain]
  split <;> simp only [Bool.or_self, Bool.false_eq_true, if_false, String.append_assoc]

/-- The slash that stands between the two is no component. -/
theorem components_joinPath (plain : Plain part) :
    components (joinPath base part).toList = components base.toList ++ [part] := by
  rw [joinPath_plain plain]
  split
  case isFalse open_ =>
    simp only [String.toList_append, List.append_assoc, show "/".toList = ['/'] from rfl,
      List.singleton_append, components_append, plain.components]
  case isTrue closed =>
    rw [String.toList_append]
    rcases Bool.or_eq_true_iff.mp closed with empty | slash
    · rw [String.isEmpty_iff.mp empty]
      exact plain.components
    · obtain ⟨front, same⟩ := List.getLast?_eq_some_iff.mp (endsWith_slash_iff.mp slash)
      rw [same, List.append_assoc, List.singleton_append, components_append, components_append,
        plain.components]
      simp [components]

theorem ofText_joinPath (plain : Plain part) :
    ofText (joinPath base part) = ⟨(ofText base).start, components base.toList ++ [part]⟩ := by
  have starts : (joinPath base part).startsWith "/" = base.startsWith "/" := by
    have relative : part.toList.head? ≠ some '/' :=
      fun first => plain.slashless (List.mem_of_mem_head? first)
    rw [Bool.eq_iff_iff, startsWith_slash_iff, startsWith_slash_iff, joinPath_plain plain]
    by_cases empty : base = ""
    · simp [empty, relative]
    · have some_ : base.toList ≠ [] := by simpa using empty
      obtain ⟨first, rest, same⟩ := List.exists_cons_of_ne_nil some_
      split <;> simp only [String.toList_append, same, List.cons_append, List.head?_cons]
  rw [ofText, starts, plain.open_joinPath, components_joinPath plain]
  rfl

theorem parts_ofText (path : String) : (ofText path).parts =
    components path.toList ++ if path.endsWith "/" then ["."] else [] := by
  by_cases slash : path.endsWith "/" <;> simp [ofText, slash]

/-- A slash at the end leads nowhere else. -/
theorem ofPath_eq (path : String) :
    Place.ofPath path = (components path.toList).foldl Place.step (ofText path).start := by
  have walked : Place.ofPath path = (ofText path).parts.foldl Place.step (ofText path).start := rfl
  rw [walked, parts_ofText, List.foldl_append]
  split
  · exact Place.step_dot _
  · rfl

theorem mem_places_iff {path : String} {place : Place} :
    place ∈ places path ↔
      place ∈ (components path.toList).scanl Place.step (ofText path).start := by
  rw [places, parts_ofText, List.scanl_append]
  have last : (components path.toList).foldl Place.step (ofText path).start ∈
      (components path.toList).scanl Place.step (ofText path).start := by
    rw [← List.getLast_scanl List.scanl_ne_nil]
    exact List.getLast_mem _
  split
  · simpa [Place.step_dot] using fun same => same ▸ last
  · simp

theorem eq_ofText_of_read {path : String} {taken : Path} (known : read path = .ok taken) :
    taken = ofText path := by
  unfold read at known
  split_ifs at known
  exact (Except.ok.inj known).symm

theorem ofPath_mem_places {path : String} : Place.ofPath path ∈ places path := by
  have last : (places path).getLast List.scanl_ne_nil = Place.ofPath path :=
    List.getLast_scanl List.scanl_ne_nil
  exact last ▸ List.getLast_mem _

/-- A component behind a path leads to an entry of the directory that the path leads to. -/
theorem ofPath_joinPath (plain : Plain part) :
    Place.ofPath (joinPath base part) = (Place.ofPath base).child part := by
  rw [ofPath_eq, ofPath_eq, components_joinPath plain, ofText_joinPath plain,
    List.foldl_concat, plain.step]

theorem mem_places_joinPath (plain : Plain part) {place : Place} :
    place ∈ places (joinPath base part) ↔
      place ∈ places base ∨ place = (Place.ofPath base).child part := by
  rw [mem_places_iff, mem_places_iff, components_joinPath plain, ofText_joinPath plain,
    List.scanl_append, ← ofPath_eq]
  simp [plain.step]

end Path

/-! ## Trees -/

namespace FileTree

/-- At every place that a path passes, the trees have the same. -/
def Alike (tree tree' : FileTree) (path : String) : Prop :=
  ∀ place ∈ Path.places path, tree'.at? place = tree.at? place

variable {tree tree' : FileTree} {path : String}

/-- By induction on the components, each of which is followed from a place that is passed. -/
theorem walk_congr {place : Place} {parts : List String}
    (same : ∀ passed ∈ parts.scanl Place.step place, tree'.at? passed = tree.at? passed) :
    tree'.walk place parts = tree.walk place parts := by
  induction parts generalizing place with
  | nil => rfl
  | cons part rest ih =>
      rw [List.scanl_cons, List.forall_mem_cons, Place.step] at same
      rw [walk, walk, same.1]
      split
      case h_1 | h_2 | h_3 | h_4 => rfl
      case h_5 =>
        split_ifs at same ⊢
        · exact ih same.2
        · exact ih same.2
        · rfl
        · exact ih same.2

theorem locate_congr (same : Alike tree tree' path) : tree'.locate path = tree.locate path := by
  unfold locate
  rcases read : Path.read path with fault | taken
  · rfl
  · obtain rfl := Path.eq_ofText_of_read read
    exact walk_congr same

/-- A path that is not refused leads to its place. -/
theorem walk_leads {place last : Place} {parts : List String}
    (walked : tree.walk place parts = .ok last) : last = parts.foldl Place.step place := by
  induction parts generalizing place with
  | nil => exact (Except.ok.inj walked).symm
  | cons part rest ih =>
      rw [walk] at walked
      rw [List.foldl_cons, Place.step]
      split at walked
      case h_1 | h_2 | h_3 | h_4 => cases walked
      case h_5 =>
        split_ifs at walked ⊢
        · exact ih walked
        · exact ih walked
        · exact ih walked

theorem locate_leads {place : Place} (located : tree.locate path = .ok place) :
    place = Place.ofPath path := by
  unfold locate at located
  rcases read : Path.read path with fault | taken
  · rw [read] at located
    cases located
  · obtain rfl := Path.eq_ofText_of_read read
    rw [read] at located
    exact walk_leads located

theorem lookup_congr (same : Alike tree tree' path) : tree'.lookup path = tree.lookup path := by
  unfold lookup
  rw [locate_congr same]
  rcases located : tree.locate path with fault | place
  · rfl
  · have last : place ∈ Path.places path := by
      rw [locate_leads located]
      exact Path.ofPath_mem_places
    simp only [bind, Except.bind, same place last]

theorem isDirectory_congr (same : Alike tree tree' path) :
    tree'.isDirectory path = tree.isDirectory path := by
  rw [isDirectory, isDirectory, lookup_congr same]

theorem readText_congr (same : Alike tree tree' path) :
    tree'.readText path = tree.readText path := by
  rw [readText, readText, read, read, lookup_congr same]

/-! ### Listings -/

theorem nodup_eraseDups (names : List String) : names.eraseDups.Nodup := by
  induction length : names.length using Nat.strong_induction_on generalizing names with
  | _ _ ih =>
      cases names with
      | nil => exact List.nodup_nil
      | cons name rest =>
          have shorter : (rest.filter fun other => !other == name).length < (name :: rest).length :=
            Nat.lt_succ_of_le (List.length_filter_le _ _)
          rw [List.eraseDups_cons, List.nodup_cons]
          exact ⟨by simp, ih _ (length ▸ shorter) _ rfl⟩

theorem nodup_namesIn (dir : Place) : (tree.namesIn dir).Nodup := nodup_eraseDups _

theorem mem_namesIn_iff_entry {dir : Place} {name : String} :
    name ∈ tree.namesIn dir ↔ ∃ node, (dir.child name, node) ∈ tree.entries := by
  rw [namesIn, List.mem_eraseDups, List.mem_filterMap]
  constructor
  · rintro ⟨⟨place, node⟩, entry, named⟩
    split at named
    case h_1 last =>
      split_ifs at named with child
      obtain rfl := Option.some.inj named
      obtain rfl := child
      exact ⟨node, entry⟩
    case h_2 => cases named
  · rintro ⟨node, entry⟩
    refine ⟨_, entry, ?_⟩
    simp [Place.names_child]

/-- The working directory and those it lies in are there without an entry.  Every other name in a
directory is that of something there. -/
theorem mem_namesIn {dir : Place} {name : String}
    (apart : ¬ (dir.child name).within .workingDirectory) :
    name ∈ tree.namesIn dir ↔ tree.at? (dir.child name) ≠ none := by
  rw [mem_namesIn_iff_entry, at?]
  split
  case h_1 entry found =>
    have stands := List.mem_of_find?_eq_some found
    obtain ⟨place, node⟩ := entry
    obtain rfl : place = dir.child name := by simpa using List.find?_some found
    exact iff_of_true ⟨node, stands⟩ (Option.some_ne_none _)
  case h_2 missing =>
    rw [if_neg apart]
    refine iff_of_false ?_ (not_not_intro rfl)
    rintro ⟨node, entry⟩
    simpa using List.find?_eq_none.mp missing _ entry

/-- What is listed are the names in the directory that the path leads to. -/
theorem list_eq_ok_iff {names : List String} :
    tree.list path = .ok names ↔ tree.lookup path = .ok .directory ∧
      names = tree.namesIn (Place.ofPath path) := by
  unfold list lookup
  rcases located : tree.locate path with fault | place
  · simp [bind, Except.bind]
  · rw [← locate_leads located]
    simp only [bind, Except.bind]
    rcases tree.at? place with _ | node
    · simp [throw, throwThe, MonadExceptOf.throw]
    · cases node <;> simp [throw, throwThe, MonadExceptOf.throw, pure, Except.pure, eq_comm]

end FileTree

end CxlMailbox
