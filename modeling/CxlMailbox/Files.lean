/-
# CxlMailbox.Files — paths and a file tree

The files a program sees, as a value: regular files, directories, character devices and links
that lead nowhere, each under its path. Reading, writing and listing fail with the causes of the
host, and `FileFault.message` has the host's wording. A tree has no links that lead to another
place, and nothing in it is kept from the program: what is there can be read.

A path is walked component by component from the working directory or from the root. Every
component but the last must be a directory; a slash or a dot at the end asks for a directory as
well. Two dots lead one step up, at the root nowhere else. A path and each of its components have
a greatest length.
-/
import CxlMailbox.Bytes
import CxlMailbox.Text.Utf8

namespace CxlMailbox

set_option autoImplicit false

/-- A path with another one behind it; an absolute one takes its place. -/
def joinPath (base rest : String) : String :=
  if rest.startsWith "/" then rest
  else if base.isEmpty || base.endsWith "/" then base ++ rest
  else base ++ "/" ++ rest

/-- Why a file operation fails. -/
inductive FileFault where
  | notFound
  | notDirectory
  | isDirectory
  | noSpace
  | nameTooLong
  | notUtf8
  | nulInPath
  /-- The node is no character device. -/
  | notCharacterDevice
  /-- The device behind the node does not answer mailbox requests. -/
  | noMailbox
  deriving DecidableEq, Repr

namespace FileFault

def message : FileFault → String
  | notFound => "No such file or directory (os error 2)"
  | notDirectory => "Not a directory (os error 20)"
  | isDirectory => "Is a directory (os error 21)"
  | noSpace => "No space left on device (os error 28)"
  | nameTooLong => "File name too long (os error 36)"
  | notUtf8 => "stream did not contain valid UTF-8"
  | nulInPath => "file name contained an unexpected NUL byte"
  | notCharacterDevice => "not a character device"
  | noMailbox => "Inappropriate ioctl for device (os error 25)"

end FileFault

/-- What a path leads to. -/
inductive Node where
  | file (content : Bytes)
  | directory
  /-- A character device with its major and minor number. -/
  | device (major minor : UInt64)
  /-- A link to something that does not exist. -/
  | dangling
  deriving DecidableEq, Repr

/-- The place of a node: the names on the way to it from the root. -/
structure Place where
  names : List String
  deriving DecidableEq, Repr

namespace Place

def root : Place := ⟨[]⟩

/-- The working directory. Nobody knows its name, so the empty one, which no path spells, stands
for it. -/
def workingDirectory : Place := ⟨["tmp", ""]⟩

/-- The place of an entry of a directory. -/
def child (place : Place) (name : String) : Place := ⟨place.names ++ [name]⟩

/-- The place one step up; above the root is the root. -/
def parent (place : Place) : Place := ⟨place.names.dropLast⟩

/-- Whether `place` is `dir` or lies in it. -/
def within (dir place : Place) : Bool := dir.names.isPrefixOf place.names

end Place

/-- A path, taken apart. -/
structure Path where
  /-- Where walking it starts. -/
  start : Place
  parts : List String
  deriving DecidableEq, Repr

namespace Path

/-- What stands between the slashes of a path text. Nothing between two of them is no
component. -/
def components (text : List Char) : List String :=
  ((text.splitOn '/').filter (· ≠ [])).map String.ofList

/-- The components of a path text. A slash at the end counts as a dot, since it asks for a
directory. -/
def ofText (text : String) : Path :=
  let parts := components text.toList
  { start := if text.startsWith "/" then .root else .workingDirectory
    parts := if text.endsWith "/" then parts ++ ["."] else parts }

/-- The most bytes that a path takes. -/
def longest : Nat := 4095

/-- The most bytes that a component takes. -/
def longestPart : Nat := 255

/-- The path that a host reads from a text. -/
def read (text : String) : Except FileFault Path :=
  if text.isEmpty then .error .notFound
  else if '\x00' ∈ text.toList then .error .nulInPath
  else if longest < text.utf8ByteSize then .error .nameTooLong
  else .ok (ofText text)

end Path

/-- The place that a path names when nothing on the way is looked up. -/
def Place.ofPath (path : String) : Place :=
  let taken := Path.ofText path
  taken.parts.foldl (fun place part =>
    if part = "." then place else if part = ".." then place.parent else place.child part)
    taken.start

/-- Files by place. The first entry of a place counts. -/
structure FileTree where
  entries : List (Place × Node)
  deriving Repr

namespace FileTree

/-- What stands at a place. The working directory and those it lies in always exist. -/
def at? (tree : FileTree) (place : Place) : Option Node :=
  match tree.entries.find? fun entry => entry.1 = place with
  | some entry => some entry.2
  | none => if place.within .workingDirectory then some .directory else none

/-- The names in a directory, in the order in which the tree holds them. -/
def namesIn (tree : FileTree) (dir : Place) : List String :=
  (tree.entries.filterMap fun entry =>
    match entry.1.names.getLast? with
    | some name => if entry.1 = dir.child name then some name else none
    | none => none).eraseDups

/-- Makes every missing directory on the way to a place; what is no directory gives way. -/
def makeParents (tree : FileTree) (place : Place) : FileTree :=
  let ways : List Place := (List.range place.names.length).map fun n => ⟨place.names.take n⟩
  ways.foldl (fun tree dir =>
    if tree.at? dir = some .directory then tree
    else ⟨(tree.entries.filter fun entry => entry.1 ≠ dir) ++ [(dir, .directory)]⟩) tree

/-- A tree without a place and all below it. -/
def remove (tree : FileTree) (place : Place) : FileTree :=
  ⟨tree.entries.filter fun entry => !place.within entry.1⟩

/-- A tree with a node at a place, in the stead of whatever was there. -/
def put (tree : FileTree) (place : Place) (node : Node) : FileTree :=
  ⟨((tree.remove place).makeParents place).entries ++ [(place, node)]⟩

/-- What every host has: the directories of the system, and three device nodes. -/
def hostNodes : List (String × Node) :=
  ["/bin", "/etc", "/home", "/lib", "/proc", "/root", "/sys", "/usr", "/var"].map
    (fun path => (path, Node.directory)) ++
  [("/dev/null", .device 1 3), ("/dev/zero", .device 1 5), ("/dev/full", .device 1 7)]

/-- An empty working directory, on a host with what every host has. -/
def empty : FileTree :=
  hostNodes.foldl (fun tree entry => tree.put (.ofPath entry.1) entry.2) ⟨[]⟩

/-! ## Walking a path -/

/-- Follows components from a directory. The place of the last one may be empty, unless it has
to be a directory. -/
def walk (tree : FileTree) (place : Place) : List String → Except FileFault Place
  | [] => .ok place
  | part :: rest =>
    match tree.at? place with
    | none | some .dangling => .error .notFound
    | some (.file _) | some (.device _ _) => .error .notDirectory
    | some .directory =>
      if part = "." then walk tree place rest
      else if part = ".." then walk tree place.parent rest
      else if Path.longestPart < part.utf8ByteSize then .error .nameTooLong
      else walk tree (place.child part) rest

/-- The place a path leads to, which may be empty. -/
def locate (tree : FileTree) (path : String) : Except FileFault Place := do
  let taken ← Path.read path
  tree.walk taken.start taken.parts

/-- What a path leads to, links followed. -/
def lookup (tree : FileTree) (path : String) : Except FileFault Node := do
  match tree.at? (← tree.locate path) with
  | none | some .dangling => throw .notFound
  | some node => return node

def isDirectory (tree : FileTree) (path : String) : Bool :=
  match tree.lookup path with
  | .ok .directory => true
  | _ => false

/-! ## Reading, writing, listing -/

/-- The content of a file; a character device is empty. -/
def read (tree : FileTree) (path : String) : Except FileFault Bytes := do
  match ← tree.lookup path with
  | .file content => return content
  | .directory => throw .isDirectory
  | _ => return []

/-- The content of a file that holds text. -/
def readText (tree : FileTree) (path : String) : Except FileFault (List Char) := do
  match Text.Utf8.decode? (← tree.read path) with
  | some chars => return chars
  | none => throw .notUtf8

/-- The tree after a file got a new content. The directory of the file must exist; a character
device takes everything, but the full one only nothing, and a link that leads nowhere then leads
to the file. A path with a slash at the end is that of a directory, whether or not there is
one. -/
def write (tree : FileTree) (path : String) (content : Bytes) : Except FileFault FileTree := do
  if path.endsWith "/" then
    let taken ← Path.read path
    let _ ← tree.walk taken.start (taken.parts.dropLast.dropLast ++ ["."])
    throw .isDirectory
  let place ← tree.locate path
  match tree.at? place with
  | some .directory => throw .isDirectory
  | some (.file _) | some .dangling => return tree.put place (.file content)
  | some (.device _ minor) =>
    if minor = 7 ∧ !content.isEmpty then throw .noSpace
    return tree
  | none =>
    match tree.at? place.parent with
    | some .directory => return tree.put place (.file content)
    | some (.file _) | some (.device _ _) => throw .notDirectory
    | _ => throw .notFound

/-- The names in a directory. -/
def list (tree : FileTree) (path : String) : Except FileFault (List String) := do
  let place ← tree.locate path
  match tree.at? place with
  | some .directory => return tree.namesIn place
  | none | some .dangling => throw .notFound
  | _ => throw .notDirectory

end FileTree

end CxlMailbox
