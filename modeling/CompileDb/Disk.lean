import CompileDb.Path
import CompileDb.Text.Stored

/-!
# Disks

A disk answers what is to be found at a path. The program never writes, so a disk does not change.

An `Item` says whether something is there, whether it is a regular file or a directory, and what
reading it gives. Reading can fail where looking does not, and what is neither a file nor a directory,
such as a device, may be readable. Permissions and links show in what is found and nowhere else.

`Tree` is a disk held in memory: the working directory with its files and directories. Its paths
are followed part by part, `..` leading to the directory from which the present one was entered.
-/

namespace CompileDb

/-- What reading gives. -/
inductive Contents where
  | bytes (bytes : List UInt8)
  /-- The system does not let read, and says why. -/
  | refused (reason : Text)
  deriving DecidableEq

/-- What is found at a path. -/
inductive Item where
  /-- Nothing. -/
  | absent
  | directory
  /-- A regular file. -/
  | file (contents : Contents)
  /-- Neither a regular file nor a directory. -/
  | special (contents : Contents)
  /-- The file system refuses to look: a name is too long, or a directory on the way is closed. -/
  | outOfReach
  deriving DecidableEq

/-- What there is on a file system. -/
structure Disk where
  /-- What is found at a path. -/
  look : Path → Item

/-- A file, a directory with its entries, or something else. -/
inductive Tree where
  | file (contents : Contents)
  | special (contents : Contents)
  | directory (entries : List (Text × Tree))

namespace Tree

def empty : Tree := directory []

/-- The entries of a directory; anything else has none. -/
def entries : Tree → List (Text × Tree)
  | directory entries => entries
  | file _ | special _ => []

def entry? (tree : Tree) (name : Text) : Option Tree := tree.entries.lookup name

/-- The tree with an entry in place of what was there under its name. -/
def setEntry (tree : Tree) (name : Text) (entry : Tree) : Tree :=
  directory ((name, entry) :: tree.entries.filter fun e => e.1 != name)

/-- The tree with `item` at the end of the given parts; directories on the way are made. -/
def put (item : Tree) : List Text → Tree → Tree
  | [], _ => item
  | name :: rest, tree => tree.setEntry name (put item rest ((tree.entry? name).getD empty))

/-- The tree with a file. -/
def putFile (tree : Tree) (path : Path) (bytes : List UInt8) : Tree :=
  put (file (.bytes bytes)) path.parts tree

/-- The tree with a directory, which stays as it is when it is there. -/
def putDirectory (tree : Tree) (path : Path) : Tree :=
  go path.parts tree
where
  /-- Makes the directories of the given parts. -/
  go : List Text → Tree → Tree
    | [], tree => tree
    | name :: rest, tree => tree.setEntry name (go rest ((tree.entry? name).getD empty))

/-- The greatest number of bytes in a name. -/
def maxNameBytes : Nat := 255

/-- The greatest number of bytes in a path. -/
def maxPathBytes : Nat := 4095

/-- Whether something can be stored under a path at all. -/
def canBeStored (path : Path) : Bool :=
  !path.text.contains Text.nul && (Text.storedSize? path.text).isSome

/-- What is found from `here` on; `above` are the directories from which it was entered. Nothing
is known of what lies above the last of them. -/
def follow (here : Tree) (above : List Tree) : List Text → Item
  | [] =>
    match here with
    | file contents => .file contents
    | special contents => .special contents
    | directory _ => .directory
  | name :: rest =>
    match here with
    | file _ | special _ => .absent
    | directory entries =>
      if name = ".." then
        match above with
        | [] => follow empty [] rest
        | parent :: above => follow parent above rest
      else if Text.isLonger maxNameBytes name then .outOfReach
      else
        match entries.lookup name with
        | none => .absent
        | some next => follow next (directory entries :: above) rest

/-- What is found at a path, seen from a working directory. Outside of it nothing is known but what
lies below `root`, and that only for paths with an anchor. -/
def look (tree root : Tree) (path : Path) : Item :=
  if !canBeStored path then .absent
  else if Text.isLonger maxPathBytes path.text then .outOfReach
  else if path.isAbsolute then follow root [] path.parts
  else follow tree [] path.parts

/-- The disk of a working directory on a system with the given root. -/
def disk (tree : Tree) (root : Tree := empty) : Disk := ⟨tree.look root⟩

end Tree

end CompileDb
