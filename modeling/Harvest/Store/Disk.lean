import Harvest.Text.Utf8
/-!
# Disks

What is at each path of a disk without links: folders, and files with their bytes.  Folders are made one below the
other, and a file is written only into a folder that is there.  What the disk is kept on may fail for reasons of its own
(`Device`): it may make no folder, open no file, or give out in the middle of a write, and then the file holds a head of
what was to be written and nothing of what it held before.
-/
namespace Harvest.Store

/-- What is at a path. -/
inductive Entry where
  | folder
  | file (bytes : List UInt8)
  deriving DecidableEq, Repr

/-- The names on the way from the top of a disk. -/
abbrev Path := List String

/-- A disk.  The top is a folder. -/
structure Disk where
  entries : List (Path × Entry)
  deriving DecidableEq, Repr

/-- What a disk is kept on.  What it does may depend on the path as it is written, on what is on the disk, and on where
to; that nobody else writes to the disk is taken for granted. -/
structure Device where
  /-- Is a missing folder made there? -/
  makes : String → Disk → Path → Bool
  /-- Is a file opened there for writing? -/
  opens : String → Disk → Path → Bool
  /-- How many bytes are taken of those that are written there? -/
  takes : String → Disk → Path → List UInt8 → Nat
  /-- What is said of a failure. -/
  reason : String → Disk → Path → String

namespace Device

/-- The device gives out in the middle of no write. -/
def Lasting (dev : Device) : Prop := ∀ shown d path bytes, bytes.length ≤ dev.takes shown d path bytes

/-- The device that does all that is asked of it; `what` it says of what the disk itself does not allow. -/
def ideal (what : String) : Device :=
  ⟨fun _ _ _ => true, fun _ _ _ => true, fun _ _ _ bytes => bytes.length, fun _ _ _ => what⟩

end Device

namespace Disk

/-- The disk with folders only on the way to a path. -/
def withFolder (path : Path) : Disk := ⟨(List.range path.length).map fun n => (path.take (n + 1), .folder)⟩

def find? (d : Disk) (path : Path) : Option Entry := if path.isEmpty then some .folder else d.entries.lookup path

/-- Puts something at a path, in place of what is there. -/
def put (d : Disk) (path : Path) (e : Entry) : Disk :=
  ⟨d.entries.filter (fun p => p.1 != path) ++ [(path, e)]⟩

/-- Can a name be that of an entry: does it fit into 255 bytes? -/
def isShort (name : String) : Bool := (Text.Utf8.ofString name).length ≤ 255

def isSound (path : Path) : Bool := path.all fun name => name.toList.all fun c => c.toNat != 0

variable (dev : Device) (shown : String)

/-- Makes the folders that are missing on the way from `base`, up to the first that cannot be made; says whether all
are there. -/
def makeFrom (d : Disk) (base : Path) : List String → Bool × Disk
  | [] => (true, d)
  | name :: names =>
    let path := base ++ [name]
    match d.find? path with
    | some .folder => d.makeFrom path names
    | some (.file _) => (false, d)
    | none =>
      if isShort name && dev.makes shown d path then (d.put path .folder).makeFrom path names else (false, d)

/-- Makes a folder with those that it is in. -/
def makeFolder (d : Disk) (path : Path) : Bool × Disk :=
  if isSound path then d.makeFrom dev shown [] path else (false, d)

/-- Can a file be opened for writing: is it in a folder that is there, and is there no folder of that name? -/
def isOpen (d : Disk) (path : Path) : Bool :=
  match path.getLast? with
  | none => false
  | some name =>
    d.find? path.dropLast == some .folder && d.find? path != some .folder && isShort name && isSound path
      && dev.opens shown d path

/-- Writes a file, in place of a file of that name, as far as the device takes its bytes; says whether it takes all. -/
def write (d : Disk) (path : Path) (bytes : List UInt8) : Bool × Disk :=
  if d.isOpen dev shown path then
    let taken := dev.takes shown d path bytes
    (bytes.length ≤ taken, d.put path (.file (bytes.take taken)))
  else (false, d)

/-- What is below a path, by the names from there on. -/
def below (d : Disk) (path : Path) : List (Path × Entry) :=
  d.entries.filterMap fun p =>
    if path.isPrefixOf p.1 && p.1 != path then some (p.1.drop path.length, p.2) else none

end Disk

end Harvest.Store
