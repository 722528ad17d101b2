import Harvest.Error
import Harvest.Store.Disk
import Harvest.Text.Find
/-!
# Storing files below a folder

A path is taken from the folder on, whether it starts with a slash or not, and must not lead out of it.  The answer is
the path as it was written behind that of the folder; the file is where its names lead.
-/
namespace Harvest.Store

/-- A folder that files are stored in: where it is, and how its path is written. -/
structure Folder where
  path : Path
  shown : String
  deriving DecidableEq, Repr

namespace Folder

/-- A path without the slashes that it starts with. -/
def relative (path : String) : List Char := path.toList.dropWhile (· == '/')

/-- The segments of a path between slashes. -/
def segments (path : String) : List String := (Text.splitAt '/' (relative path)).map String.ofList

/-- The names that the segments of a path stand for; empty ones and single dots stand for none. -/
def names (segments : List String) : List String := segments.filter fun s => !s.isEmpty && s != "."

/-- Does a path lead out of the folder at some point? -/
def escapes (path : String) : Bool := (segments path).contains ".."

/-- Does a path end in a name, and not in a slash or a dot? -/
def endsInName (path : String) : Bool := (segments path).getLast?.any fun s => !s.isEmpty && s != "."

/-- Where the names of a path lead to from the folder. -/
def target (f : Folder) (path : String) : Path := f.path ++ names (segments path)

/-- The folder that a path's last name is in. -/
def parent (f : Folder) (path : String) : Path := f.path ++ (names (segments path)).dropLast

/-- A path as it is written from the folder on: behind that of the folder, and behind a slash unless that ends in one
or is empty. -/
def answer (f : Folder) (path : String) : String :=
  if f.shown.toList.getLast?.any (· != '/') then f.shown ++ "/" ++ String.ofList (relative path)
  else f.shown ++ String.ofList (relative path)

/-- Writes bytes to a path below the folder, and makes the folders on the way. -/
def store (dev : Device) (f : Folder) (bytes : List UInt8) (path : String) (d : Disk) :
    Except FilterError String × Disk :=
  if escapes path then (.error (.invalidParams (.escapingPath path)), d)
  else
    let shown := f.answer path
    let failed : FilterError :=
      .external ("Failed to write " ++ shown ++ ": " ++ dev.reason shown d (f.target path))
    match d.makeFolder dev shown (f.parent path) with
    | (false, d) => (.error failed, d)
    | (true, d) =>
      match if endsInName path then d.write dev shown (f.target path) bytes else (false, d) with
      | (true, d) => (.ok shown, d)
      | (false, d) => (.error failed, d)

end Folder

end Harvest.Store
