import Switchboard.System.Error
import Switchboard.Association

/-!
A folder of files, as far as reading, writing, renaming and removing by name go. The folder itself may
be missing; a name longer than 255 bytes is refused.
-/

namespace Switchboard

inductive FolderEntry
  | file (content : List UInt8)
  | folder
  deriving DecidableEq, Repr

/-- A folder: what stands under each name, or nothing while it is missing. -/
structure Folder where
  entries? : Option (List (String × FolderEntry))
  deriving DecidableEq, Repr

namespace Folder

/-- The longest name in bytes. -/
def longestName : Nat := 255

/-- A folder without entries. -/
def empty : Folder := ⟨some []⟩

/-- The folder that is not there. -/
def missing : Folder := ⟨none⟩

/-- The entries of a folder; a missing one has none. -/
def entries (f : Folder) : List (String × FolderEntry) :=
  f.entries?.getD []

/-- What stands under a name, once the name can be looked up. -/
def lookup (f : Folder) (name : String) : Except SystemError (Option FolderEntry) :=
  if longestName < name.utf8ByteSize then
    if f.entries?.isSome then .error .nameTooLong else .error .noSuchFile
  else .ok (f.entries.lookup name)

def erase (f : Folder) (name : String) : Folder :=
  ⟨f.entries?.map (Association.erase name)⟩

def put (f : Folder) (name : String) (entry : FolderEntry) : Folder :=
  ⟨f.entries?.map (Association.put name entry)⟩

/-- Creates the folder if it is missing. -/
def create (f : Folder) : Folder :=
  ⟨some f.entries⟩

def read (f : Folder) (name : String) : Except SystemError (List UInt8) :=
  match f.lookup name with
  | .error e => .error e
  | .ok none => .error .noSuchFile
  | .ok (some .folder) => .error .isDirectory
  | .ok (some (.file content)) => .ok content

/-- Writes a file, replacing what it held. -/
def write (f : Folder) (name : String) (content : List UInt8) : Except SystemError Folder :=
  match f.lookup name, f.entries? with
  | .error e, _ => .error e
  | _, none => .error .noSuchFile
  | .ok (some .folder), _ => .error .isDirectory
  | .ok _, some _ => .ok (f.put name (.file content))

/-- Gives a file another name, replacing the file that had it. -/
def rename (f : Folder) (source target : String) : Except SystemError Folder :=
  match f.lookup source, f.lookup target with
  | .error e, _ => .error e
  | _, .error e => .error e
  | .ok none, _ => .error .noSuchFile
  | .ok (some _), .ok (some .folder) => .error .isDirectory
  | .ok (some entry), .ok _ => .ok ((f.erase source).put target entry)

def remove (f : Folder) (name : String) : Except SystemError Folder :=
  match f.lookup name with
  | .error e => .error e
  | .ok none => .error .noSuchFile
  | .ok (some .folder) => .error .isDirectory
  | .ok (some (.file _)) => .ok (f.erase name)

end Folder

end Switchboard
