import Switchboard.Store.Basic
import Switchboard.System.Error

/-!
Opening a store that is kept in a database file. The folders above the file are created; an empty file
is a new database, and any other file has to begin like one.
-/

namespace Switchboard

inductive Node
  | folder
  | file (content : List UInt8)
  deriving DecidableEq, Repr

/-- A tree of files; a path is the list of its parts. -/
structure FileTree where
  nodes : List (List String × Node) := []
  deriving DecidableEq, Repr

namespace FileTree

/-- What stands at a path; the root is a folder. -/
def node? (t : FileTree) (path : List String) : Option Node :=
  if path.isEmpty then some .folder else t.nodes.lookup path

/-- Creates the folders of a path below one that exists, part by part. -/
def createFolders (t : FileTree) (above : List String) : List String → Except SystemError FileTree
  | [] => .ok t
  | part :: rest =>
    let path := above ++ [part]
    match t.node? path with
    | none => createFolders ⟨(path, .folder) :: t.nodes⟩ path rest
    | some .folder => createFolders t path rest
    | some (.file _) => .error (if rest.isEmpty then .fileExists else .notDirectory)

end FileTree

namespace Store

/-- The magic bytes at the start of a database file. -/
def databaseMagic : List UInt8 :=
  "SQLite format 3".toUTF8.toList ++ [0]

/-- Tells whether a file begins like a database: with the magic bytes and, from byte 21 on, the three
payload fractions that every database has. -/
def isDatabase (content : List UInt8) : Bool :=
  databaseMagic.isPrefixOf content && (content.drop 21).take 3 == [64, 32, 32]

/-- Opens the database file at a path that is shown as `name`. -/
def openDatabase (t : FileTree) (path : List String) (name : String) : Except StoreError FileTree :=
  match t.createFolders [] path.dropLast with
  | .error e => .error (.io e.message)
  | .ok t =>
    match t.node? path with
    | some .folder => .error (.database ("unable to open database file: " ++ name))
    | none => .ok ⟨(path, .file []) :: t.nodes⟩
    | some (.file content) =>
      if content.isEmpty || isDatabase content then .ok t
      else .error (.database "file is not a database")

end Store

end Switchboard
