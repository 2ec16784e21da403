import IspDriver.CommandLine.Task

/-!
A folder of files, read by paths that start in it. A path is followed name by name; empty names and
`.` lead nowhere, and `..` leads back.
-/

namespace IspDriver.CommandLine

/-- The names that lead to a file or a folder, the last one in front. -/
abbrev Place : Type :=
  List String

/-- Where one more name leads. Above the folder itself is a place for each `..`. -/
def Place.step (place : Place) (name : String) : Place :=
  if name = "" ∨ name = "." then place
  else if name = ".." then
    match place with
    | [] => [".."]
    | ".." :: above => ".." :: ".." :: above
    | _ :: above => above
  else name :: place

/-- Everything below a folder, in folders of its own or not. -/
structure Folder where
  folders : List Place := []
  /-- Of two files in one place, the one in front is there. -/
  files : List (Place × List UInt8) := []

namespace Folder

/-- The names on a path. A path that ends in `/` names a folder. -/
def names (path : String) : List String :=
  path.splitOn "/"

/-- The places along a path, the last one in front. -/
def places (path : String) : List Place :=
  (names path).foldl (fun passed name => (passed.headD []).step name :: passed) []

/-- The folder with one more file, and with the folders that its path leads through. -/
def withFile (folder : Folder) (path : String) (content : List UInt8) : Folder :=
  match places path with
  | [] => folder
  | place :: passed =>
      { folders := passed ++ folder.folders, files := (place, content) :: folder.files }

def ofFiles (files : List (String × List UInt8)) : Folder :=
  files.foldl (fun folder (path, content) => folder.withFile path content) {}

def hasFolder (folder : Folder) (place : Place) : Bool :=
  place.all (· == "..") || folder.folders.contains place

/-- Follows names from a place. -/
def follow (folder : Folder) : Place → List String → Except FileFault (List UInt8)
  | _, [] => .error (.unreadable "Is a directory (os error 21)")
  | place, name :: rest =>
      let next := place.step name
      if folder.hasFolder next then
        folder.follow next rest
      else
        match folder.files.lookup next with
        | none => .error .missing
        | some content =>
            if rest.isEmpty then .ok content
            else .error (.unreadable "Not a directory (os error 20)")

/-- The file at a path. Outside the folder nothing is known but the root. -/
def read (folder : Folder) (path : String) : Except FileFault (List UInt8) :=
  if path.contains '\x00' then
    .error (.unreadable "file name contained an unexpected NUL byte")
  else if path.startsWith "/" then
    follow {} [] (names path)
  else
    folder.follow [] (names path)

end Folder

end IspDriver.CommandLine
