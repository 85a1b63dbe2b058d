import TopicRouting.Error

/-! A folder of text files, by name. A name leads level by level through folders, which exist
if they hold a file; it may also lead out of the folder, where no files are known. -/
namespace TopicRouting

abbrev Path := List Text

structure Folder where
  files : List (Path × Text) := []

namespace Folder

def withLineFeeds : Text → Text
  | '\r' :: '\n' :: rest => '\n' :: withLineFeeds rest
  | '\r' :: rest => '\n' :: withLineFeeds rest
  | c :: rest => c :: withLineFeeds rest
  | [] => []

inductive Place where
  | file (path : Path) (text : Text)
  | folder (path : Path)
  | free (path : Path)
  | noFolder (isFile : Bool)
  | nowhere
  | blocked
  | tooLong

def up : Text := ".."

def isFolder (f : Folder) (path : Path) : Bool :=
  path.all (· == up) || f.files.any fun file => path.isPrefixOf file.1 && path != file.1

def standing (f : Folder) (path : Path) : Place :=
  if f.isFolder path then .folder path
  else match f.files.find? (·.1 == path) with
    | some (_, text) => .file path text
    | none => .free path

def longestLevel : Nat := 255

def descend (f : Folder) (place : Place) (level : Text) : Place :=
  match place with
  | .folder path =>
      if level.isEmpty || level == ".".toList then .folder path
      else if level == up then
        .folder (if path.all (· == up) then path ++ [up] else path.dropLast)
      else if longestLevel < level.foldr (fun c n => c.utf8Size + n) 0 then .tooLong
      else f.standing (path ++ [level])
  | .file .. => if level.isEmpty then .noFolder true else .blocked
  | .free _ => if level.isEmpty then .noFolder false else .nowhere
  | .noFolder isFile =>
      if level.isEmpty then .noFolder isFile else if isFile then .blocked else .nowhere
  | place => place

def locate (f : Folder) (name : Text) : Place :=
  if name.isEmpty then .nowhere else (List.splitOn '/' name).foldl f.descend (.folder [])

def read (f : Folder) (name : Text) : Except Error (Option Text) :=
  match f.locate name with
  | .file _ text => .ok (some (withLineFeeds text))
  | .folder _ => .error (.plain .isFolder [])
  | _ => .ok none

def put (path : Path) (text : Text) : List (Path × Text) → List (Path × Text)
  | [] => [(path, text)]
  | (p, t) :: rest => if p = path then (p, text) :: rest else (p, t) :: put path text rest

def write (f : Folder) (name text : Text) : Except Error Folder :=
  if name.contains '\x00' then .error (.value (.other "embedded null byte"))
  else match f.locate name with
    | .file path _ | .free path => .ok ⟨put path text f.files⟩
    | .folder _ | .noFolder _ => .error (.plain .isFolder [])
    | .nowhere => .error (.plain .fileNotFound [])
    | .blocked => .error (.plain .notFolder [])
    | .tooLong => .error (.plain (.other "OSError") [])

def ofFiles (files : List (Text × Text)) : Folder :=
  ⟨files.foldl (fun known (name, text) =>
    put ((List.splitOn '/' name).filter fun level => !level.isEmpty && level != ['.']) text known) []⟩

end Folder
end TopicRouting
