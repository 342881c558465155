import RobotRules.Text.Quoted

/-! Files that rules are read from. A folder holds texts under relative paths; a
path is followed from the folder part by part. -/

namespace RobotRules

/-- Why a file cannot be read. -/
inductive FileError where
  | notFound
  | notADirectory
  | isADirectory
  | nameTooLong
deriving DecidableEq, Repr

namespace FileError

/-- The class of the error. -/
def className : FileError → Text
  | .notFound => "FileNotFoundError"
  | .notADirectory => "NotADirectoryError"
  | .isADirectory => "IsADirectoryError"
  | .nameTooLong => "OSError"

/-- The number and the words of the operating system for the error. -/
def description : FileError → Text
  | .notFound => "[Errno 2] No such file or directory"
  | .notADirectory => "[Errno 20] Not a directory"
  | .isADirectory => "[Errno 21] Is a directory"
  | .nameTooLong => "[Errno 36] File name too long"

/-- The message of the error for a path. -/
def message (error : FileError) (path : Text) : Text :=
  error.description ++ ": " ++ Text.quoted path

end FileError

/-! Paths. -/

namespace FilePath

/-- The parts of a path; empty ones and single points say nothing. -/
def parts (path : Text) : List Text :=
  (Text.splitOn '/' path).filter fun part => part != [] && part != "."

/-- The slashes at the front of a path that matter: one for an absolute path,
and two if there are exactly two. -/
def root (path : Text) : Text :=
  match (path.takeWhile (· == '/')).length with
  | 0 => []
  | 2 => "//"
  | _ => "/"

/-- The path without what says nothing. -/
def normalize (path : Text) : Text :=
  match root path ++ Text.join "/" (parts path) with
  | [] => "."
  | normal => normal

/-- The longest name of a file, in bytes. -/
def longestName : Nat := 255

/-- The number of bytes of a text in UTF-8. -/
def byteLength (text : Text) : Nat := text.foldl (fun bytes c => bytes + c.utf8Size) 0

example : normalize "./a//b/." = "a/b" ∧ normalize [] = "." := by decide

end FilePath

/-- How the text of a file is found by its path. -/
abbrev Files := Text → Except FileError Text

/-- Files by their paths within a folder. -/
abbrev Folder := List (Text × Text)

namespace Folder

/-- What is found at a place. -/
inductive Place where
  | file (text : Text)
  | directory

/-- What a path of parts from the folder leads to, if anything. -/
def place? (folder : Folder) (parts : List Text) : Option Place :=
  match folder.find? fun file => FilePath.parts file.1 == parts with
  | some (_, text) => some (.file text)
  | none =>
    if folder.any fun file => parts.isPrefixOf (FilePath.parts file.1) then
      some .directory
    else if parts.isEmpty then some .directory
    else none

/-- Follows the rest of a path from a place that was reached on the parts
`reached`, given from the last to the first. -/
def follow (folder : Folder) (reached : List Text) :
    List Text → Except FileError Place
  | [] =>
    match folder.place? reached.reverse with
    | some place => .ok place
    | none => .error .notFound
  | part :: rest =>
    match folder.place? reached.reverse with
    | none => .error .notFound
    | some (.file _) => .error .notADirectory
    | some .directory =>
      if part = ".." then
        match reached with
        | [] => .error .notFound
        | _ :: above => follow folder above rest
      else if FilePath.byteLength part > FilePath.longestName then
        .error .nameTooLong
      else follow folder (part :: reached) rest

/-- The text of a file, its lines ended by line feeds. Of absolute paths, only
the root is known. -/
def read (folder : Folder) (path : Text) : Except FileError Text :=
  let parts := FilePath.parts path
  if FilePath.root path ≠ [] then
    if parts.isEmpty then .error .isADirectory else .error .notFound
  else
    match folder.follow [] parts with
    | .error error => .error error
    | .ok .directory => .error .isADirectory
    | .ok (.file text) => .ok (Text.normalizeLines text)

example : read [("r.txt", "x")] "./r.txt" = .ok "x" := by rfl
example : read [("r.txt", "x")] "r.txt/y" = .error .notADirectory := by rfl

end Folder

end RobotRules
