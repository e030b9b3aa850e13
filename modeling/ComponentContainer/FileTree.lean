/-! Paths, and a tree of files and directories in which directories are created. -/

namespace ComponentContainer

namespace Path

def pieces : List Char → List (List Char)
  | [] => [[]]
  | c :: s =>
    if c = '/' then [] :: pieces s
    else match pieces s with
      | p :: ps => (c :: p) :: ps
      | [] => [[c]]

def steps (path : String) : List String :=
  ((pieces path.toList).map String.ofList).filter (· ≠ "")

def components (path : String) : List String := (steps path).filter (· ≠ ".")

def shortened : List String → List (List String)
  | [] | [_] => []
  | c :: d :: rest => (shortened (d :: rest)).map (c :: ·) ++ [[c]]

def ancestors (path : String) : List (List String) := steps path :: shortened (components path)

def maxBytes : Nat := 4095

def isTooLong (path : String) : Bool := maxBytes < path.utf8ByteSize

def isAbsolute (path : String) : Bool := path.toList.head? = some '/'

def same (a b : String) : Bool := components a = components b

end Path

inductive FileError
  | notFound
  | alreadyExists
  | notDirectory
  | nameTooLong
  | nulInName
  | other (message : String)
  deriving DecidableEq

def FileError.message : FileError → String
  | notFound => "No such file or directory (os error 2)"
  | alreadyExists => "File exists (os error 17)"
  | notDirectory => "Not a directory (os error 20)"
  | nameTooLong => "File name too long (os error 36)"
  | nulInName => "file name contained an unexpected NUL byte"
  | other m => m

/-- What lies in a file system beside its root, each by the names that lead to it, and the place
of the directory that relative paths start from. -/
structure FileTree where
  directories : List (List String)
  files : List (List String)
  working : List String
  deriving DecidableEq

namespace FileTree

def isDirectoryAt (t : FileTree) (place : List String) : Bool :=
  place.isEmpty || t.directories.contains place

def isFileAt (t : FileTree) (place : List String) : Bool := t.files.contains place

def start (t : FileTree) (path : String) : List String :=
  if Path.isAbsolute path then [] else t.working

def maxNameBytes : Nat := 255

def follow (t : FileTree) (place : List String) : List String → Except FileError (List String)
  | [] => .ok place
  | c :: rest =>
    if c = "." then t.follow place rest
    else if c = ".." then t.follow place.dropLast rest
    else if maxNameBytes < c.utf8ByteSize then .error .nameTooLong
    else if t.isDirectoryAt (place ++ [c]) then t.follow (place ++ [c]) rest
    else if t.isFileAt (place ++ [c]) then .error .notDirectory
    else .error .notFound

def isDirectory (t : FileTree) (path : List String) : Bool := (t.follow [] path).isOk

def locate (t : FileTree) (path : List String) : Except FileError (List String) :=
  match path.getLast? with
  | none | some "." | some ".." => t.follow [] path
  | some c => do
    let parent ← t.follow [] path.dropLast
    if maxNameBytes < c.utf8ByteSize then .error .nameTooLong
    .ok (parent ++ [c])

def makeDirectory (t : FileTree) (path : List String) : Except FileError FileTree := do
  let place ← t.locate path
  if t.isDirectoryAt place || t.isFileAt place then .error .alreadyExists
  .ok { t with directories := t.directories ++ [place] }

def makeEach (t : FileTree) : List (List String) → Except FileError Unit × FileTree
  | [] => (.ok (), t)
  | path :: rest =>
    match t.makeDirectory path with
    | .ok t' => t'.makeEach rest
    | .error e =>
      if e = .alreadyExists && t.isDirectory path then t.makeEach rest else (.error e, t)

/-- Creates the first directory of these paths, going from one to the next while what is above it
is missing, and then those of the paths passed by, which `below` holds. -/
def makeUpwards (t : FileTree) (below : List (List String)) :
    List (List String) → Except FileError Unit × FileTree
  | [] => t.makeEach below
  | path :: above =>
    match t.makeDirectory path with
    | .ok t' => t'.makeEach below
    | .error .notFound => t.makeUpwards (path :: below) above
    | .error e =>
      if e = .alreadyExists && t.isDirectory path then t.makeEach below else (.error e, t)

def makeDirectories (t : FileTree) (path : String) : Except FileError Unit × FileTree :=
  if path.toList.contains '\x00' then (.error .nulInName, t)
  else if Path.components path = [] then (.ok (), t)
  else if Path.isTooLong path then (.error .nameTooLong, t)
  else t.makeUpwards [] ((Path.ancestors path).map (t.start path ++ ·))

def hasDirectory (t : FileTree) (path : String) : Bool :=
  path ≠ "" && !Path.isTooLong path && t.isDirectory (t.start path ++ Path.steps path)

def makeFile (t : FileTree) (path : String) : FileTree :=
  if Path.isTooLong path || path.toList.getLast? = some '/' then t
  else
    match t.locate (t.start path ++ Path.steps path) with
    | .ok place =>
      if t.isDirectoryAt place || t.isFileAt place then t
      else { t with files := t.files ++ [place] }
    | .error _ => t

end FileTree

end ComponentContainer
