/-!
# Files

What stands at a path, or why nothing can be said of it, and what git says of the
changes in a directory.  `Files` is the whole of what a command sees of the disk;
where the answers come from, the disk itself or a tree in memory, is up to the one
who supplies them.
-/

namespace PushGoals

inductive FileError where
  | notFound
  /-- Something on the way to the path is no directory. -/
  | notADirectory
  /-- The content of a directory was asked for. -/
  | isADirectory
  | nameTooLong
  | nulInName
  | other (text : String)
deriving DecidableEq, Repr

def FileError.message : FileError → String
  | .notFound => "No such file or directory (os error 2)"
  | .notADirectory => "Not a directory (os error 20)"
  | .isADirectory => "Is a directory (os error 21)"
  | .nameTooLong => "File name too long (os error 36)"
  | .nulInName => "file name contained an unexpected NUL byte"
  | .other text => text

inductive FileEntry where
  | file (content : String)
  | directory
deriving DecidableEq, Repr

/-- How a command of the system ended, and the texts that it wrote; what is no UTF-8 in
them is replaced. -/
structure CommandOutput where
  /-- There is no status where a signal has ended the command. -/
  status : Option Int
  output : String
  errors : String
deriving DecidableEq, Repr

namespace CommandOutput

def succeeded (r : CommandOutput) : Bool := r.status == some 0

end CommandOutput

structure Files where
  look : String → Except FileError FileEntry
  /-- What `git diff --name-only` comes to in a directory, from a commit to the head, or
  why it cannot be run. -/
  diff : String → String → Except FileError CommandOutput := fun _ _ => .error .notFound

def Files.read (files : Files) (path : String) : Except FileError String :=
  match files.look path with
  | .ok (.file content) => .ok content
  | .ok .directory => .error .isADirectory
  | .error e => .error e

/-! ## Paths -/

namespace Path

/-- The names of a path from left to right, `current` before the first of them
backwards.  Between two slashes in a row stands the empty name. -/
def namesFrom (current : List Char) : List Char → List String
  | [] => [String.ofList current.reverse]
  | c :: rest =>
      if c == '/' then String.ofList current.reverse :: namesFrom [] rest
      else namesFrom (c :: current) rest

def names (path : String) : List String := namesFrom [] path.toList

/-- Does the path start at the root of the disk? -/
def isAbsolute (path : String) : Bool := path.toList.head? == some '/'

/-- A path that stays below the place where it starts. -/
def staysBelow (path : String) : Bool := !isAbsolute path && !(names path).contains ".."

/-- The path from the directory `root`.  A path from the root of the disk stands for itself. -/
def join (root path : String) : String :=
  if isAbsolute path then path
  else if root.isEmpty || root.toList.getLast? == some '/' then root ++ path
  else root ++ "/" ++ path

end Path

end PushGoals
