import PushGoals.Files.Basic

/-!
# File trees

Files and directories held in memory.  A path is followed name by name from the
root of the tree: every name but the last must lead to a directory, a point stays
where it is, two points go back, and what the tree does not hold is not found.
-/

namespace PushGoals

inductive FileTree where
  | file (content : String)
  | directory (entries : List (String × FileTree))
deriving Repr, Inhabited

namespace FileTree

def empty : FileTree := .directory []

def entries : FileTree → List (String × FileTree)
  | .file _ => []
  | .directory entries => entries

def toEntry : FileTree → FileEntry
  | .file content => .file content
  | .directory _ => .directory

/-- The entries with another tree under `name`. -/
def putEntry (name : String) (tree : FileTree) :
    List (String × FileTree) → List (String × FileTree)
  | [] => [(name, tree)]
  | (n, t) :: rest => if n == name then (n, tree) :: rest else (n, t) :: putEntry name tree rest

/-- What stands at a place after a file, or a directory where there is no content,
has been put at a path from it.  Directories on the way are made. -/
def place (content : Option String) : List String → Option FileTree → FileTree
  | [], old =>
      match content with
      | some text => .file text
      | none => old.getD empty
  | name :: path, old =>
      let entries := (old.map FileTree.entries).getD []
      .directory (putEntry name (place content path (entries.lookup name)) entries)

def put (tree : FileTree) (path : String) (content : Option String) : FileTree :=
  place content ((Path.names path).filter (fun n => !n.isEmpty && n != ".")) (some tree)

def ofList (files : List (String × Option String)) : FileTree :=
  files.foldl (fun tree f => tree.put f.1 f.2) empty

/-- The most bytes of a name. -/
def maxName : Nat := 255

/-- The most bytes of a path. -/
def maxPath : Nat := 4095

/-- Follow names from `here`; `above` are the directories that lead there, the
nearest first. -/
def follow (above : List FileTree) (here : FileTree) : List String → Except FileError FileTree
  | [] => .ok here
  | name :: rest =>
      match here with
      | .file _ => .error .notADirectory
      | .directory entries =>
          if name.isEmpty || name == "." then follow above here rest
          else if name == ".." then
            match above with
            | [] => .error .notFound
            | parent :: others => follow others parent rest
          else if name.utf8ByteSize > maxName then .error .nameTooLong
          else
            match entries.lookup name with
            | none => .error .notFound
            | some next => follow (here :: above) next rest

/-- What stands at a path of the tree. -/
def look (tree : FileTree) (path : String) : Except FileError FileEntry :=
  if path.toList.contains '\x00' then .error .nulInName
  else if path.utf8ByteSize > maxPath then .error .nameTooLong
  else if path.isEmpty || Path.isAbsolute path then .error .notFound
  else (follow [] tree (Path.names path)).map toEntry

/-- The tree as all that is seen of a disk, on which there is no git. -/
def files (tree : FileTree) : Files := { look := tree.look }

end FileTree

end PushGoals
