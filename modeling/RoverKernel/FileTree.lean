/-!
# The files of a working directory

The daemon reads its configuration from a path relative to its working directory.  A
`FileTree` lists the files below that directory with their text; its directories are the
working directory itself and every directory that holds a file.

`FileTree.resolve` follows a path as the operating system does, one component at a time:
`.` and empty components stay, `..` goes up, a name goes down, and going on from a file is
`notDirectory`.  Nothing is known about what lies above the working directory, so that is a
directory without entries.  An absolute path starts at the root of the system, which holds
the usual top-level directories (`FileTree.systemDirs`) and one file that can be read, the
empty device `/dev/null`.  Reading a directory is `isDirectory`; a path that names nothing
is `notFound`, and so is the empty path.

`FileAccess` is what reading a configuration needs of a file system: the text at a path or
the error.  A tree gives one (`FileTree.access`), and so does the operating system.
-/

namespace RoverKernel

/-- why a file could not be read -/
inductive IoError where
  /-- nothing has that name -/
  | notFound
  /-- the path names a directory -/
  | isDirectory
  /-- a component before the last names a file -/
  | notDirectory
deriving DecidableEq, Repr

/-- the operating system's description of the error, with its number -/
def IoError.message : IoError → String
  | .notFound => "No such file or directory (os error 2)"
  | .isDirectory => "Is a directory (os error 21)"
  | .notDirectory => "Not a directory (os error 20)"

/-- files below the working directory: the components of each path, and its text -/
structure FileTree where
  /-- path components and text of every file -/
  files : List (List String × String)
deriving DecidableEq, Repr, Inhabited

/-- what a path leads to -/
inductive FileNode where
  /-- a directory below the working directory, by its components -/
  | dir (path : List String)
  /-- a file, with its text -/
  | file (text : String)
  /-- a directory above the working directory, whose entries are unknown -/
  | outside
  /-- a directory of the system, by its components from the root -/
  | system (path : List String)
deriving DecidableEq, Repr

namespace FileTree

/-- the components of a relative path, without empty and `.` components -/
def components (path : String) : List String :=
  (path.splitOn "/").filter fun c => c ≠ "" ∧ c ≠ "."

/-- the tree holding the given files, named by relative paths -/
def ofList (entries : List (String × String)) : FileTree :=
  ⟨entries.map fun (p, text) => (components p, text)⟩

/-- whether `p` is the working directory or holds a file -/
def isDir (t : FileTree) (p : List String) : Bool :=
  p.isEmpty || t.files.any fun (q, _) => p.length < q.length && q.take p.length == p

/-- the directories of the system from the root: the root and its usual top level -/
def systemDirs : List (List String) :=
  [] :: (["bin", "boot", "dev", "etc", "home", "lib", "media", "mnt", "opt", "proc", "root",
    "run", "sbin", "srv", "sys", "tmp", "usr", "var"].map fun d => [d])

/-- the files of the system that can be read, with their text: the empty device -/
def systemFiles : List (List String × String) := [(["dev", "null"], "")]

/-- one component of a path, from the node reached so far -/
def step (t : FileTree) (n : FileNode) (c : String) : Except IoError FileNode :=
  match n with
  | .file _ => .error .notDirectory
  | .dir p =>
    if c = "" ∨ c = "." then .ok n
    else if c = ".." then .ok (if p.isEmpty then .outside else .dir p.dropLast)
    else
      match t.files.lookup (p ++ [c]) with
      | some text => .ok (.file text)
      | none => if t.isDir (p ++ [c]) then .ok (.dir (p ++ [c])) else .error .notFound
  | .outside => if c = "" ∨ c = "." ∨ c = ".." then .ok .outside else .error .notFound
  | .system p =>
    if c = "" ∨ c = "." then .ok n
    else if c = ".." then .ok (.system p.dropLast)
    else
      match systemFiles.lookup (p ++ [c]) with
      | some text => .ok (.file text)
      | none => if systemDirs.contains (p ++ [c]) then .ok (.system (p ++ [c])) else .error .notFound

/-- what a path leads to -/
def resolve (t : FileTree) (path : String) : Except IoError FileNode :=
  if path.isEmpty then .error .notFound
  else
    let parts := path.splitOn "/"
    if path.startsWith "/" then parts.drop 1 |>.foldlM (t.step) (.system [])
    else parts.foldlM (t.step) (.dir [])

/-- the text of the file at `path` -/
def readText (t : FileTree) (path : String) : Except IoError String :=
  match t.resolve path with
  | .ok (.file text) => .ok text
  | .ok _ => .error .isDirectory
  | .error e => .error e

end FileTree

/-- reading files by path: the text of a file, or why it cannot be read -/
structure FileAccess where
  /-- the text of the file at a path -/
  readText : String → Except IoError String

namespace FileAccess

/-- whether a path leads to something: a file that can be read, or a directory -/
def pathExists (a : FileAccess) (path : String) : Bool :=
  match a.readText path with
  | .ok _ | .error .isDirectory => true
  | .error _ => false

end FileAccess

/-- access to the files of a tree -/
def FileTree.access (t : FileTree) : FileAccess := ⟨t.readText⟩

end RoverKernel
