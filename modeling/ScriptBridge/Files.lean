/-!
# Files as the host sees them

The host reads script and configuration files by path. What a read gives is one of five
outcomes: the text, no such file, a directory, a path that goes on from a file, or bytes that are
not UTF-8. The library takes the file system as a function from paths to these outcomes, so that
reading is a pure function of it.

A `FileTree` is such a file system given by its files and directories. A path is walked name by
name from the root, or from the working directory when it is relative: `.` and an empty name
stay, `..` goes to the parent, and each step must start from a directory that exists.
-/

namespace ScriptBridge

/-- What reading a path gives. -/
inductive FileRead where
  | text (contents : String)
  | missing
  | directory
  | notDirectory
  | notUtf8
  deriving Repr, BEq, Inhabited

/-- A read-only file system. -/
abbrev Files := String → FileRead

def Files.none : Files := fun _ => .missing

/-- Why a read failed. -/
inductive IoCause where
  | notFound
  | isDirectory
  | notADirectory
  | invalidUtf8
  deriving Repr, BEq, Inhabited

def IoCause.text : IoCause → String
  | .notFound => "No such file or directory (os error 2)"
  | .isDirectory => "Is a directory (os error 21)"
  | .notADirectory => "Not a directory (os error 20)"
  | .invalidUtf8 => "stream did not contain valid UTF-8"

def Files.readText (fs : Files) (path : String) : Except IoCause String :=
  match fs path with
  | .text s => .ok s
  | .missing => .error .notFound
  | .directory => .error .isDirectory
  | .notDirectory => .error .notADirectory
  | .notUtf8 => .error .invalidUtf8

/-- A file system given by its files, with what reading each gives, its directories and its
working directory, each as the names of its absolute path. Every place above a listed one is a
directory too. -/
structure FileTree where
  files : List (List String × FileRead)
  dirs : List (List String)
  cwd : List String

namespace FileTree

def isDir (t : FileTree) (p : List String) : Bool :=
  (t.cwd :: t.dirs).any (fun q => q.take p.length == p) ||
    t.files.any (fun (q, _) => p.length < q.length && q.take p.length == p)

def readAt (t : FileTree) (p : List String) : FileRead :=
  match t.files.lookup p with
  | some r => r
  | none => if t.isDir p then .directory else .missing

def walk (t : FileTree) (cur : List String) : List String → Except FileRead (List String)
  | [] => .ok cur
  | c :: rest =>
    if c == "" || c == "." then t.walk cur rest
    else if c == ".." then t.walk cur.dropLast rest
    else
      let next := cur ++ [c]
      match t.files.lookup next with
      | some _ => if rest.isEmpty then .ok next else .error .notDirectory
      | none => if t.isDir next then t.walk next rest else .error .missing

def read (t : FileTree) (path : String) : FileRead :=
  if path.isEmpty then .missing
  else
    let start := if path.startsWith "/" then [] else t.cwd
    match t.walk start (path.splitOn "/") with
    | .ok p => t.readAt p
    | .error r => r

end FileTree

end ScriptBridge
