import CodeTwins.Files.Path
import CodeTwins.Text.Quoted

/-!
# File trees

Files and directories in memory. A directory lists its entries by name, each once.
-/
namespace CodeTwins.Files

/-- A file with its bytes, or a directory with its entries. -/
inductive Node where
  | file (bytes : List UInt8)
  | dir (entries : List (String × Node))
deriving Inhabited

/-- Why a file or directory cannot be used. -/
inductive Fault where
  | missing (path : Path)
  | occupied (path : Path)
  | notDirectory (path : Path)
  | isDirectory (path : Path)
deriving DecidableEq, Repr

def Fault.message : Fault → String
  | missing p => "[Errno 2] No such file or directory: " ++ Text.quoted p.text
  | occupied p => "[Errno 17] File exists: " ++ Text.quoted p.text
  | notDirectory p => "[Errno 20] Not a directory: " ++ Text.quoted p.text
  | isDirectory p => "[Errno 21] Is a directory: " ++ Text.quoted p.text

namespace Node

/-- A directory without entries. -/
def emptyDir : Node :=
  dir []

def isDir : Node → Bool
  | dir _ => true
  | file _ => false

/-- The entries of a directory; a file has none. -/
def entries : Node → List (String × Node)
  | dir es => es
  | file _ => []

def entry? (n : Node) (name : String) : Option Node :=
  (n.entries.find? (·.1 == name)).map (·.2)

/-- Sets an entry, in its place if there is one of that name. -/
def setEntry (name : String) (n : Node) : List (String × Node) → List (String × Node)
  | [] => [(name, n)]
  | (m, old) :: rest => if m = name then (m, n) :: rest else (m, old) :: setEntry name n rest

def at? (n : Node) : Path → Option Node
  | [] => some n
  | name :: rest =>
    match n.entry? name with
    | some child => child.at? rest
    | none => none

/-- The tree with something at a path. Directories on the way are made, in place of files. -/
def insert (n : Node) (new : Node) : Path → Node
  | [] => new
  | name :: rest =>
    dir (setEntry name (((n.entry? name).getD emptyDir).insert new rest) n.entries)

def isFileAt (n : Node) (p : Path) : Bool :=
  match n.at? p with
  | some (file _) => true
  | _ => false

def isDirAt (n : Node) (p : Path) : Bool :=
  match n.at? p with
  | some (dir _) => true
  | _ => false

def existsAt (n : Node) (p : Path) : Bool :=
  (n.at? p).isSome

/-- Why a path leads nowhere: a name on the way is missing, or is that of a file. -/
def faultAt (n : Node) (whole : Path) : Path → Fault
  | [] => .isDirectory whole
  | name :: rest =>
    match n with
    | file _ => .notDirectory whole
    | dir _ =>
      match n.entry? name with
      | some child => child.faultAt whole rest
      | none => .missing whole

def read (n : Node) (p : Path) : Except Fault (List UInt8) :=
  match n.at? p with
  | some (file bytes) => .ok bytes
  | _ => .error (n.faultAt p p)

/-- The tree with the bytes of a file set, in a directory that must be there. -/
def write (n : Node) (p : Path) (bytes : List UInt8) : Except Fault Node :=
  match n.at? p, n.at? p.parent with
  | some (dir _), _ => .error (.isDirectory p)
  | _, some (dir _) => .ok (n.insert (file bytes) p)
  | _, _ => .error (n.faultAt p p)

mutual

def files : Node → List Path
  | file _ => [[]]
  | dir es => filesIn es

def filesIn : List (String × Node) → List Path
  | [] => []
  | (name, n) :: rest => (n.files.map (name :: ·)) ++ filesIn rest

end

mutual

def height : Node → Nat
  | file _ => 0
  | dir es => heightIn es

def heightIn : List (String × Node) → Nat
  | [] => 0
  | (_, n) :: rest => max (n.height + 1) (heightIn rest)

end

end Node
end CodeTwins.Files
