import CodeTwins.Files.Tree

/-!
# Opening a store

A store is kept in a file. The directories that lead to it are made; the file must be new or empty.
-/
namespace CodeTwins.Store

open Files

/-- Why a store cannot be opened. -/
inductive Refusal where
  | files (f : Fault)
  | unusable (path : Path) (reason : String)
deriving DecidableEq, Repr

def Refusal.message : Refusal → String
  | files f => f.message
  | unusable path reason => "Failed to open store at " ++ path.text ++ ": " ++ reason

def makeDirectories (tree : Node) (p : Path) : Except Fault Unit :=
  match tree.at? p with
  | some (.dir _) => .ok ()
  | some (.file _) => .error (.occupied p)
  | none =>
    match tree.faultAt p p with
    | .missing _ => .ok ()
    | fault => .error fault

def openAt (tree : Node) (p : Path) : Except Refusal Unit :=
  match makeDirectories tree p.parent with
  | .error f => .error (.files f)
  | .ok () =>
    match tree.at? p with
    | some (.dir _) => .error (.unusable p "unable to open database file")
    | some (.file (_ :: _)) => .error (.unusable p "file is not a database")
    | _ => .ok ()

end CodeTwins.Store
