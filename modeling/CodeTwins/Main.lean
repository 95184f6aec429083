import CodeTwins.Command.Run
import CodeTwins.Service.Local

/-!
# The program

Runs one command line with a service in the same program. The first line of standard input is the file
tree, an object that gives the text of each path; the lines after it are answers to questions. The
program asks no provider for vectors.
-/
namespace CodeTwins.Program

def variableNames : List String :=
  ["DRY_SERVER_URL", "DRY_DB_PATH", "EMBEDDING_API_URL", "EMBEDDING_API_KEY", "EMBEDDING_CHUNK_SIZE",
    "EMBEDDING_TIMEOUT", "EMBEDDING_CONCURRENCY", "EMBEDDINGGEMMA_URL", "HOST", "PORT", "LOG_LEVEL"]

def environment : IO Environment :=
  variableNames.filterMapM fun name => do
    return (← IO.getEnv name).map fun text => (name, text)

def treeOf (line : String) : Files.Node :=
  match Json.parse line with
  | .ok (.obj fields) => fields.foldl (fun tree (path, text) =>
      tree.insert (.file (Utf8.encode text.plain)) (Files.Path.resolve [] path)) .emptyDir
  | _ => .emptyDir

/-- A service without elements. -/
def service : Service Float Nat where
  store := Store.empty 0
  embedder := ({} : Settings).embedder fun _ _ => .error (.unreachable "no network")
  ids := toString
  now := 0

/-- Runs a command line, with one line of input more as long as there is one and a question is left
without an answer. What has been told before is not told again. -/
partial def converse (w : Command.Surroundings (Service Float Nat)) (words : List String)
    (s : Command.Shell (Service Float Nat)) (told : Nat) : IO UInt32 := do
  let (e, after) := w.run words s
  IO.print (after.output.drop told).toString
  match e with
  | .aborted =>
    let line ← (← IO.getStdin).getLine
    if !line.isEmpty then
      return ← converse w words { s with input := s.input ++ Command.inputLines line }
        after.output.length
  | .defect d => IO.eprintln d.message
  | .finished _ => pure ()
  IO.eprint after.errors
  return e.code.toUInt32

def run (words : List String) : IO UInt32 := do
  let tree := treeOf (← (← IO.getStdin).getLine)
  let w : Command.Surroundings (Service Float Nat) :=
    { directory := [], environment := ← environment, send := Service.transport "" }
  converse w words { tree, server := service } 0

end CodeTwins.Program

def main (words : List String) : IO UInt32 :=
  CodeTwins.Program.run words
