import CodeTwins.Client.Submission
import CodeTwins.Config.Layers
import CodeTwins.LogLevel
import CodeTwins.Settings
import CodeTwins.Text.Utf8

/-!
# The shell of a command

What commands are given and what they change: a file tree, lines to read, two texts to write, and a
server on the other side of all requests. A command ends early with an exit code, with a failure that
it tells, or with a defect that it does not foresee.
-/
namespace CodeTwins.Command

/-- What commands are given. -/
structure Surroundings (σ : Type) where
  directory : Files.Path
  environment : Environment := []
  registry : Registry := .builtIn
  /-- The commit that the sources in a directory belong to. -/
  commit : Files.Path → Option String := fun _ => none
  send : Transport σ

/-- How much to log: a level, or the name of one. -/
inductive Logging where
  | level (l : LogLevel)
  | named (name : String)
deriving DecidableEq, Repr

/-- A service to be run. -/
structure Serving where
  settings : Settings
  host : Option String
  port : Option Int

/-- What commands change. The latest entries of lists come first. -/
structure Shell (σ : Type) where
  tree : Files.Node
  server : σ
  input : List String := []
  output : String := ""
  errors : String := ""
  logging : List Logging := []
  requests : List Http.Request := []
  served : List Serving := []

/-- What a command does not foresee. -/
inductive Defect where
  | misfit (m : Misfit)
  | pattern (b : BadPattern)
  | text (m : Utf8.Malformed)

def Defect.message : Defect → String
  | misfit m => m.message
  | pattern b => b.message
  | text m => m.message

/-- Why a command ends early. -/
inductive Stop where
  | exit (code : Nat)
  /-- A failure that the command tells. -/
  | failure (message : String)
  /-- No answer can be read. -/
  | aborted
  | defect (d : Defect)

abbrev Act (σ α : Type) := ExceptT Stop (StateM (Shell σ)) α

variable {σ α : Type}

def say (line : String) : Act σ Unit :=
  modify fun s => { s with output := s.output ++ line ++ "\n" }

def complain (line : String) : Act σ Unit :=
  modify fun s => { s with errors := s.errors ++ line ++ "\n" }

def setLogging (l : Logging) : Act σ Unit :=
  modify fun s => { s with logging := l :: s.logging }

def fail (message : String) : Act σ α :=
  throw (.failure message)

/-- A result, or the end for a reason. -/
def orStop {ε : Type} (stop : ε → Stop) : Except ε α → Act σ α
  | .ok a => pure a
  | .error e => throw (stop e)

/-- The end for a pattern: a malformed one is told. -/
def patternStop (b : BadPattern) : Stop :=
  match b.error with
  | .malformed _ _ => .failure b.message
  | .countTooLarge | .flagsContradict => .defect (.pattern b)

def unresolvedStop : ScanConfig.Unresolved → Stop
  | .misfit m => .defect (.misfit m)
  | .invalid (.pattern b) => patternStop b
  | .invalid i => .failure i.message

def clientStop : Client.Failure → Stop
  | .unbounded m => .defect (.misfit m)
  | f => .failure f.message

/-- Sends requests to the server, and notes them. -/
def Surroundings.transport (w : Surroundings σ) : Transport (Shell σ) := fun r s =>
  let (outcome, server) := w.send r s.server
  (outcome, { s with server, requests := r :: s.requests })

/-- The connection to a server at an address that may be any value. -/
def Surroundings.connect (w : Surroundings σ) (address : Toml.Value) :
    Act σ (Connection (Shell σ)) :=
  match address with
  | .str s => pure ⟨Client.addressOf (some s) w.environment, w.transport⟩
  | v =>
    if v.isGiven then throw (.defect (.misfit (.noFields v.kind "endswith")))
    else pure ⟨Client.addressOf none w.environment, w.transport⟩

def ask (call : Connection.Call (Shell σ) α) : Act σ α := fun s =>
  let (answer, s) := call s
  (answer.mapError clientStop, s)

def inputLines (text : String) : List String :=
  let lines := Text.splitOn '\n' (Text.unifyNewlines text.toList)
  (if lines.getLast? = some [] then lines.dropLast else lines).map String.ofList

/-- A yes or no, as it is written; an empty answer is a no. -/
def answerOf? (line : String) : Option Bool :=
  let word := Text.trimmed (Unicode.lower line)
  if word = "y" ∨ word = "yes" then some true
  else if word = "n" ∨ word = "no" ∨ word = "" then some false
  else none

/-- What asking comes to: the answer if there is one, what has been written, and the lines left. -/
def answerFrom (question : String) : List String → Option Bool × String × List String
  | [] => (none, question ++ " ", [])
  | line :: rest =>
    let shown := question ++ " " ++ line ++ "\n"
    match answerOf? line with
    | some b => (some b, shown, rest)
    | none =>
      let (answer, more, left) := answerFrom question rest
      (answer, shown ++ "Error: invalid input\n" ++ more, left)

/-- Asks until there is a yes or no. -/
def confirm (question : String) : Act σ Bool := do
  let s ← get
  let (answer, shown, input) := answerFrom (question ++ " [y/N]:") s.input
  set { s with input, output := s.output ++ shown }
  match answer with
  | some b => pure b
  | none => throw .aborted

def Surroundings.configOf (w : Surroundings σ) (place : Files.Path) (o : ScanConfig.Overrides) :
    Act σ ScanConfig := do
  orStop unresolvedStop (ScanConfig.resolve w.registry (← get).tree place o)

end CodeTwins.Command
