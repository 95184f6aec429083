import CodeTwins.Command.Report
import CodeTwins.Command.Scan

/-!
# Running command lines

A command line is read and run, and ends with an exit code.
-/
namespace CodeTwins.Command

variable {σ : Type}

def programName : String := "dry"

def version : String := "0.1.0"

def calling : Option Name → String
  | none => programName
  | some name => programName ++ " " ++ name.text

def usage (name : Option Name) : String :=
  "Usage: " ++ calling name ++ " " ++
    (name.map Name.arguments).getD "[OPTIONS] COMMAND [ARGS]..."

def tellMisuse (name : Option Name) (m : Misuse) : Act σ Unit := do
  if m.showsUsage then
    complain (usage name)
    complain ("Try '" ++ calling name ++ " --help' for help.\n")
  complain ("Error: " ++ m.message)
  throw (.exit 2)

/-- Hands over a service to be run, with the settings of the environment. -/
def Surroundings.serve (w : Surroundings σ) (level : Option LogLevel) (host : Option String)
    (port : Option Int) : Act σ Unit := do
  let settings ← orStop (fun i => .failure i.message) (Settings.ofEnvironment w.environment)
  setLogging (match level with
    | some l => .level l
    | none => .named settings.logLevel)
  modify fun s => { s with served := ⟨settings, host, port⟩ :: s.served }

def Surroundings.perform (w : Surroundings σ) (level : Option LogLevel) : Instruction → Act σ Unit
  | .scan r => discard (w.scan r)
  | .discover path ignoreFiles => w.discover path ignoreFiles
  | .similar threshold limit onExceed url => w.similar threshold limit onExceed url
  | .search words threshold limit url => w.search words threshold limit url
  | .wipe url => w.wipe url
  | .serve host port => w.serve level host port

/-- Sets how much is logged before a command. The service does that by itself. -/
def setUp (level : Option LogLevel) (name : Name) : Act σ Unit :=
  if name = .serve then pure () else setLogging (.level (level.getD LogLevel.warning))

def Surroundings.act (w : Surroundings σ) : Line → Act σ Unit
  | .nothing => do
    complain (usage none)
    throw (.exit 2)
  | .version => say (programName ++ ", version " ++ version)
  | .help => say (usage none)
  | .misuse m => tellMisuse none m
  | .command level name asked => do
    setUp level name
    match asked with
    | .error m => tellMisuse (some name) m
    | .ok .help => say (usage (some name))
    | .ok (.instruction i) => w.perform level i

/-- How the program ends. -/
inductive Exit where
  | finished (code : Nat)
  /-- A question is left without an answer. -/
  | aborted
  | defect (d : Defect)

def Exit.code : Exit → Nat
  | finished code => code
  | aborted | defect _ => 1

/-- How the program ends for a reason, and what it still tells. -/
def finish (stop : Stop) (s : Shell σ) : Exit × Shell σ :=
  match stop with
  | .exit code => (.finished code, s)
  | .failure message =>
    (.finished 1, { s with errors := s.errors ++ "❌ Error: " ++ message ++ "\n" })
  | .aborted => (.aborted, { s with errors := s.errors ++ "Aborted!\n" })
  | .defect d => (.defect d, s)

def Surroundings.run (w : Surroundings σ) (words : List String) (s : Shell σ) : Exit × Shell σ :=
  match (w.act (Line.read words)).run s with
  | (.ok _, s) => (.finished 0, s)
  | (.error stop, s) => finish stop s

end CodeTwins.Command
