import CodeTwins.Command.Line
import CodeTwins.Command.Shell
import CodeTwins.Config.Starter
import CodeTwins.Scan.SourceFile
import CodeTwins.Scan.Walk

/-!
# The scan command

Submits the elements of a file, or of the files in a directory. Directories below it with a
configuration of their own are scanned after it, each with that configuration. Only the first scan
wipes.
-/
namespace CodeTwins.Command

open Files

variable {σ : Type}

def Surroundings.shown (w : Surroundings σ) (p : Path) : String :=
  w.directory.relativeTo p

/-- The extensions that a new configuration gets when no source file is found. -/
def starterExtensions : List String :=
  ["ts", "js"]

def listed (extensions : List String) : String :=
  String.intercalate ", " extensions

def Surroundings.writeConfig (w : Surroundings σ) (path : Path) (extensions : List String) :
    Act σ Unit := do
  let text := ScanConfig.starter w.registry extensions
  let tree ← orStop (fun f => .failure f.message)
    ((← get).tree.write path (Utf8.encode text))
  modify fun s => { s with tree }
  say ("📝 Created " ++ path.text)

def Surroundings.detected (w : Surroundings σ) (root : Path) : Act σ (List String) := do
  return Scan.detect w.registry (← get).tree root ({} : ScanConfig).ignore

def Surroundings.makeConfig (w : Surroundings σ) (root : Path) : Act σ Unit := do
  let tree := (← get).tree
  let target := root ++ [ScanConfig.fileName]
  if tree.existsAt target then say ("Config file already exists at " ++ target.text)
  else if tree.isDirAt root then
    let found ← w.detected root
    if found.isEmpty then
      say "No source extensions detected. Creating a default config."
      w.writeConfig target starterExtensions
    else
      say ("Detected potential source extensions: " ++ listed found)
      w.writeConfig target found

/-- Offers to make the configuration of a directory that has none. -/
def Surroundings.offerConfig (w : Surroundings σ) (root : Path) : Act σ Unit := do
  let tree := (← get).tree
  if tree.isDirAt root && (ScanConfig.findFile tree root).isNone then
    let found ← w.detected root
    if !found.isEmpty then
      say ("No " ++ ScanConfig.fileName ++
        " found. Detected potential source extensions: " ++ listed found)
      let wanted ← confirm
        ("Would you like to create a " ++ ScanConfig.fileName ++ " with these extensions?")
      if wanted then w.writeConfig (root ++ [ScanConfig.fileName]) found

/-- What a scan has in hand: its place, its directory and its configuration. -/
structure Scope where
  root : Path
  directory : Path
  config : ScanConfig
  regex : Option String
  batch : Bool

/-- How many elements have been submitted, and how many of them failed. -/
structure Tally where
  indexed : Nat := 0
  failed : Nat := 0
deriving DecidableEq, Repr

/-- The elements of a file. One that cannot be read has none. -/
def Surroundings.elementsOf (w : Surroundings σ) (scope : Scope) (path : Path) :
    Act σ (List Element) := do
  match SourceFile.scan w.registry scope.config (← get).tree scope.directory path scope.regex
      (w.commit scope.directory) with
  | .ok es => pure es
  | .error (.file _) => pure []
  | .error (.pattern b) => throw (patternStop b)

def Surroundings.scanFile (w : Surroundings σ) (scope : Scope) (c : Connection (Shell σ))
    (tally : Tally) (path : Path) : Act σ Tally := do
  say ("Scanning " ++ w.shown path ++ "...")
  let es ← w.elementsOf scope path
  if es.isEmpty then pure tally
  else
    say ("   Found " ++ toString es.length ++ " elements. Submitting...")
    let report ← ask (Submission.run c scope.batch es)
    pure ⟨tally.indexed + report.indexed, tally.failed + report.failed⟩

/-- Wipes what has been indexed before, if that is asked for. -/
def wipeFirst (c : Connection (Shell σ)) (wanted : Bool) : Act σ Unit := do
  if wanted then
    say "🗑️  Wiping previous scans..."
    let deleted ← ask c.wipe
    say ("   Deleted " ++ toString deleted ++ " elements from previous scans.")
  else say "Skipping wipe (incremental scan)."

def planOf (scope : Scope) (ignored : List String) : Act σ Scan.Plan := do
  let tree := (← get).tree
  if tree.isFileAt scope.root then pure { files := [scope.root] }
  else
    say ("🔍 Searching for files in " ++ scope.root.text ++ " with extensions: " ++
      listed scope.config.extensions ++ "...")
    pure (Scan.collect tree scope.root scope.config.extensions ignored)

/-- Submits the elements of all files. The answer is how many are indexed. -/
def Surroundings.scanFiles (w : Surroundings σ) (scope : Scope) (c : Connection (Shell σ))
    (files : List Path) : Act σ Nat := do
  if files.isEmpty then pure 0
  else
    say ("   Found " ++ toString files.length ++ " files to scan in this directory.")
    let tally ← files.foldlM (w.scanFile scope c) {}
    say ("\n✅ Done indexing current directory. Indexed " ++ toString tally.indexed ++
      " elements from " ++ toString files.length ++ " files.")
    if tally.failed ≠ 0 then
      complain ("   " ++ toString tally.failed ++ " elements failed to index (see log).")
    pure tally.indexed

def subScanStop (place : Path) : Stop → Stop
  | .failure message => .failure ("Sub-scan for " ++ place.text ++ " failed: " ++ message)
  | stop => stop

/-- Scans within a scan, one after another. -/
def Surroundings.subScans (w : Surroundings σ) (scan : Path → Act σ Nat) (places : List Path) :
    Act σ Nat := do
  if places.isEmpty then pure 0
  else
    say ("\nFound " ++ toString places.length ++ " directories with their own " ++
      ScanConfig.fileName ++ ". Running sub-scans...")
    places.foldlM (fun indexed place => do
      say ("\n--- Sub-scan for " ++ w.shown place ++ " ---")
      let more ← tryCatch (scan place) fun stop => throw (subScanStop place stop)
      pure (indexed + more)) 0

def checkPlace (root : Path) : Act σ Unit := do
  if (← get).tree.existsAt root then pure () else fail ("Path does not exist: " ++ root.text)

/-- Makes a configuration, or offers to, if the scan is to. -/
def Surroundings.prepare (w : Surroundings σ) (r : ScanRequest) (interactive : Bool) (root : Path) :
    Act σ Unit :=
  if r.init then w.makeConfig root
  else if interactive then w.offerConfig root
  else pure ()

/-- An empty pattern counts as none. -/
def checkPattern (r : ScanRequest) : Act σ Unit :=
  match r.regex.filter (!·.isEmpty) with
  | some pattern => discard (orStop patternStop (SignaturePattern.compileAll [pattern]))
  | none => pure ()

/-- The scope of a scan, and what is ignored in it. All that can be wrong before the first request is
checked here. -/
def Surroundings.scopeOf (w : Surroundings σ) (r : ScanRequest) (interactive : Bool) (root : Path) :
    Act σ (Scope × List String) := do
  checkPlace root
  w.prepare r interactive root
  checkPattern r
  let config ← w.configOf root { url := r.url }
  let tree := (← get).tree
  let directory := if tree.isDirAt root then root else root.parent
  let ignored ← orStop (fun m => .defect (.text m)) (Scan.ignoredIn tree directory config)
  pure ({ root, directory, config, regex := r.regex, batch := r.batch }, ignored)

/-- Scans the files of a plan, and then the places that it leaves to scans of their own. -/
def Surroundings.scanPlan (w : Surroundings σ) (scope : Scope) (c : Connection (Shell σ))
    (scan : Path → Act σ Nat) (plan : Scan.Plan) : Act σ Nat := do
  if plan.files.isEmpty && plan.subScans.isEmpty then
    say "No files or sub-scans found."
    pure 0
  else
    let indexed ← w.scanFiles scope c plan.files
    let more ← w.subScans scan plan.subScans
    pure (indexed + more)

/-- Scans a place, given how places within it are scanned. The answer is how many elements are
indexed. -/
def Surroundings.scanFrom (w : Surroundings σ) (r : ScanRequest) (interactive : Bool)
    (scan : Path → Act σ Nat) (root : Path) : Act σ Nat := do
  let (scope, ignored) ← w.scopeOf r interactive root
  let c ← w.connect scope.config.serverUrl
  say ("Using server: " ++ c.address)
  wipeFirst c r.wipe
  let plan ← planOf scope ignored
  w.scanPlan scope c scan plan

/-- What a scan within another is asked to do. -/
def ScanRequest.within (r : ScanRequest) : ScanRequest :=
  { r with init := false, wipe := false }

/-- Scans a place within a scan, and those within it, to some depth. -/
def Surroundings.scanWithin (w : Surroundings σ) (r : ScanRequest) : Nat → Path → Act σ Nat
  | 0, _ => pure 0
  | depth + 1, place => w.scanFrom r.within false (w.scanWithin r depth) place

/-- Scans a place within a scan. No scan within another lies deeper than the file tree. -/
def Surroundings.subScan (w : Surroundings σ) (r : ScanRequest) (place : Path) : Act σ Nat := do
  w.scanWithin r ((← get).tree.height + 1) place

/-- Scans a place and all within it. -/
def Surroundings.scanPlace (w : Surroundings σ) (r : ScanRequest) (interactive : Bool)
    (root : Path) : Act σ Nat :=
  w.scanFrom r interactive (w.subScan r) root

def Surroundings.scan (w : Surroundings σ) (r : ScanRequest) : Act σ Nat :=
  w.scanPlace r true (w.directory.resolve r.path)

end CodeTwins.Command
