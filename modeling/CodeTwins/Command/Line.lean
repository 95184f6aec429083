import CodeTwins.Command.Switch
import CodeTwins.Config.Basic
import CodeTwins.LogLevel
import CodeTwins.Unicode.Alphanumeric

/-!
# Command lines

What a command line asks for: options that hold for every command, the name of a command, and its own
options and arguments.
-/
namespace CodeTwins.Command

/-- The commands. -/
inductive Name where
  | scan
  | discover
  | similar
  | search
  | wipe
  | serve
deriving DecidableEq, Repr

namespace Name

def all : List Name :=
  [scan, discover, similar, search, wipe, serve]

def text : Name → String
  | scan => "scan"
  | discover => "discover"
  | similar => "similar"
  | search => "search"
  | wipe => "wipe"
  | serve => "serve"

def find? (text : String) : Option Name :=
  all.find? (·.text == text)

def switches : Name → List Switch
  | scan => [.regex, .init, .wipe, .noWipe, .url, .batch, .noBatch, .help]
  | discover => [.ignoreFiles, .help]
  | similar => [.threshold, .limit, .onExceed, .url, .help]
  | search => [.threshold, .limit, .url, .help]
  | wipe => [.url, .help]
  | serve => [.host, .port, .help]

/-- What a command takes, as it is shown. -/
def arguments : Name → String
  | scan => "[OPTIONS] PATH"
  | discover => "[OPTIONS] [PATH]"
  | search => "[OPTIONS] QUERY..."
  | similar | wipe | serve => "[OPTIONS]"

end Name

/-- What a scan is asked to do. -/
structure ScanRequest where
  path : String
  regex : Option String := none
  init : Bool := false
  wipe : Bool := true
  url : Option String := none
  batch : Bool := true
deriving DecidableEq, Repr

/-- A command with its options and arguments. -/
inductive Instruction where
  | scan (r : ScanRequest)
  | discover (path ignoreFiles : String)
  | similar (threshold : Option Float) (limit : Option Int) (onExceed url : Option String)
  | search (words : List String) (threshold : Float) (limit : Option Int) (url : Option String)
  | wipe (url : Option String)
  | serve (host : Option String) (port : Option Int)

/-- The threshold of a search that asks for none. -/
def searchThreshold : Float := 0.5

def misuseOf (s : Switch) (text : String) : Option Misuse :=
  match s with
  | .threshold => if (Numeral.float? text).isNone then some (.notANumber s text) else none
  | .limit | .port => if (Numeral.int? text).isNone then some (.notAnInteger s text) else none
  | .onExceed =>
    if ScanConfig.exceedActions.contains text then none
    else some (.notAChoice s text ScanConfig.exceedActions)
  | _ => none

def misuseIn (w : Words) : Option Misuse :=
  (w.switches.map (·.1)).findSome? fun s => (w.value? s).bind (misuseOf s)

/-- A command without arguments. -/
def plainInstruction (w : Words) (i : Instruction) : Except Misuse Instruction :=
  if w.words.isEmpty then .ok i else .error (.unexpected w.words)

/-- The command of options that are in order, and of the other words. -/
def instructionOf (name : Name) (w : Words) : Except Misuse Instruction :=
  let threshold := (w.value? .threshold).bind Numeral.float?
  let limit := (w.value? .limit).bind Numeral.int?
  let url := w.value? .url
  match name with
  | .scan =>
    match w.words with
    | [] => .error (.missing "PATH")
    | [path] =>
      .ok (.scan
        { path, url
          regex := w.value? .regex
          init := w.has .init
          wipe := w.choice .wipe .noWipe true
          batch := w.choice .batch .noBatch true })
    | _ :: more => .error (.unexpected more)
  | .discover =>
    let names := (w.value? .ignoreFiles).getD
      (String.intercalate "," ({} : ScanConfig).ignoreFiles)
    match w.words with
    | [] => .ok (.discover "." names)
    | [path] => .ok (.discover path names)
    | _ :: more => .error (.unexpected more)
  | .similar => plainInstruction w (.similar threshold limit (w.value? .onExceed) url)
  | .search =>
    if w.words.isEmpty then .error (.missing "QUERY...")
    else .ok (.search w.words (threshold.getD searchThreshold) limit url)
  | .wipe => plainInstruction w (.wipe url)
  | .serve => plainInstruction w (.serve (w.value? .host) ((w.value? .port).bind Numeral.int?))

/-- What a command is asked for: help, or to run. -/
inductive Asked where
  | help
  | instruction (i : Instruction)

/-- What the words after the name of a command ask for. -/
def askedOf (name : Name) (rest : List String) : Except Misuse Asked := do
  let w ← wordsOf name.switches true rest
  if w.has .help then return .help
  match misuseIn w with
  | some m => throw m
  | none => return .instruction (← instructionOf name w)

def commonSwitches : List Switch :=
  [.verbose, .quiet, .version, .help]

/-- How much to log, if that is asked for. -/
def levelOf (w : Words) : Option LogLevel :=
  if w.has .verbose then some LogLevel.debug
  else if w.has .quiet then some LogLevel.error
  else none

/-- What a command line asks for. -/
inductive Line where
  /-- Nothing: the line is empty. -/
  | nothing
  | version
  | help
  | misuse (m : Misuse)
  | command (level : Option LogLevel) (name : Name) (asked : Except Misuse Asked)

/-- Whether a word that is no command looks like an option. -/
def looksLikeSwitch (word : String) : Bool :=
  match word.toList with
  | [] => false
  | c :: _ => !Unicode.isAlphanumeric c

/-- What options ask for that need no command: the first of them counts. -/
def Line.ofSwitches (w : Words) : Option Line :=
  (w.switches.find? fun given => given.1 == .version || given.1 == .help).map fun given =>
    if given.1 == .version then .version else .help

/-- What a line asks for whose first word is no command. -/
def Line.ofUnknown (word : String) (rest : List String) : Line :=
  let unknown := Misuse.unknownCommand word (Text.suggestions word (Name.all.map Name.text))
  if looksLikeSwitch word then
    match wordsOf commonSwitches false (word :: rest) with
    | .error m => .misuse m
    | .ok w => (Line.ofSwitches w).getD (.misuse unknown)
  else .misuse unknown

/-- What the words after the options ask for. -/
def Line.ofWords (level : Option LogLevel) : List String → Line
  | [] => .misuse .noCommand
  | word :: rest =>
    match Name.find? word with
    | some name => .command level name (askedOf name rest)
    | none => Line.ofUnknown word rest

def Line.read (words : List String) : Line :=
  if words.isEmpty then .nothing
  else
    match wordsOf commonSwitches false words with
    | .error m => .misuse m
    | .ok w => (Line.ofSwitches w).getD (Line.ofWords (levelOf w) w.words)

end CodeTwins.Command
