import CodeTwins.Decimal.Number
import CodeTwins.Files.Path
import CodeTwins.Language
import CodeTwins.Pattern.Signature
import CodeTwins.Toml.Value

/-!
# Scan configuration

What is scanned, with which patterns, and how the results are shown. The address of the server and the
action for too many results are kept as a file gives them, whatever they are.
-/
namespace CodeTwins

/-- Patterns for some extensions. -/
structure PatternGroup where
  extensions : List String
  includes : List String
  excludes : List String := []
deriving DecidableEq, Repr

/-- A configuration. -/
structure ScanConfig where
  serverUrl : Toml.Value := .str "http://localhost:3000"
  extensions : List String := ["ts", "tsx", "js", "jsx"]
  ignore : List String := ["node_modules/", ".git/", "dist/", "build/"]
  ignoreFiles : List String := [".gitignore", ".dockerignore", ".dryignore"]
  threshold : Number := .real 0.8
  limit : Int := 10
  onExceed : Toml.Value := .str "warn"
  /-- Include patterns by extension. -/
  languages : List (String × List String) := []
  groups : List PatternGroup := []
  /-- The file that the configuration was read from. -/
  path : Option Files.Path := none

namespace ScanConfig

/-- The configuration without a file: the languages are those of a registry. -/
def default (r : Registry) : ScanConfig :=
  { languages := r.includes }

def language? (c : ScanConfig) (ext : String) : Option (List String) :=
  (c.languages.find? (·.1 == ext)).map (·.2)

/-- The include and exclude patterns for an extension: those of the first group that names it, or else
those of its language, or else what is looked for everywhere. The exclude patterns of a language stay
when its include patterns are replaced. -/
def patternsFor (c : ScanConfig) (r : Registry) (extension : String) : List String × List String :=
  let ext := normalExtension extension
  match c.groups.find? (·.extensions.contains ext) with
  | some group => (group.includes, group.excludes)
  | none =>
    match c.language? ext, r.find? ext with
    | some includes, known => (includes, (known.map (·.excludes)).getD [])
    | none, some known => (known.includes, known.excludes)
    | none, none => (Language.fallback, [])

/-- Why a configuration cannot be used. -/
inductive Invalid where
  | threshold (n : Number)
  | limit (n : Int)
  | onExceed (v : Toml.Value)
  | pattern (b : BadPattern)

def exceedActions : List String :=
  ["warn", "fail"]

def Invalid.message : Invalid → String
  | threshold n => "threshold must be within 0-1, got " ++ n.text
  | limit n => "limit must be at least 1, got " ++ toString n
  | onExceed v =>
    "on_exceed must be one of " ++ String.intercalate ", " exceedActions ++ ", got " ++ v.shown
  | pattern b => b.message

def isExceedAction : Toml.Value → Bool
  | .str s => exceedActions.contains s
  | _ => false

/-- All patterns that the configuration brings, in the order in which they are checked. -/
def patterns (c : ScanConfig) : List String :=
  c.languages.flatMap (·.2) ++ c.groups.flatMap fun g => g.includes ++ g.excludes

/-- Checks the ranges, and that all patterns are patterns. -/
def validate (c : ScanConfig) : Except Invalid ScanConfig :=
  if !c.threshold.isWithinUnit then .error (.threshold c.threshold)
  else if c.limit < 1 then .error (.limit c.limit)
  else if !isExceedAction c.onExceed then .error (.onExceed c.onExceed)
  else
    match SignaturePattern.compileAll c.patterns with
    | .error b => .error (.pattern b)
    | .ok _ => .ok c

end ScanConfig
end CodeTwins
