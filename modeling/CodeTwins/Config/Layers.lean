import CodeTwins.Config.Document
import CodeTwins.Files.Tree
import CodeTwins.Text.Utf8
import CodeTwins.Toml.Reader

/-!
# Layers of configuration

The configuration of a place is that of the nearest file at or above it, on top of the defaults and
below what the user asks for. A file that cannot be read counts as none.
-/
namespace CodeTwins.ScanConfig

open Files

def fileName : String := "dry-scan.toml"

/-- A place and all above it, the nearest first. -/
def upwards : Path → List Path
  | [] => [[]]
  | name :: rest => ((upwards rest).map (name :: ·)) ++ [[]]

def findFile (tree : Node) (start : Path) : Option Path :=
  let place := if tree.isFileAt start then start.parent else start
  ((upwards place).map (· ++ [fileName])).find? tree.isFileAt

/-- The fields of a file, if it is one and well formed. -/
def fieldsOf? (tree : Node) (path : Path) : Option Toml.Fields := do
  let bytes ← (tree.read path).toOption
  let text ← (Utf8.decode bytes).toOption
  Toml.read text

def load (r : Registry) (tree : Node) (path : Path) : Except Misfit ScanConfig :=
  let defaults := default r
  match fieldsOf? tree path with
  | none => .ok defaults
  | some fields =>
    match ofFields defaults path fields with
    | .ok c => .ok c
    | .error u =>
      match u.escaping? with
      | some m => .error m
      | none => .ok defaults

/-- What the user asks for. -/
structure Overrides where
  url : Option String := none
  extensions : Option (List String) := none
  threshold : Option Number := none
  limit : Option Int := none
  onExceed : Option String := none

/-- Extensions as the user writes them, without white space and points before them. -/
def cleanExtensions (extensions : List String) : List String :=
  (extensions.map Text.trimmed).filter (!·.isEmpty)
    |>.map fun e => String.ofList (Text.trimStart (· == '.') e.toList)

/-- A configuration with what the user asks for. Empty texts and lists ask for nothing. -/
def override (c : ScanConfig) (o : Overrides) : ScanConfig :=
  { c with
    serverUrl := ((o.url.filter (!·.isEmpty)).map .str).getD c.serverUrl
    extensions := ((o.extensions.filter (!·.isEmpty)).map cleanExtensions).getD c.extensions
    threshold := o.threshold.getD c.threshold
    limit := o.limit.getD c.limit
    onExceed := (o.onExceed.map .str).getD c.onExceed }

/-- Why a place has no configuration. -/
inductive Unresolved where
  | misfit (m : Misfit)
  | invalid (i : Invalid)

def Unresolved.message : Unresolved → String
  | misfit m => m.message
  | invalid i => i.message

def resolve (r : Registry) (tree : Node) (start : Path) (o : Overrides) :
    Except Unresolved ScanConfig := do
  let base ← match findFile tree start with
    | some path => (load r tree path).mapError .misfit
    | none => .ok (default r)
  ((base.override o).validate).mapError .invalid

end CodeTwins.ScanConfig
