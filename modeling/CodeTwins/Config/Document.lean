import CodeTwins.Config.Basic

/-!
# Configuration files

The sections and fields of a configuration file. What a file does not set stays as it was. A value of
a kind that a field cannot take makes the whole file unusable.
-/
namespace CodeTwins.ScanConfig

open Toml

/-- Why a file gives no configuration. -/
inductive Unusable where
  /-- A field that lists texts is neither a list nor a text. -/
  | notAList (key : String)
  | misfit (m : Misfit)

/-- Whether the failure is not passed over: a section that is no table, or a number without bounds. -/
def Unusable.escaping? : Unusable → Option Misfit
  | notAList _ => none
  | misfit m =>
    match m with
    | .noFields _ _ | .infiniteInteger | .hugeNumber => some m
    | _ => none

/-- A result, unless it is a misfit. -/
def orMisfit {β : Type} (x : Except Misfit β) : Except Unusable β :=
  x.mapError .misfit

/-- The texts of a list, or of a single text. -/
def texts (key : String) : Value → Except Unusable (List String)
  | .str s => .ok [s]
  | .array items => orMisfit (items.mapM Value.toText)
  | _ => .error (.notAList key)

/-- The field of a section that must be a table. -/
def fieldOf (parent : Value) (name : String) : Except Unusable (Option Value) :=
  orMisfit ((parent.fieldsFor "get").map (field? name))

/-- A table that need not be there. -/
def sectionOf (parent : Value) (name : String) : Except Unusable Value :=
  (fieldOf parent name).map (·.getD (.table []))

/-- A list of texts that need not be there. -/
def textsOf (parent : Value) (name : String) (default : List String) :
    Except Unusable (List String) := do
  match ← fieldOf parent name with
  | some v => texts name v
  | none => return default

def setLanguage (ext : String) (patterns : List String) :
    List (String × List String) → List (String × List String)
  | [] => [(ext, patterns)]
  | (e, ps) :: rest =>
    if e = ext then (e, patterns) :: rest else (e, ps) :: setLanguage ext patterns rest

def languagesFrom (languages : List (String × List String)) :
    Fields → Except Unusable (List (String × List String))
  | [] => .ok languages
  | (ext, v) :: rest => do
    languagesFrom (setLanguage (normalExtension ext) (← texts ("scan.languages." ++ ext) v) languages)
      rest

def groupFrom (v : Value) : Except Unusable PatternGroup := do
  let extensions ← textsOf v "extensions" []
  let includes ← textsOf v "include" []
  let excludes ← textsOf v "exclude" []
  return ⟨extensions.map normalExtension, includes, excludes⟩

/-- The members of a value, in a list. -/
def members : Value → Except Unusable (List Value)
  | .array items => .ok items
  | .table fields => .ok (fields.map fun f => .str f.1)
  | .str s => .ok (s.toList.map fun c => .str (String.singleton c))
  | v => .error (.misfit (.notIterable v.kind))

def ofFields (base : ScanConfig) (path : Files.Path) (fields : Fields) :
    Except Unusable ScanConfig := do
  let document := Value.table fields
  let server ← sectionOf document "server"
  let scan ← sectionOf document "scan"
  let similarity ← sectionOf scan "similarity"
  let languageTable ← sectionOf scan "languages"
  let languageFields ← orMisfit (languageTable.fieldsFor "items")
  let languages ← languagesFrom base.languages languageFields
  let groupValues ← members ((← fieldOf scan "patterns").getD (.array []))
  let groups ← groupValues.mapM groupFrom
  let serverUrl := (← fieldOf server "url").getD base.serverUrl
  let extensions ← textsOf scan "extensions" base.extensions
  let ignore ← textsOf scan "ignore" base.ignore
  let ignoreFiles ← textsOf scan "use_ignore_files" base.ignoreFiles
  let threshold ← match ← fieldOf similarity "threshold" with
    | some v => orMisfit (v.toFloat.map Number.real)
    | none => pure base.threshold
  let limit ← match ← fieldOf similarity "limit" with
    | some v => orMisfit v.toInt
    | none => pure base.limit
  let action ← fieldOf similarity "on_exceed"
  let other ← fieldOf similarity "onExceed"
  return {
    serverUrl, extensions, ignore, ignoreFiles, threshold, limit, languages
    onExceed := (action.or other).getD base.onExceed
    groups := if groups.isEmpty then base.groups else groups
    path := some path }

end CodeTwins.ScanConfig
