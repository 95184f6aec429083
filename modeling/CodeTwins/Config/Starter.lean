import CodeTwins.Config.Layers

/-!
# Starter configuration files

A file that gives the defaults, with the patterns of the languages of some extensions. Texts are
written as literal strings where possible, so that backslashes stay as they are.
-/
namespace CodeTwins.ScanConfig

def escapeChar : Char → List Char
  | '\\' => ['\\', '\\']
  | '"' => ['\\', '"']
  | '\n' => ['\\', 'n']
  | c => [c]

def writeText (s : String) : String :=
  let cs := s.toList
  if !cs.contains '\'' && !cs.contains '\n' then "'" ++ s ++ "'"
  else "\"" ++ String.ofList (cs.flatMap escapeChar) ++ "\""

def writeList (l : List String) : String :=
  "[" ++ String.intercalate ", " (l.map writeText) ++ "]"

def writeLongList (l : List String) : String :=
  if l.isEmpty then "[]"
  else "[\n" ++ String.intercalate ",\n" (l.map fun s => "  " ++ writeText s) ++ "\n]"

def starterExtensions (c : ScanConfig) (extensions : List String) : List String :=
  if extensions.isEmpty then c.extensions else extensions

/-- The lines of the section for languages; there is none if no extension has patterns. -/
def languageLines (c : ScanConfig) (extensions : List String) : List String :=
  let known := extensions.filterMap fun ext => (c.language? ext).map (ext, ·)
  if known.isEmpty then []
  else
    "[scan.languages]" :: known.map (fun (ext, patterns) => ext ++ " = " ++ writeLongList patterns)
      ++ [""]

def starter (r : Registry) (extensions : List String) : String :=
  let c := default r
  let extensions := starterExtensions c extensions
  String.intercalate "\n" ([
    "[server]",
    "url = " ++ writeText c.serverUrl.plain,
    "",
    "[scan]",
    "extensions = " ++ writeList extensions,
    "ignore = " ++ writeLongList c.ignore,
    "use_ignore_files = " ++ writeList c.ignoreFiles,
    "",
    "[scan.similarity]",
    "threshold = " ++ c.threshold.text,
    "limit = " ++ toString c.limit,
    "on_exceed = " ++ writeText c.onExceed.plain,
    ""] ++ languageLines c extensions)

end CodeTwins.ScanConfig
