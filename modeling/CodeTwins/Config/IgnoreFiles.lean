import CodeTwins.Files.Tree
import CodeTwins.Text.Utf8

/-!
# Ignore files

Files that list patterns of what is not scanned, one a line. Blank lines and those that start with a
number sign do not count.
-/
namespace CodeTwins.IgnoreFiles

open Files

def patternsOf (text : List Char) : List String :=
  ((Text.lines (Text.unifyNewlines text)).map Text.trim).filter
    (fun line => !line.isEmpty && line.head? ≠ some '#') |>.map String.ofList

/-- The patterns of a file. What is not a file has none. -/
def patternsIn (tree : Node) (path : Path) : Except Utf8.Malformed (List String) :=
  match tree.at? path with
  | some (.file bytes) => (Utf8.decode bytes).map patternsOf
  | _ => .ok []

def load (tree : Node) (directory : Path) : List String → Except Utf8.Malformed (List String)
  | [] => .ok []
  | name :: names => do
    let patterns ← patternsIn tree (directory.resolve name)
    return patterns ++ (← load tree directory names)

end CodeTwins.IgnoreFiles
