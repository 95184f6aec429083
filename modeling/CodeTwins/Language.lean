import CodeTwins.Text.Trim
import CodeTwins.Unicode.LetterCase

/-!
# Languages

The signature patterns of each language family that the library knows, and a registry that finds
them by file extension.
-/
namespace CodeTwins

/-- Signature patterns of one language family. The first group of an include pattern names the
element. -/
structure Language where
  name : String
  extensions : List String
  includes : List String
  excludes : List String := []
deriving DecidableEq, Repr

namespace Language

/-- Declarations, arrow functions assigned to constants, and function properties of object literals. -/
def javascript : Language where
  name := "javascript"
  extensions := ["ts", "tsx", "js", "jsx", "mjs", "cjs"]
  includes := [
    "\\bfunction\\s+(\\w+)\\s*\\(",
    "\\bconst\\s+(\\w+)\\s*=\\s*\\([^)]*\\)\\s*=>",
    "\\b(\\w+)\\s*:\\s*function\\s*\\("]

/-- Top-level functions, and methods with a receiver. -/
def go : Language where
  name := "go"
  extensions := ["go"]
  includes := [
    "^func\\s+(?:\\([^)]*\\)\\s*)?(\\w+)\\s*[(\\[]"]

/-- Members with at least one modifier, so that calls and control statements are not taken for them. -/
def java : Language where
  name := "java"
  extensions := ["java"]
  includes := [
    "^[ \\t]*(?:(?:public|protected|private|static|final|abstract|" ++
      "synchronized|native|default)\\s+)+" ++
      "(?:<[^>]*>\\s*)?[\\w<>\\[\\],.? ]+?\\s+(\\w+)\\s*\\("]
  excludes := [
    "\\b(?:if|for|while|switch|catch|return|new|throw)\\s*\\(",
    "\\b(?:class|interface|enum|record)\\b"]

def c : Language where
  name := "c"
  extensions := ["c", "h", "cpp", "cc", "cxx", "hpp", "hxx"]
  includes := [
    "^(?:[\\w:<>,*&]+[ \\t]+)+[*&]*((?:\\w+::)*~?\\w+)\\s*\\("]
  excludes := [
    "^(?:return|else|typedef|using|struct|enum|union)\\b"]

def csharp : Language where
  name := "csharp"
  extensions := ["cs"]
  includes := [
    "^[ \\t]*(?:(?:public|protected|private|internal|static|virtual|override|" ++
      "abstract|sealed|async|partial|extern|unsafe)\\s+)+" ++
      "[\\w<>\\[\\],.?() ]+?\\s+(\\w+)\\s*(?:<[^>]*>)?\\s*\\("]
  excludes := [
    "\\b(?:if|for|foreach|while|switch|catch|using|return|new|lock)\\s*\\(",
    "\\b(?:class|interface|struct|enum|record|delegate)\\b"]

/-- Functions, extension functions among them. -/
def kotlin : Language where
  name := "kotlin"
  extensions := ["kt", "kts"]
  includes := [
    "\\bfun\\s+(?:<[^>]*>\\s*)?(?:[\\w.<>]+\\.)?(\\w+)\\s*\\("]

def php : Language where
  name := "php"
  extensions := ["php"]
  includes := [
    "\\bfunction\\s+&?(\\w+)\\s*\\("]

def rust : Language where
  name := "rust"
  extensions := ["rs"]
  includes := [
    "\\bfn\\s+(\\w+)\\s*[(<]"]

def swift : Language where
  name := "swift"
  extensions := ["swift"]
  includes := [
    "\\bfunc\\s+(\\w+)\\s*[(<]",
    "^[ \\t]*(?:(?:public|private|internal|fileprivate|convenience|required|override)" ++
      "\\s+)*(init)\\??\\s*\\("]

def builtIn : List Language :=
  [javascript, go, java, c, csharp, kotlin, php, rust, swift]

/-- What is looked for in files of no known language. -/
def fallback : List String :=
  ["\\bfunction\\s+(\\w+)\\s*\\("]

end Language

/-- An extension in the form in which it is looked up: lower case, without dots before it. -/
def normalExtension (ext : String) : String :=
  String.ofList (Text.trimStart (· == '.') (Unicode.lower ext).toList)

/-- Languages by extension. Each extension occurs once. -/
structure Registry where
  entries : List (String × Language)
deriving DecidableEq, Repr

namespace Registry

def set (ext : String) (language : Language) : List (String × Language) → List (String × Language)
  | [] => [(ext, language)]
  | (e, l) :: rest => if e = ext then (e, language) :: rest else (e, l) :: set ext language rest

/-- Registers a language for all its extensions, in place of those registered before. -/
def register (r : Registry) (language : Language) : Registry :=
  ⟨language.extensions.foldl (fun es ext => set (Unicode.lower ext) language es) r.entries⟩

def builtIn : Registry :=
  Language.builtIn.foldl register ⟨[]⟩

def lookup? (r : Registry) (key : String) : Option Language :=
  (r.entries.find? (·.1 == key)).map (·.2)

/-- The language of an extension, in any case and with or without dots before it. -/
def find? (r : Registry) (ext : String) : Option Language :=
  r.lookup? (normalExtension ext)

def sorted (r : Registry) : List (String × Language) :=
  r.entries.mergeSort fun a b => a.1 ≤ b.1

/-- The registered extensions, sorted. -/
def extensions (r : Registry) : List String :=
  r.sorted.map (·.1)

/-- The include patterns of every extension, sorted by extension. -/
def includes (r : Registry) : List (String × List String) :=
  r.sorted.map fun (ext, language) => (ext, language.includes)

end Registry
end CodeTwins
