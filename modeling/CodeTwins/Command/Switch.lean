import CodeTwins.Numeral
import CodeTwins.Text.Likeness
import CodeTwins.Text.Quoted

/-!
# Words of a command line

A command line is made of options and other words. An option is spelled with two hyphens and a word,
followed by its value after an equals sign or as the next word, or with one hyphen and a letter, where
letters can be put together and the value can follow at once. Two hyphens alone end the options.
-/
namespace CodeTwins.Command

/-- The options of all commands. -/
inductive Switch where
  | verbose
  | quiet
  | version
  | help
  | regex
  | init
  | wipe
  | noWipe
  | url
  | batch
  | noBatch
  | ignoreFiles
  | threshold
  | limit
  | onExceed
  | host
  | port
deriving DecidableEq, Repr

namespace Switch

def spellings : Switch → List String
  | verbose => ["-v", "--verbose"]
  | quiet => ["-q", "--quiet"]
  | version => ["--version"]
  | help => ["--help"]
  | regex => ["-r", "--regex"]
  | init => ["--init"]
  | wipe => ["--wipe"]
  | noWipe => ["--no-wipe"]
  | url => ["-u", "--url"]
  | batch => ["--batch"]
  | noBatch => ["--no-batch"]
  | ignoreFiles => ["--ignore-files"]
  | threshold => ["-t", "--threshold"]
  | limit => ["-l", "--limit"]
  | onExceed => ["--on-exceed"]
  | host => ["--host"]
  | port => ["--port"]

def takesValue : Switch → Bool
  | regex | url | ignoreFiles | threshold | limit | onExceed | host | port => true
  | _ => false

/-- All spellings of an option, for messages. -/
def label (s : Switch) : String :=
  String.intercalate " / " (s.spellings.map Text.quoted)

def find? (known : List Switch) (spelling : String) : Option Switch :=
  known.find? (·.spellings.contains spelling)

def longSpellings (known : List Switch) : List String :=
  (known.flatMap spellings).filter fun s => 2 < s.length

end Switch

/-- What is wrong with a command line. -/
inductive Misuse where
  | unknownSwitch (spelling : String) (suggestions : List String)
  | needsValue (spelling : String)
  | takesNoValue (spelling : String)
  | notANumber (s : Switch) (text : String)
  | notAnInteger (s : Switch) (text : String)
  | notAChoice (s : Switch) (text : String) (choices : List String)
  | missing (argument : String)
  | unexpected (words : List String)
  | unknownCommand (name : String) (suggestions : List String)
  | noCommand
deriving DecidableEq, Repr

namespace Misuse

/-- What may have been meant. -/
def hint : List String → String
  | [] => ""
  | [one] => " Did you mean " ++ Text.quoted one ++ "?"
  | several => " (Possible options: " ++ String.intercalate ", " (several.map Text.quoted) ++ ")"

def message : Misuse → String
  | unknownSwitch spelling suggestions =>
    "No such option " ++ Text.quoted spelling ++ "." ++ hint suggestions
  | needsValue spelling => "Option " ++ Text.quoted spelling ++ " requires an argument."
  | takesNoValue spelling => "Option " ++ Text.quoted spelling ++ " does not take a value."
  | notANumber s text =>
    "Invalid value for " ++ s.label ++ ": " ++ Text.quoted text ++ " is not a valid float."
  | notAnInteger s text =>
    "Invalid value for " ++ s.label ++ ": " ++ Text.quoted text ++ " is not a valid integer."
  | notAChoice s text choices =>
    "Invalid value for " ++ s.label ++ ": " ++ Text.quoted text ++ " is not one of " ++
      String.intercalate ", " (choices.map Text.quoted) ++ "."
  | missing argument => "Missing argument '" ++ argument ++ "'."
  | unexpected [word] => "Got unexpected extra argument (" ++ word ++ ")"
  | unexpected words =>
    "Got unexpected extra arguments (" ++ String.intercalate " " words ++ ")"
  | unknownCommand name suggestions =>
    "No such command " ++ Text.quoted name ++ "." ++ hint suggestions
  | noCommand => "Missing command."

def showsUsage : Misuse → Bool
  | needsValue _ | takesNoValue _ => false
  | _ => true

end Misuse

/-- The options that a line gives, with their values, and its other words. -/
structure Words where
  switches : List (Switch × String) := []
  words : List String := []
deriving DecidableEq, Repr

/-- Words with options before them. -/
def Words.after (given : List (Switch × String)) (w : Words) : Words :=
  { w with switches := given ++ w.switches }

/-- Options that a word gives, and the last one of them with its spelling if it still needs a value. -/
structure Given where
  switches : List (Switch × String) := []
  open? : Option (Switch × String) := none
deriving DecidableEq, Repr

/-- The options of letters after one hyphen. -/
def lettersOf (known : List Switch) : List Char → Except Misuse Given
  | [] => .ok {}
  | c :: cs =>
    let spelling := String.ofList ['-', c]
    match Switch.find? known spelling with
    | none => .error (.unknownSwitch spelling [])
    | some s =>
      if s.takesValue then
        .ok (if cs.isEmpty then { open? := some (s, spelling) }
          else { switches := [(s, String.ofList cs)] })
      else
        match lettersOf known cs with
        | .ok g => .ok { g with switches := (s, "") :: g.switches }
        | .error e => .error e

/-- The option of a long spelling, with what follows an equals sign. -/
def longOf (known : List Switch) (spelling : String) (value : Option String) :
    Except Misuse Given :=
  match Switch.find? known spelling with
  | none => .error (.unknownSwitch spelling (Text.suggestions spelling (Switch.longSpellings known)))
  | some s =>
    match s.takesValue, value with
    | true, some v => .ok { switches := [(s, v)] }
    | true, none => .ok { open? := some (s, spelling) }
    | false, some _ => .error (.takesNoValue spelling)
    | false, none => .ok { switches := [(s, "")] }

def givenBy (known : List Switch) (word : String) : Except Misuse Given :=
  match word.toList with
  | '-' :: '-' :: rest =>
    let name := rest.takeWhile (· ≠ '=')
    let value := (rest.dropWhile (· ≠ '=')).drop 1
    longOf known (String.ofList ('-' :: '-' :: name))
      (if rest.contains '=' then some (String.ofList value) else none)
  | letters => lettersOf known (letters.drop 1)

def isSwitch (word : String) : Bool :=
  match word.toList with
  | '-' :: _ :: _ => true
  | _ => false

/-- The options and words of a line. If they are not mixed, the first other word ends the options. -/
def wordsOf (known : List Switch) (mixed : Bool) : List String → Except Misuse Words
  | [] => .ok {}
  | word :: rest =>
    if word = "--" then .ok { words := rest }
    else if isSwitch word then
      match givenBy known word with
      | .error e => .error e
      | .ok ⟨given, none⟩ => (wordsOf known mixed rest).map (.after given)
      | .ok ⟨given, some (s, spelling)⟩ =>
        match rest with
        | [] => .error (.needsValue spelling)
        | value :: more => (wordsOf known mixed more).map (.after (given ++ [(s, value)]))
    else if mixed then
      (wordsOf known mixed rest).map fun w => { w with words := word :: w.words }
    else .ok { words := word :: rest }

namespace Words

def has (w : Words) (s : Switch) : Bool :=
  w.switches.any (·.1 == s)

def value? (w : Words) (s : Switch) : Option String :=
  (w.switches.reverse.find? (·.1 == s)).map (·.2)

/-- Which of two opposite options is given last; without them a default. -/
def choice (w : Words) (on off : Switch) (default : Bool) : Bool :=
  match w.switches.reverse.find? fun given => given.1 == on || given.1 == off with
  | some (s, _) => s == on
  | none => default

end Words
end CodeTwins.Command
