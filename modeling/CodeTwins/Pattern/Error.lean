import CodeTwins.Text.Quoted

/-!
# Pattern errors

Why a text is no pattern, where the fault lies, and how it is told.
-/
namespace CodeTwins.Pattern

/-- What is wrong with a pattern. Arguments are the offending pieces of it. -/
inductive Fault where
  | escapeAtEnd
  | incompleteEscape (escape : String)
  | badEscape (escape : String)
  | octalTooLarge (escape : String)
  | characterNameOpen
  | characterNameUnknown (name : String)
  | groupOpen
  | groupInSameLookbehind
  | noSuchGroup (number : Nat)
  | setOpen
  | badRange (first last : String)
  | leastAboveMost
  | nothingToRepeat
  | repeatedTwice
  | endsEarly
  | nameMissing (what : String)
  | nameOpen (closer : String)
  | badGroupName (name : String)
  | unknownGroupName (name : String)
  | groupRenamed (name : String) (now before : Nat)
  | zeroGroup
  | threeBranches
  | unknownExtension (text : String)
  | commentOpen
  | groupUnclosed
  | strayCloser
  | lateFlags
  | byteFlag
  | clashingFlags
  | clashingFlagsOff
  | flagOnAndOff
  | unknownFlag
  | flagMissing
  | flagEndMissing
  | flagColonMissing
  | variableLookbehind
deriving DecidableEq, Repr

def Fault.message : Fault → String
  | escapeAtEnd => "bad escape (end of pattern)"
  | incompleteEscape e => "incomplete escape " ++ e
  | badEscape e => "bad escape " ++ e
  | octalTooLarge e => "octal escape value " ++ e ++ " outside of range 0-0o377"
  | characterNameOpen => "missing \x7b"
  | characterNameUnknown n => "undefined character name " ++ Text.quoted n
  | groupOpen => "cannot refer to an open group"
  | groupInSameLookbehind => "cannot refer to group defined in the same lookbehind subpattern"
  | noSuchGroup n => "invalid group reference " ++ toString n
  | setOpen => "unterminated character set"
  | badRange a b => "bad character range " ++ a ++ "-" ++ b
  | leastAboveMost => "min repeat greater than max repeat"
  | nothingToRepeat => "nothing to repeat"
  | repeatedTwice => "multiple repeat"
  | endsEarly => "unexpected end of pattern"
  | nameMissing what => "missing " ++ what
  | nameOpen closer => "missing " ++ closer ++ ", unterminated name"
  | badGroupName n => "bad character in group name " ++ Text.quoted n
  | unknownGroupName n => "unknown group name " ++ Text.quoted n
  | groupRenamed n now before =>
    "redefinition of group name " ++ Text.quoted n ++ " as group " ++ toString now ++
      "; was group " ++ toString before
  | zeroGroup => "bad group number"
  | threeBranches => "conditional backref with more than two branches"
  | unknownExtension t => "unknown extension ?" ++ t
  | commentOpen => "missing ), unterminated comment"
  | groupUnclosed => "missing ), unterminated subpattern"
  | strayCloser => "unbalanced parenthesis"
  | lateFlags => "global flags not at the start of the expression"
  | byteFlag => "bad inline flags: cannot use 'L' flag with a str pattern"
  | clashingFlags => "bad inline flags: flags 'a', 'u' and 'L' are incompatible"
  | clashingFlagsOff => "bad inline flags: cannot turn off flags 'a', 'u' and 'L'"
  | flagOnAndOff => "bad inline flags: flag turned on and off"
  | unknownFlag => "unknown flag"
  | flagMissing => "missing flag"
  | flagEndMissing => "missing -, : or )"
  | flagColonMissing => "missing :"
  | variableLookbehind => "look-behind requires fixed-width pattern"

/-- Why a text was not read as a pattern: a fault, with its place unless it concerns the whole, a
count beyond the limit, or flags at the start that contradict each other. -/
inductive Error where
  | malformed (fault : Fault) (place : Option Nat)
  | countTooLarge
  | flagsContradict
deriving DecidableEq, Repr

/-- The place of a fault in words: its offset, and in a pattern of several lines also its line and
column. -/
def placeIn (pattern : List Char) (place : Nat) : String :=
  let before := pattern.take place
  let line := before.count '\n' + 1
  let column := (before.reverse.takeWhile (· != '\n')).length + 1
  " at position " ++ toString place ++
    if pattern.contains '\n' then
      " (line " ++ toString line ++ ", column " ++ toString column ++ ")"
    else ""

def Error.message (pattern : String) : Error → String
  | malformed fault none => fault.message
  | malformed fault (some place) => fault.message ++ placeIn pattern.toList place
  | countTooLarge => "the repetition number is too large"
  | flagsContradict => "ASCII and UNICODE flags are incompatible"

end CodeTwins.Pattern
