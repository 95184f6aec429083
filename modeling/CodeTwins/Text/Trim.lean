import CodeTwins.Unicode.Space

/-!
# Trimming and cutting texts

Texts are lists of characters here. White space is that of `Unicode.isSpace`.
-/
namespace CodeTwins.Text

def trimStart (p : Char → Bool) (s : List Char) : List Char :=
  s.dropWhile p

def trimEnd (p : Char → Bool) (s : List Char) : List Char :=
  (s.reverse.dropWhile p).reverse

def trim (s : List Char) : List Char :=
  trimEnd Unicode.isSpace (trimStart Unicode.isSpace s)

/-- A text without white space at both ends. -/
def trimmed (s : String) : String :=
  String.ofList (trim s.toList)

/-- The parts between the occurrences of a character; one more than there are of these. -/
def splitOn (sep : Char) : List Char → List (List Char)
  | [] => [[]]
  | c :: cs =>
    match splitOn sep cs with
    | [] => [[]]
    | part :: parts => if c = sep then [] :: part :: parts else (c :: part) :: parts

def joinWith (sep : Char) : List (List Char) → List Char
  | [] => []
  | [part] => part
  | part :: parts => part ++ sep :: joinWith sep parts

/-- Characters that end a line, the carriage return before a newline being one end with it. -/
def endsLine (c : Char) : Bool :=
  [10, 11, 12, 13, 0x1C, 0x1D, 0x1E, 0x85, 0x2028, 0x2029].contains c.toNat

/-- The lines of a text after the part of a line already read, without their ends. -/
def linesAfter (part : List Char) : List Char → List (List Char)
  | [] => if part.isEmpty then [] else [part.reverse]
  | '\r' :: '\n' :: cs => part.reverse :: linesAfter [] cs
  | c :: cs => if endsLine c then part.reverse :: linesAfter [] cs else linesAfter (c :: part) cs

/-- The lines of a text, without their ends. -/
def lines (s : List Char) : List (List Char) :=
  linesAfter [] s

/-- Carriage returns, with a newline after them or without, become newlines. -/
def unifyNewlines : List Char → List Char
  | [] => []
  | '\r' :: '\n' :: cs => '\n' :: unifyNewlines cs
  | c :: cs => (if c = '\r' then '\n' else c) :: unifyNewlines cs

def occursIn (needle : List Char) : List Char → Bool
  | [] => needle.isEmpty
  | c :: cs => needle.isPrefixOf (c :: cs) || occursIn needle cs

end CodeTwins.Text
