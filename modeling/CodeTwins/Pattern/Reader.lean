import CodeTwins.Pattern.Error
import CodeTwins.Pattern.Expr
import CodeTwins.Unicode.Identifier

/-!
# Reading patterns

A pattern is read token by token, where a backslash makes one token with the character after it.
The reader looks one token ahead, and meets a backslash that ends the pattern as soon as it would
have to look at it. Flags apply from the place where they are given on.
-/
namespace CodeTwins.Pattern

/-- A character, or a backslash with the character after it. -/
inductive Token where
  | plain (c : Char)
  | escape (c : Char)
deriving DecidableEq, Repr

def Token.chars : Token → List Char
  | plain c => [c]
  | escape c => ['\\', c]

def Token.text (t : Token) : String :=
  String.ofList t.chars

/-- Ways to read a pattern that can be switched on within it. -/
structure Flags where
  ignoreCase : Bool := false
  lines : Bool := true
  dotAll : Bool := false
  spaced : Bool := false
  ascii : Bool := false
  unicode : Bool := false
deriving DecidableEq, Repr

def Flags.casing (f : Flags) : Casing :=
  if f.ignoreCase then (if f.ascii then .ascii else .unicode) else .exact

/-- What is left to read, and what has been read so far. -/
structure Source where
  rest : List Char
  pos : Nat
  /-- The widths of the groups, the latest first; those still open have none. -/
  groups : List (Option Width) := []
  names : List (String × Nat) := []
  /-- The number of groups when the outermost open lookbehind began. -/
  lookbehind : Option Nat := none
  /-- Numbers of groups asked for before they were known, with the places. -/
  awaited : List (Nat × Nat) := []
  variableLookbehind : Bool := false
  flags : Flags := {}

abbrev Reader := StateT Source (Except Error)

namespace Reader

/-- A fault, `back` characters before what is read next. -/
def fail {α : Type} (fault : Fault) (back : Nat := 0) : Reader α := do
  throw (.malformed fault (some ((← get).pos - back)))

def failAt {α : Type} (fault : Fault) (place : Nat) : Reader α :=
  throw (.malformed fault (some place))

def peek : Reader (Option Token) := do
  match (← get).rest with
  | [] => return none
  | '\\' :: c :: _ => return some (.escape c)
  | c :: _ => return some (.plain c)

def lookAhead : Reader Unit := do
  let s ← get
  if s.rest = ['\\'] then failAt .escapeAtEnd s.pos

def next : Reader (Option Token) := do
  let token ← peek
  match token with
  | some t =>
    modify fun s => { s with rest := s.rest.drop t.chars.length, pos := s.pos + t.chars.length }
    lookAhead
  | none => pure ()
  return token

/-- Takes the given character if it comes next. -/
def accept (c : Char) : Reader Bool := do
  if (← peek) = some (.plain c) then
    discard next
    return true
  else return false

def takeWhile (p : Char → Bool) : Nat → Reader (List Char)
  | 0 => return []
  | n + 1 => do
    match ← peek with
    | some (.plain c) =>
      if p c then
        discard next
        return c :: (← takeWhile p n)
      else return []
    | _ => return []

/-- The number of groups, the whole match counted as one. -/
def groupCount : Reader Nat := do
  return (← get).groups.length + 1

/-- The width of a group; none if there is no such group or it is still open. -/
def groupWidth? (n : Nat) : Reader (Option Width) := do
  let groups := (← get).groups
  if n = 0 || groups.length < n then return none
  else return (groups[groups.length - n]?).join

/-- Within a lookbehind, only groups closed before it can be referred to. -/
def checkLookbehind (n : Nat) : Reader Unit := do
  match (← get).lookbehind with
  | none => pure ()
  | some known =>
    if (← groupWidth? n).isNone then fail .groupOpen
    if known ≤ n then fail .groupInSameLookbehind

end Reader

open Reader

def hexValue? (c : Char) : Option Nat :=
  if c.isDigit then some (c.toNat - 48)
  else if 'a' ≤ c ∧ c ≤ 'f' then some (c.toNat - 87)
  else if 'A' ≤ c ∧ c ≤ 'F' then some (c.toNat - 55)
  else none

def isOctal (c : Char) : Bool :=
  '0' ≤ c && c ≤ '7'

/-- The number written by digits in a base. Other characters count as zero. -/
def numeral (base : Nat) (digits : List Char) : Nat :=
  digits.foldl (fun n c => n * base + (hexValue? c).getD 0) 0

/-- The characters that may quantify a piece. -/
def quantifiers : List Char := ['*', '+', '?', '{']

def countLimit : Nat := 4294967295

def literal (f : Flags) (code : Nat) : Expr :=
  .letter (.among [.code code] false f.casing)

def kindOf? (ascii : Bool) : Char → Option Member
  | 'd' => some (.kind .digit ascii false)
  | 'D' => some (.kind .digit ascii true)
  | 's' => some (.kind .space ascii false)
  | 'S' => some (.kind .space ascii true)
  | 'w' => some (.kind .word ascii false)
  | 'W' => some (.kind .word ascii true)
  | _ => none

def placeOf? (ascii : Bool) : Char → Option Place
  | 'A' => some .textStart
  | 'Z' => some .textEnd
  | 'b' => some (.wordEdge ascii false)
  | 'B' => some (.wordEdge ascii true)
  | _ => none

def controlOf? : Char → Option Nat
  | 'a' => some 7
  | 'b' => some 8
  | 'f' => some 12
  | 'n' => some 10
  | 'r' => some 13
  | 't' => some 9
  | 'v' => some 11
  | '\\' => some 92
  | _ => none

/-- A name up to the closing character, which is taken too. The argument bounds its length. -/
def readNameTo (closer : Char) (what : String) : Nat → List Char → Reader String
  | 0, name => return String.ofList name
  | fuel + 1, name => do
    match ← next with
    | none =>
      if name.isEmpty then fail (.nameMissing what)
      else fail (.nameOpen (String.singleton closer)) name.length
    | some t =>
      if t = .plain closer then
        if name.isEmpty then fail (.nameMissing what) 1
        return String.ofList name
      else readNameTo closer what fuel (name ++ t.chars)

def readName (closer : Char) (what : String) : Reader String := do
  readNameTo closer what ((← get).rest.length + 1) []

/-- A group name up to the closing character, which must be an identifier. -/
def readGroupName (closer : Char) : Reader String := do
  let name ← readName closer "group name"
  if !Unicode.isName name.toList then fail (.badGroupName name) (name.length + 1)
  return name

def readHex (letter : Char) (width : Nat) : Reader Nat := do
  let digits ← takeWhile (fun c => (hexValue? c).isSome) width
  let text := String.ofList ('\\' :: letter :: digits)
  if digits.length < width then fail (.incompleteEscape text) text.length
  let code := numeral 16 digits
  if 0x10FFFF < code then fail (.badEscape text) text.length
  return code

def readCode (c : Char) : Reader Nat := do
  match c with
  | 'x' => readHex c 2
  | 'u' => readHex c 4
  | 'U' => readHex c 8
  | 'N' =>
    if !(← accept '{') then fail .characterNameOpen
    let name ← readName '}' "character name"
    fail (.characterNameUnknown name) (name.length + 4)
  | _ =>
    if c.isAlpha || c.isDigit then fail (.badEscape (String.ofList ['\\', c])) 2
    else return c.toNat

/-- An octal escape after its backslash. -/
def octalCode (digits : List Char) : Reader Nat := do
  let code := numeral 8 digits
  if 0o377 < code then fail (.octalTooLarge (String.ofList ('\\' :: digits))) (digits.length + 1)
  return code

def readMemberEscape (f : Flags) (c : Char) : Reader Member := do
  if let some code := controlOf? c then return .code code
  if let some kind := kindOf? f.ascii c then return kind
  if isOctal c then
    return .code (← octalCode (c :: (← takeWhile isOctal 2)))
  return .code (← readCode c)

def againAt (f : Flags) (n : Nat) : Reader Expr := do
  checkLookbehind n
  return .again n f.casing

/-- A numbered reference, or an octal escape if there are three octal digits. -/
def readReference (f : Flags) (c : Char) : Reader Expr := do
  let second ← takeWhile Char.isDigit 1
  let third ←
    if isOctal c && second.all isOctal && !second.isEmpty then takeWhile isOctal 1 else pure []
  if !third.isEmpty then return literal f (← octalCode (c :: second ++ third))
  let digits := c :: second
  let n := numeral 10 digits
  if n < (← groupCount) then
    if (← groupWidth? n).isNone then fail .groupOpen (digits.length + 1)
    againAt f n
  else fail (.noSuchGroup n) digits.length

def readEscape (f : Flags) (c : Char) : Reader Expr := do
  if let some place := placeOf? f.ascii c then return .place place
  if let some kind := kindOf? f.ascii c then return .letter (.among [kind] false f.casing)
  if let some code := controlOf? c then return literal f code
  if c = '0' then return literal f (numeral 8 (← takeWhile isOctal 2))
  if c.isDigit then readReference f c else return literal f (← readCode c)

/-- One end of a range, or a single member. -/
def readMember (f : Flags) (t : Token) : Reader Member :=
  match t with
  | .escape c => readMemberEscape f c
  | .plain c => return .code c.toNat

/-- The members of a set after its opening bracket, which stands at `start`. -/
def readMembers (f : Flags) (start : Nat) : Nat → List Member → Reader (List Member)
  | 0, members => return members
  | fuel + 1, members => do
    let some t ← next | failAt .setOpen start
    if t = .plain ']' && !members.isEmpty then return members
    let member ← readMember f t
    if ← accept '-' then
      let some u ← next | failAt .setOpen start
      if u = .plain ']' then return members ++ [member, .code '-'.toNat]
      let last ← readMember f u
      let bad := Fault.badRange t.text u.text
      let back := t.chars.length + 1 + u.chars.length
      match member, last with
      | .code a, .code b =>
        if b < a then fail bad back
        readMembers f start fuel (members ++ [.range a b])
      | _, _ => fail bad back
    else readMembers f start fuel (members ++ [member])

/-- A set after its opening bracket. -/
def readSet (f : Flags) : Reader Expr := do
  let start := (← get).pos - 1
  let negated ← accept '^'
  let members ← readMembers f start ((← get).rest.length + 1) []
  return .letter (.among members negated f.casing)

/-- A comment after its opening, up to the closing parenthesis. -/
def skipComment (start : Nat) : Nat → Reader Unit
  | 0 => return
  | fuel + 1 => do
    match ← next with
    | none => failAt .commentOpen start
    | some t => if t = .plain ')' then return else skipComment start fuel

def skipLine : Nat → Reader Unit
  | 0 => return
  | fuel + 1 => do
    match ← next with
    | none => return
    | some t => if t = .plain '\n' then return else skipLine fuel

def Flags.on (f : Flags) : Char → Option Flags
  | 'i' => some { f with ignoreCase := true }
  | 'm' => some { f with lines := true }
  | 's' => some { f with dotAll := true }
  | 'x' => some { f with spaced := true }
  | 'a' => some { f with ascii := true }
  | 'u' => some { f with unicode := true }
  | _ => none

def flagLetters : List Char := ['i', 'L', 'm', 's', 'x', 'a', 'u']

def flagFault (t : Token) (otherwise : Fault) : Fault :=
  match t with
  | .plain c =>
    if Unicode.isAlphanumeric c && !Unicode.isDigit c then .unknownFlag else otherwise
  | .escape _ => otherwise

/-- Flags to switch on, up to the character that ends them, which is returned. -/
def readFlagsOn : Nat → Char → List Char → Reader (List Char × Char)
  | 0, c, letters => return (letters ++ [c], ')')
  | fuel + 1, c, letters => do
    if c = 'L' then fail .byteFlag
    let letters := letters ++ [c]
    if letters.contains 'a' && letters.contains 'u' && (c = 'a' || c = 'u') then
      fail .clashingFlags
    match ← next with
    | none => fail .flagEndMissing
    | some (.plain d) =>
      if d = ')' || d = '-' || d = ':' then return (letters, d)
      else if flagLetters.contains d then readFlagsOn fuel d letters
      else fail (flagFault (.plain d) .flagEndMissing) 1
    | some t => fail (flagFault t .flagEndMissing) t.chars.length

/-- Flags to switch off, up to the colon. -/
def readFlagsOff : Nat → Char → List Char → Reader (List Char)
  | 0, c, letters => return letters ++ [c]
  | fuel + 1, c, letters => do
    if c = 'a' || c = 'u' || c = 'L' then fail .clashingFlagsOff
    let letters := letters ++ [c]
    match ← next with
    | none => fail .flagColonMissing
    | some (.plain d) =>
      if d = ':' then return letters
      else if flagLetters.contains d then readFlagsOff fuel d letters
      else fail (flagFault (.plain d) .flagColonMissing) 1
    | some t => fail (flagFault t .flagColonMissing) t.chars.length

def Flags.scoped (f : Flags) (on off : List Char) : Flags :=
  let f := if on.contains 'a' || on.contains 'u' then { f with ascii := false, unicode := false }
    else f
  let f := on.foldl (fun f c => (f.on c).getD f) f
  { f with
    ignoreCase := f.ignoreCase && !off.contains 'i'
    lines := f.lines && !off.contains 'm'
    dotAll := f.dotAll && !off.contains 's'
    spaced := f.spaced && !off.contains 'x' }

/-- Flags after the question mark of a group. Without a result they hold for the whole pattern, and
the group has ended. -/
def readFlags (c : Char) : Reader (Option (List Char × List Char)) := do
  let fuel := (← get).rest.length + 1
  let (on, closer) ← if c = '-' then pure ([], '-') else readFlagsOn fuel c []
  if closer = ')' then
    modify fun s => { s with flags := on.foldl (fun f c => (f.on c).getD f) s.flags }
    return none
  if closer = ':' then return some (on, [])
  match ← next with
  | none => fail .flagMissing
  | some (.plain d) =>
    if flagLetters.contains d then
      let off ← readFlagsOff fuel d []
      if on.any off.contains then fail .flagOnAndOff 1
      return some (on, off)
    else fail (flagFault (.plain d) .flagMissing) 1
  | some t => fail (flagFault t .flagMissing) t.chars.length

/-- A piece of a pattern, with what decides whether it can be repeated. -/
inductive Piece where
  | place (e : Expr)
  | repeated (e : Expr)
  | other (e : Expr)

def Piece.expr : Piece → Expr
  | place e => e
  | repeated e => e
  | other e => e

/-- The least and greatest count of a quantifier that starts with the given character; none if the
brace is an ordinary character. -/
def readCounts (c : Char) : Reader (Option (Nat × Option Nat)) := do
  match c with
  | '?' => return some (0, some 1)
  | '*' => return some (0, none)
  | '+' => return some (1, none)
  | _ =>
    let s ← get
    if (← peek) = some (.plain '}') then return none
    let low ← takeWhile Char.isDigit s.rest.length
    let high ← if ← accept ',' then takeWhile Char.isDigit s.rest.length else pure low
    if !(← accept '}') then
      set s
      return none
    let least := numeral 10 low
    if countLimit ≤ least then throw .countTooLarge
    if high.isEmpty then return some (least, none)
    let most := numeral 10 high
    if countLimit ≤ most then throw .countTooLarge
    if most < least then failAt .leastAboveMost s.pos
    return some (least, some most)

/-- How a repetition goes on, after its counts. -/
def readGreed : Reader Greed := do
  if ← accept '?' then return .lazy
  if ← accept '+' then return .possessive
  return .greedy

/-- Repeats the last piece. The quantifier stands at `start`. -/
def repeatLast (start : Nat) (least : Nat) (most : Option Nat) (pieces : List Piece) :
    Reader (List Piece) := do
  match pieces with
  | [] => failAt .nothingToRepeat start
  | .place _ :: _ => failAt .nothingToRepeat start
  | .repeated _ :: _ => failAt .repeatedTwice start
  | .other e :: before =>
    return .repeated (.rep least most (← readGreed) e) :: before

def openGroup (name : Option String) : Reader Nat := do
  let n ← groupCount
  modify fun s => { s with groups := none :: s.groups }
  if let some name := name then
    if let some (_, before) := (← get).names.find? (·.1 == name) then
      fail (.groupRenamed name n before) (name.length + 1)
    modify fun s => { s with names := (name, n) :: s.names }
  return n

/-- The width of a group, zero for one that is not closed. -/
def widthIn (groups : List (Option Width)) (n : Nat) : Width :=
  if n = 0 || groups.length < n then ⟨0, some 0⟩
  else ((groups[groups.length - n]?).join).getD ⟨0, some 0⟩

def closeGroup (n : Nat) (body : Expr) : Reader Unit :=
  modify fun s =>
    { s with groups := s.groups.set (s.groups.length - n) (some (body.width (widthIn s.groups))) }

def readCondition : Reader Nat := do
  let name ← readName ')' "group name"
  if Unicode.isName name.toList then
    match (← get).names.find? (·.1 == name) with
    | some (_, n) => return n
    | none => fail (.unknownGroupName name) (name.length + 1)
  if !name.toList.all Char.isDigit then fail (.badGroupName name) (name.length + 1)
  let n := numeral 10 name.toList
  if n = 0 then fail .zeroGroup (name.length + 1)
  let s ← get
  if !s.awaited.any (·.1 == n) then
    set { s with awaited := s.awaited ++ [(n, s.pos - name.length - 1)] }
  return n

def closeParen (start : Nat) : Reader Unit := do
  if !(← accept ')') then failAt .groupUnclosed start

def readNamedReference (f : Flags) : Reader Expr := do
  let name ← readGroupName ')'
  match (← get).names.find? (·.1 == name) with
  | none => fail (.unknownGroupName name) (name.length + 1)
  | some (_, n) =>
    if (← groupWidth? n).isNone then fail .groupOpen (name.length + 1)
    againAt f n

/-- What a group turned out to be after its opening parenthesis. -/
inductive Opening where
  | capture (name : Option String)
  | plain (on off : List Char)
  | atomic
  | look (behind negated : Bool)
  | condition
  | reference (e : Expr)
  | nothing
  | globalFlags

def readOpening (f : Flags) (start : Nat) : Reader Opening := do
  if !(← accept '?') then return .capture none
  let some t ← next | fail .endsEarly
  match t with
  | .plain 'P' =>
    if ← accept '<' then return .capture (some (← readGroupName '>'))
    if ← accept '=' then return .reference (← readNamedReference f)
    let some u ← next | fail .endsEarly
    fail (.unknownExtension ("P" ++ u.text)) (u.chars.length + 2)
  | .plain ':' => return .plain [] []
  | .plain '#' =>
    skipComment start ((← get).rest.length + 1)
    return .nothing
  | .plain '=' => return .look false false
  | .plain '!' => return .look false true
  | .plain '<' =>
    let some u ← next | fail .endsEarly
    match u with
    | .plain '=' => return .look true false
    | .plain '!' => return .look true true
    | _ => fail (.unknownExtension ("<" ++ u.text)) (u.chars.length + 2)
  | .plain '(' => return .condition
  | .plain '>' => return .atomic
  | .plain c =>
    if flagLetters.contains c || c = '-' then
      match ← readFlags c with
      | some (on, off) => return .plain on off
      | none => return .globalFlags
    else fail (.unknownExtension t.text) 2
  | .escape _ => fail (.unknownExtension t.text) 3

mutual

/-- Alternatives up to a closing parenthesis or the end. Only the outermost may start with flags
for the whole pattern. -/
def readAlternatives (outer : Bool) : Nat → Flags → List Expr → Reader Expr
  | 0, _, done => return .oneOf done
  | fuel + 1, f, done => do
    let pieces ← readPieces (outer && done.isEmpty) fuel f []
    let whole := (← get).flags
    let f := if outer then whole else f
    let done := done ++ [Expr.ofList (pieces.map Piece.expr)]
    if ← accept '|' then readAlternatives outer fuel f done else return .oneOf done

/-- The pieces of one alternative. Those read so far are given the latest first. -/
def readPieces (outer : Bool) : Nat → Flags → List Piece → Reader (List Piece)
  | 0, _, pieces => return pieces.reverse
  | fuel + 1, f, pieces => do
    let start := (← get).pos
    match ← peek with
    | none => return pieces.reverse
    | some (.plain '|') => return pieces.reverse
    | some (.plain ')') => return pieces.reverse
    | some (.escape c) =>
      discard next
      let e ← readEscape f c
      let piece := match e with
        | .place _ => Piece.place e
        | _ => Piece.other e
      readPieces outer fuel f (piece :: pieces)
    | some (.plain c) =>
      discard next
      if f.spaced && (c = ' ' || ('\t' ≤ c && c ≤ '\r')) then readPieces outer fuel f pieces
      else if f.spaced && c = '#' then
        skipLine ((← get).rest.length + 1)
        readPieces outer fuel f pieces
      else if c = '[' then readPieces outer fuel f (.other (← readSet f) :: pieces)
      else if quantifiers.contains c then
        match ← readCounts c with
        | none => readPieces outer fuel f (.other (literal f c.toNat) :: pieces)
        | some (least, most) =>
          readPieces outer fuel f (← repeatLast start least most pieces)
      else if c = '.' then
        readPieces outer fuel f (.other (.letter (if f.dotAll then .any else .inLine)) :: pieces)
      else if c = '^' then
        readPieces outer fuel f
          (.place (.place (if f.lines then .lineStart else .textStart)) :: pieces)
      else if c = '$' then
        readPieces outer fuel f
          (.place (.place (if f.lines then .lineEnd else .lastLineEnd)) :: pieces)
      else if c = '(' then
        match ← readOpening f start with
        | .nothing => readPieces outer fuel f pieces
        | .globalFlags =>
          if !outer || !pieces.isEmpty then failAt .lateFlags start
          readPieces outer fuel (← get).flags pieces
        | .reference e => readPieces outer fuel f (.other e :: pieces)
        | .capture name =>
          let n ← openGroup name
          let body ← readAlternatives false fuel f []
          closeParen start
          closeGroup n body
          readPieces outer fuel f (.other (.group n body) :: pieces)
        | .plain on off =>
          let body ← readAlternatives false fuel (f.scoped on off) []
          closeParen start
          readPieces outer fuel f (.other body :: pieces)
        | .atomic =>
          let body ← readAlternatives false fuel f []
          closeParen start
          readPieces outer fuel f (.other (.once body) :: pieces)
        | .look false negated =>
          let body ← readAlternatives false fuel f []
          closeParen start
          readPieces outer fuel f (.other (.ahead negated body) :: pieces)
        | .look true negated =>
          let outermost := (← get).lookbehind
          let count ← groupCount
          modify fun s => { s with lookbehind := some (outermost.getD count) }
          let body ← readAlternatives false fuel f []
          modify fun s => { s with lookbehind := outermost }
          closeParen start
          let width := body.width (widthIn (← get).groups)
          if width.only?.isNone then modify fun s => { s with variableLookbehind := true }
          readPieces outer fuel f (.other (.behind width.least negated body) :: pieces)
        | .condition =>
          let n ← readCondition
          checkLookbehind n
          let yes ← readPieces false fuel f []
          let no ← if ← accept '|' then
              let no ← readPieces false fuel f []
              if (← peek) = some (.plain '|') then fail .threeBranches
              pure no
            else pure []
          closeParen start
          let branch := fun ps : List Piece => Expr.ofList (ps.map Piece.expr)
          readPieces outer fuel f (.other (.ifGroup n (branch yes) (branch no)) :: pieces)
      else readPieces outer fuel f (.other (literal f c.toNat) :: pieces)

end

/-- A whole pattern: its expression and the number of its groups. -/
def readPattern : Reader (Expr × Nat) := do
  lookAhead
  let s ← get
  let e ← readAlternatives true (2 * s.rest.length + 2) s.flags []
  let s ← get
  if s.flags.ascii && s.flags.unicode then throw .flagsContradict
  if !s.rest.isEmpty then fail .strayCloser
  for (n, place) in s.awaited do
    if s.groups.length < n then failAt (.noSuchGroup n) place
  if s.variableLookbehind then throw (.malformed .variableLookbehind none)
  return (e, s.groups.length)

end CodeTwins.Pattern
