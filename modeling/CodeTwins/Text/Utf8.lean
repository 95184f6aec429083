import CodeTwins.Text.Quoted

/-!
# UTF-8

Bytes as text. What is not well formed is either refused, with the place and the reason, or each
longest part of it that could still begin a character is replaced by one U+FFFD.
-/
namespace CodeTwins.Utf8

/-- Why bytes are not text. -/
inductive Reason where
  | badStart
  | badContinuation
  | endOfData
deriving DecidableEq, Repr

def Reason.message : Reason → String
  | badStart => "invalid start byte"
  | badContinuation => "invalid continuation byte"
  | endOfData => "unexpected end of data"

/-- What stands at the start of bytes: a character, or a part of a length that is none. -/
inductive Piece where
  | character (c : Char) (length : Nat)
  | malformed (length : Nat) (reason : Reason)
deriving DecidableEq, Repr

def Piece.length : Piece → Nat
  | character _ n => n
  | malformed n _ => n

def continues (b : UInt8) : Bool :=
  0x80 ≤ b && b < 0xC0

/-- Whether the second byte of a character may follow the first: no longer form than needed, no
surrogate, and nothing above U+10FFFF. -/
def mayFollow (first second : UInt8) : Bool :=
  continues second &&
    (if first = 0xE0 then 0xA0 ≤ second
    else if first = 0xED then second < 0xA0
    else if first = 0xF0 then 0x90 ≤ second
    else if first = 0xF4 then second < 0x90
    else true)

/-- The number of bytes of a character with this first byte; zero if there is none. -/
def sizeOf (first : UInt8) : Nat :=
  if first < 0x80 then 1
  else if first < 0xC2 then 0
  else if first < 0xE0 then 2
  else if first < 0xF0 then 3
  else if first < 0xF5 then 4
  else 0

def leadBits (first : UInt8) (size : Nat) : Nat :=
  if size = 1 then first.toNat else first.toNat % Nat.pow 2 (7 - size)

/-- Reads up to `more` further bytes of a character, of which `taken` have been read. -/
def continued (taken value : Nat) : Nat → List UInt8 → Piece
  | 0, _ => .character (Char.ofNat value) taken
  | _ + 1, [] => .malformed taken .endOfData
  | more + 1, b :: bs =>
    if continues b then continued (taken + 1) (value * 64 + b.toNat % 64) more bs
    else .malformed taken .badContinuation

/-- What stands at the start of bytes, of which the first is given. -/
def pieceAt (first : UInt8) (rest : List UInt8) : Piece :=
  let size := sizeOf first
  if size = 0 then .malformed 1 .badStart
  else
    match rest with
    | second :: _ =>
      if 1 < size && !mayFollow first second then .malformed 1 .badContinuation
      else continued 1 (leadBits first size) (size - 1) rest
    | [] => continued 1 (leadBits first size) (size - 1) rest

/-- The pieces of bytes, each with its position. A piece takes at least one byte. -/
def pieces (position : Nat) : List UInt8 → List (Nat × Piece)
  | [] => []
  | b :: bs =>
    let piece := pieceAt b bs
    (position, piece) :: pieces (position + max 1 piece.length) (bs.drop (piece.length - 1))
termination_by bytes => bytes.length
decreasing_by simp only [List.length_drop, List.length_cons]; omega

/-- Where and why bytes are not text. -/
structure Malformed where
  position : Nat
  length : Nat
  /-- The first byte that is in the way. -/
  byte : UInt8
  reason : Reason
deriving DecidableEq, Repr

/-- The words for bytes that are not text. -/
def Malformed.message (m : Malformed) : String :=
  let place :=
    if m.length ≤ 1 then
      "byte 0x" ++ String.ofList (Text.hexDigits 2 m.byte.toNat) ++ " in position " ++
        toString m.position
    else
      "bytes in position " ++ toString m.position ++ "-" ++
        toString (m.position + m.length - 1)
  "'utf-8' codec can't decode " ++ place ++ ": " ++ m.reason.message

/-- The text of bytes, with a replacement character for each malformed part. -/
def lossy (bytes : List UInt8) : List Char :=
  (pieces 0 bytes).map fun (_, piece) =>
    match piece with
    | .character c _ => c
    | .malformed _ _ => '\uFFFD'

def malformed? (bytes : List UInt8) : Option Malformed :=
  (pieces 0 bytes).findSome? fun (position, piece) =>
    match piece with
    | .character _ _ => none
    | .malformed length reason =>
      some ⟨position, length, (bytes[position]?).getD 0, reason⟩

/-- The text of bytes, all of which must be well formed. -/
def decode (bytes : List UInt8) : Except Malformed (List Char) :=
  match malformed? bytes with
  | some m => .error m
  | none => .ok (lossy bytes)

def encode (s : String) : List UInt8 :=
  s.toUTF8.toList

end CodeTwins.Utf8
