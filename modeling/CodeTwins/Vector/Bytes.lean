import CodeTwins.Vector.Scalar

/-!
# Vectors as bytes

A vector is stored as the eight bytes of each number, the least significant first.
-/
namespace CodeTwins.Vec

/-- The bytes of a word, the least significant first. -/
def bytesOfWord (w : UInt64) : List UInt8 :=
  [w.toUInt8, (w >>> 8).toUInt8, (w >>> 16).toUInt8, (w >>> 24).toUInt8,
    (w >>> 32).toUInt8, (w >>> 40).toUInt8, (w >>> 48).toUInt8, (w >>> 56).toUInt8]

/-- The word of eight bytes, the least significant first. -/
def wordOfBytes (b0 b1 b2 b3 b4 b5 b6 b7 : UInt8) : UInt64 :=
  b0.toUInt64 ||| (b1.toUInt64 <<< 8) ||| (b2.toUInt64 <<< 16) ||| (b3.toUInt64 <<< 24) |||
    (b4.toUInt64 <<< 32) ||| (b5.toUInt64 <<< 40) ||| (b6.toUInt64 <<< 48) ||| (b7.toUInt64 <<< 56)

def encodeWords (ws : List UInt64) : List UInt8 :=
  ws.flatMap bytesOfWord

/-- The words of bytes, whose number must be a multiple of eight. -/
def decodeWords : List UInt8 → Option (List UInt64)
  | [] => some []
  | b0 :: b1 :: b2 :: b3 :: b4 :: b5 :: b6 :: b7 :: rest =>
    (decodeWords rest).map (wordOfBytes b0 b1 b2 b3 b4 b5 b6 b7 :: ·)
  | _ => none

def encode (v : Vec Float) : List UInt8 :=
  encodeWords (v.map Float.toBits)

/-- The vector of bytes, whose number must be a multiple of eight. -/
def decode (bytes : List UInt8) : Option (Vec Float) :=
  (decodeWords bytes).map (·.map Float.ofBits)

end CodeTwins.Vec
