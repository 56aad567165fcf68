import EnvMerge.Text.Utf8

namespace EnvMerge

namespace Digest

def prime₁ : UInt64 := 0x9E3779B185EBCA87
def prime₂ : UInt64 := 0xC2B2AE3D27D4EB4F
def prime₃ : UInt64 := 0x165667B19E3779F9
def prime₄ : UInt64 := 0x85EBCA77C2B2AE63
def prime₅ : UInt64 := 0x27D4EB2F165667C5

def rotate (x bits : UInt64) : UInt64 :=
  (x <<< bits) ||| (x >>> (64 - bits))

-- The number that bytes of increasing weight spell.
def word (bytes : Bytes) : UInt64 :=
  bytes.foldr (fun b n => n * 256 + b.toUInt64) 0

def round (acc input : UInt64) : UInt64 :=
  rotate (acc + input * prime₂) 31 * prime₁

structure Lanes where
  a : UInt64
  b : UInt64
  c : UInt64
  d : UInt64

namespace Lanes

def start : Lanes :=
  ⟨prime₁ + prime₂, prime₂, 0, 0 - prime₁⟩

def absorb (l : Lanes) (stripe : Bytes) : Lanes where
  a := round l.a (word (stripe.take 8))
  b := round l.b (word ((stripe.drop 8).take 8))
  c := round l.c (word ((stripe.drop 16).take 8))
  d := round l.d (word ((stripe.drop 24).take 8))

-- The lanes after the first `n` stripes, and the bytes that follow.
def absorbAll : Nat → Lanes → Bytes → Lanes × Bytes
  | 0, l, bytes => (l, bytes)
  | n + 1, l, bytes => absorbAll n (l.absorb (bytes.take 32)) (bytes.drop 32)

def merge (l : Lanes) : UInt64 :=
  let sum := rotate l.a 1 + rotate l.b 7 + rotate l.c 12 + rotate l.d 18
  [l.a, l.b, l.c, l.d].foldl (fun h lane => (h ^^^ round 0 lane) * prime₁ + prime₄) sum

end Lanes

def absorbByte (h : UInt64) (b : UInt8) : UInt64 :=
  rotate (h ^^^ (b.toUInt64 * prime₅)) 11 * prime₁

-- Fewer than eight bytes: a half word if there is one, the rest byte by byte.
def absorbHalf (h : UInt64) (bytes : Bytes) : UInt64 :=
  if bytes.length < 4 then
    bytes.foldl absorbByte h
  else
    let h := rotate (h ^^^ (word (bytes.take 4) * prime₁)) 23 * prime₂ + prime₃
    (bytes.drop 4).foldl absorbByte h

-- Fewer than 32 bytes: `n` whole words, then the rest.
def absorbWords : Nat → UInt64 → Bytes → UInt64
  | 0, h, bytes => absorbHalf h bytes
  | n + 1, h, bytes =>
    absorbWords n (rotate (h ^^^ round 0 (word (bytes.take 8))) 27 * prime₁ + prime₄) (bytes.drop 8)

def mix (h : UInt64) : UInt64 :=
  let h := (h ^^^ (h >>> 33)) * prime₂
  let h := (h ^^^ (h >>> 29)) * prime₃
  h ^^^ (h >>> 32)

end Digest

-- The xxHash algorithm with seed zero: four lanes over stripes of 32 bytes, then the remaining
-- bytes one word at a time, then a final mixing.
def digest (bytes : Bytes) : UInt64 :=
  let (lanes, rest) := Digest.Lanes.absorbAll (bytes.length / 32) .start bytes
  let h := if bytes.length < 32 then Digest.prime₅ else lanes.merge
  Digest.mix (Digest.absorbWords (rest.length / 8) (h + bytes.length.toUInt64) rest)

def digestText (h : UInt64) : Text :=
  Text.hex 16 h.toNat

end EnvMerge
