import EnvMerge.Text.Quoted

namespace EnvMerge

abbrev Bytes := List UInt8

namespace Utf8

inductive Reason
  | invalidStart
  | invalidContinuation
  | truncated
deriving DecidableEq

def Reason.message : Reason → Text
  | invalidStart        => "invalid start byte".toList
  | invalidContinuation => "invalid continuation byte".toList
  | truncated           => "unexpected end of data".toList

-- A sequence of `length` bytes from `position` on, begun by `lead`, that is no character.
structure Fault where
  position : Nat
  length : Nat
  lead : UInt8
  reason : Reason
deriving DecidableEq

def Fault.message (f : Fault) : Text :=
  "'utf-8' codec can't decode ".toList ++ place ++ ": ".toList ++ f.reason.message
where
  place :=
    if f.length = 1 then
      "byte 0x".toList ++ Text.hex 2 f.lead.toNat ++ " in position ".toList ++ Text.ofNat f.position
    else
      "bytes in position ".toList ++ Text.ofNat f.position ++ ['-']
        ++ Text.ofNat (f.position + f.length - 1)

def encodeChar (c : Char) : Bytes :=
  let n := c.toNat
  if n < 0x80 then [n.toUInt8]
  else if n < 0x800 then [(0xC0 + n / 0x40).toUInt8, tail n]
  else if n < 0x10000 then [(0xE0 + n / 0x1000).toUInt8, tail (n / 0x40), tail n]
  else [(0xF0 + n / 0x40000).toUInt8, tail (n / 0x1000), tail (n / 0x40), tail n]
where
  tail (n : Nat) : UInt8 := (0x80 + n % 0x40).toUInt8

def encode (t : Text) : Bytes :=
  t.flatMap encodeChar

def isContinuation (b : UInt8) : Bool :=
  0x80 ≤ b && b < 0xC0

-- The second bytes that a lead byte of three or four byte sequences allows: no overlong form, no
-- surrogate, nothing past the last code point.
def isSecond (lead b : UInt8) : Bool :=
  isContinuation b
    && (lead != 0xE0 || 0xA0 ≤ b) && (lead != 0xED || b < 0xA0)
    && (lead != 0xF0 || 0x90 ≤ b) && (lead != 0xF4 || b < 0x90)

-- The character whose sequence has the given payload of its lead byte and these other bytes.
def charOf (payload : Nat) (rest : Bytes) : Char :=
  Char.ofNat (rest.foldl (fun n b => n * 0x40 + b.toNat % 0x40) payload)

-- Decodes bytes that stand at `position` of a longer source, up to the first byte that no
-- well-formed sequence allows.
def decodeFrom (position : Nat) : Bytes → Except Fault Text
  | [] => .ok []
  | a :: rest =>
    if a < 0x80 then
      (Char.ofNat a.toNat :: ·) <$> decodeFrom (position + 1) rest
    else if a < 0xC2 || 0xF4 < a then
      .error ⟨position, 1, a, .invalidStart⟩
    else match rest with
      | [] => .error ⟨position, 1, a, .truncated⟩
      | b :: rest =>
        if !isSecond a b then
          .error ⟨position, 1, a, .invalidContinuation⟩
        else if a < 0xE0 then
          (charOf (a.toNat % 0x20) [b] :: ·) <$> decodeFrom (position + 2) rest
        else match rest with
          | [] => .error ⟨position, 2, a, .truncated⟩
          | c :: rest =>
            if !isContinuation c then
              .error ⟨position, 2, a, .invalidContinuation⟩
            else if a < 0xF0 then
              (charOf (a.toNat % 0x10) [b, c] :: ·) <$> decodeFrom (position + 3) rest
            else match rest with
              | [] => .error ⟨position, 3, a, .truncated⟩
              | d :: rest =>
                if !isContinuation d then
                  .error ⟨position, 3, a, .invalidContinuation⟩
                else
                  (charOf (a.toNat % 0x8) [b, c, d] :: ·) <$> decodeFrom (position + 4) rest

def decode (source : Bytes) : Except Fault Text :=
  decodeFrom 0 source

end Utf8
end EnvMerge
