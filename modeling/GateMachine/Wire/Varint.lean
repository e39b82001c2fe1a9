import GateMachine.Wire.Decoder

/-!
Numbers of varying length: seven bits to a byte, the low ones first, and the
high bit of a byte set when more follow. A number of a given width may take
more bytes than it needs, but never more than the width allows.
-/

namespace GateMachine

namespace Wire

def varint (number : Nat) : List UInt8 :=
  if number < 128 then [number.toUInt8]
  else (number % 128 + 128).toUInt8 :: varint (number / 128)

/-- How many bytes a number may take, and how large the last of that many may be. -/
structure Width where
  bytes : Nat
  last : Nat
  deriving DecidableEq

def Width.bits64 : Width := ⟨10, 1⟩

def Width.bits32 : Width := ⟨5, 15⟩

/-- Reads a number of at most `count` more bytes. -/
def varintWithin (last : Nat) : Nat → Decoder Nat
  | 0, _ => .error .badVarint
  | _ + 1, [] => .error .unexpectedEnd
  | count + 1, byte :: rest =>
      if byte.toNat < 128 then
        -- The last byte allowed holds only the bits that the width has left.
        if count = 0 ∧ last < byte.toNat then .error .badVarint else .ok (byte.toNat, rest)
      else
        match varintWithin last count rest with
        | .error error => .error error
        | .ok (high, after) => .ok (byte.toNat - 128 + 128 * high, after)

def Decoder.varint (width : Width) : Decoder Nat := varintWithin width.last width.bytes

def Decoder.number : Decoder UInt64 := Decoder.map Nat.toUInt64 (Decoder.varint .bits64)

end Wire

end GateMachine
