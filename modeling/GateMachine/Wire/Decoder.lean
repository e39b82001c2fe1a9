/-!
Decoders of byte strings. A decoder reads a value off the front of the bytes
and leaves the rest; it stops at the first thing that is wrong.
-/

namespace GateMachine

namespace Wire

inductive DecodeError where
  | unexpectedEnd
  | badVarint
  | badText
  | invalid
  deriving DecidableEq

def DecodeError.message : DecodeError → String
  | .unexpectedEnd => "Hit the end of buffer, expected more data"
  | .badVarint =>
      "Found a varint that didn't terminate. Is the usize too big for this platform?"
  | .badText => "Tried to parse invalid utf-8"
  | .invalid => "Serde Deserialization Error"

abbrev Decoder (α : Type) := List UInt8 → Except DecodeError (α × List UInt8)

namespace Decoder

variable {α β : Type}

/-- Reads one value, then what it asks for, from the bytes left over. -/
def andThen (first : Decoder α) (next : α → Decoder β) : Decoder β := fun bytes =>
  match first bytes with
  | .error error => .error error
  | .ok (value, rest) => next value rest

def map (f : α → β) (decoder : Decoder α) : Decoder β := fun bytes =>
  match decoder bytes with
  | .error error => .error error
  | .ok (value, rest) => .ok (f value, rest)

/-- Refuses a value that was read but has no meaning. -/
def mapOption (f : α → Option β) (reason : DecodeError) (decoder : Decoder α) : Decoder β :=
  fun bytes =>
    match decoder bytes with
    | .error error => .error error
    | .ok (value, rest) =>
        match f value with
        | some meaning => .ok (meaning, rest)
        | none => .error reason

def const (value : α) : Decoder α := fun bytes => .ok (value, bytes)

def byte : Decoder UInt8
  | [] => .error .unexpectedEnd
  | first :: rest => .ok (first, rest)

def bytes (count : Nat) : Decoder (List UInt8) := fun input =>
  if input.length < count then .error .unexpectedEnd
  else .ok (input.take count, input.drop count)

/-- Reads a value several times. -/
def times (decoder : Decoder α) : Nat → Decoder (List α)
  | 0 => const []
  | count + 1 =>
      andThen decoder fun first => map (first :: ·) (times decoder count)

end Decoder

end Wire

end GateMachine
