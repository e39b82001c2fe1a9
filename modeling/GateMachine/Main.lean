import GateMachine.Console

/-!
The command line. Only reading the file and writing the two streams happens
here.
-/

namespace GateMachine

namespace Console

/-- More ticks than anyone waits for. -/
def fuel : Nat := UInt64.size

/-- Reads the standard input to its end. -/
partial def readAll (stream : IO.FS.Stream) (sofar : ByteArray) : IO ByteArray := do
  let chunk ← stream.read 65536
  if chunk.isEmpty then pure sofar else readAll stream (sofar ++ chunk)

/-- The reason of a failed read; one that is not told apart counts as a missing file. -/
def readError : IO.Error → ReadError
  | .permissionDenied .. => .denied
  | .inappropriateType _ code _ => if code = 21 then .isDirectory else .notDirectory
  | .invalidArgument .. => .nameTooLong
  | _ => .missing

def readInput : Input → IO (Except ReadError ByteArray)
  | .standard => .ok <$> do readAll (← IO.getStdin) .empty
  | .file path => do
      try
        .ok <$> IO.FS.readBinFile path
      catch error =>
        pure (.error (readError error))

def print (transcript : Transcript) : IO UInt32 := do
  (← IO.getStdout).putStr transcript.stdout
  (← IO.getStderr).putStr transcript.stderr
  pure transcript.exit.toUInt32

end Console

end GateMachine

open GateMachine.Console in
def main (texts : List String) : IO UInt32 := do
  let content ← match Arguments.read texts with
    | .error _ => pure (.error .missing)
    | .ok arguments => readInput arguments.input
  match invoke fuel texts fun _ => content with
  | some transcript => print transcript
  | none => pure 1
