import GateMachine.Text.WhiteSpace
import GateMachine.Text.Width

/-!
The rows of a source text as a report shows them, counted in characters. A row
keeps its terminator; a text that ends with a terminator has no empty row
after it, and an empty text is one empty row.
-/

namespace GateMachine

namespace Report

structure Row where
  index : Nat
  start : Nat
  chars : List Char
  deriving DecidableEq

/-- The characters that end a row, here including form feeds and Unicode separators. -/
def isTerminator (c : Char) : Bool :=
  [0x0A, 0x0B, 0x0C, 0x0D, 0x85, 0x2028, 0x2029].contains c.toNat

def splitRows : List Char → List (List Char)
  | [] => []
  -- A carriage return and a line feed end one row together.
  | '\r' :: '\n' :: rest => ['\r', '\n'] :: splitRows rest
  | c :: rest =>
      if isTerminator c then
        [c] :: splitRows rest
      else
        match splitRows rest with
        | [] => [[c]]
        | row :: later => (c :: row) :: later

def numberRows : Nat → Nat → List (List Char) → List Row
  | _, _, [] => []
  | index, start, chars :: rest =>
      { index, start, chars } :: numberRows (index + 1) (start + chars.length) rest

def rows (text : List Char) : List Row :=
  match splitRows text with
  | [] => [{ index := 0, start := 0, chars := [] }]
  | parts => numberRows 0 0 parts

/-- The row that an offset falls into; none for an offset past the end. -/
def rowAt? (text : List Char) (offset : Nat) : Option Row :=
  if text.length < offset then none
  else (rows text).reverse.find? fun row => row.start ≤ offset

namespace Row

def stop (row : Row) : Nat := row.start + row.chars.length

def number (row : Row) : String := toString (row.index + 1)

/-- What is shown of a row: all but the white space at its end. -/
def shown (row : Row) : List Char :=
  (row.chars.reverse.dropWhile Text.isWhiteSpace).reverse

/-- A tab reaches to the next multiple of four characters. -/
def charWidth (column : Nat) (c : Char) : Nat :=
  if c = '\t' then (column / 4 + 1) * 4 - column
  else if Text.isWhiteSpace c then 1
  else Text.width c

/-- The widths of the first `count` columns; past the text every column is one wide. -/
def widths (row : Row) (count : Nat) : List Nat :=
  let inside := (row.shown.zipIdx.map fun (c, column) => charWidth column c).take count
  inside ++ List.replicate (count - inside.length) 1

end Row

end Report

end GateMachine
