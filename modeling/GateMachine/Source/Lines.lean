import GateMachine.Source.Span

/-!
Splitting a source text into its lines. A line ends at a line feed, a carriage
return, or the two together; what follows the last line end is a line too, so
every text has at least one. `flatMap_chars_lines` says that nothing is lost.
-/

namespace GateMachine

namespace Source

inductive LineEnd where
  | feed
  | return
  | returnFeed
  | endOfText
  deriving DecidableEq

def LineEnd.chars : LineEnd → List Char
  | .feed => ['\n']
  | .return => ['\r']
  | .returnFeed => ['\r', '\n']
  | .endOfText => []

/-- No line holds one of these. -/
def endsLine (c : Char) : Bool := c == '\n' || c == '\r'

structure SourceLine where
  body : List Char
  ending : LineEnd
  deriving DecidableEq

namespace SourceLine

def chars (line : SourceLine) : List Char := line.body ++ line.ending.chars

def cons (c : Char) (line : SourceLine) : SourceLine := { line with body := c :: line.body }

end SourceLine

/-- Puts a character in front of the first line. -/
def consFirst (c : Char) : List SourceLine → List SourceLine
  | [] => []
  | line :: rest => line.cons c :: rest

def lines : List Char → List SourceLine
  | [] => [⟨[], .endOfText⟩]
  | '\n' :: rest => ⟨[], .feed⟩ :: lines rest
  -- The two together end one line, not two.
  | '\r' :: '\n' :: rest => ⟨[], .returnFeed⟩ :: lines rest
  | '\r' :: rest => ⟨[], .return⟩ :: lines rest
  | c :: rest => consFirst c (lines rest)

theorem consFirst_ne_nil {c : Char} {lines : List SourceLine} (some : lines ≠ []) :
    consFirst c lines ≠ [] := by
  cases lines with
  | nil => contradiction
  | cons line rest => simp [consFirst]

theorem lines_ne_nil (text : List Char) : lines text ≠ [] := by
  fun_induction lines text with
  | case5 c rest _ _ _ ih => exact consFirst_ne_nil ih
  | _ => simp

theorem flatMap_chars_consFirst {c : Char} {lines : List SourceLine} (some : lines ≠ []) :
    (consFirst c lines).flatMap SourceLine.chars = c :: lines.flatMap SourceLine.chars := by
  cases lines with
  | nil => contradiction
  | cons line rest => simp [consFirst, SourceLine.cons, SourceLine.chars]

theorem flatMap_chars_lines (text : List Char) :
    (lines text).flatMap SourceLine.chars = text := by
  fun_induction lines text with
  | case1 => rfl
  | case2 rest ih => simp [SourceLine.chars, LineEnd.chars, ih]
  | case3 rest ih => simp [SourceLine.chars, LineEnd.chars, ih]
  | case4 rest _ ih => simp [SourceLine.chars, LineEnd.chars, ih]
  | case5 c rest _ _ _ ih => rw [flatMap_chars_consFirst (lines_ne_nil rest), ih]

end Source

end GateMachine
