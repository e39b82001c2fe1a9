import GateMachine.Text.Width

/-!
Escape sequences, with which a text steers a terminal. They are not drawn, so
they take no columns. A sequence starts with an escape character; a bracket
after it tells how long it goes on.
-/

namespace GateMachine

namespace Text

/-- Where in an escape sequence a text stands. -/
inductive Escape where
  | outside
  | opened
  /-- Goes on to a letter or sign from the upper half of ASCII. -/
  | control
  /-- Goes on to a bell, or to an escape character with a backslash. -/
  | command (last : Char)
  deriving DecidableEq

namespace Escape

def opener : Char := '\x1b'

def bell : Char := '\x07'

def next : Escape → Char → Escape
  | outside, c => if c = opener then opened else outside
  | opened, c =>
      if c = '[' then control
      else if c = ']' then command c
      else outside
  | control, c => if 0x40 ≤ c.toNat ∧ c.toNat ≤ 0x7E then outside else control
  | command last, c =>
      if c = bell ∨ (c = '\\' ∧ last = opener) then outside else command c

def hides (escape : Escape) (c : Char) : Bool := escape != outside || c == opener

/-- The characters of a text, and whether each of them is drawn. -/
def shown (escape : Escape) : List Char → List (Char × Bool)
  | [] => []
  | c :: rest => (c, !escape.hides c) :: shown (escape.next c) rest

theorem map_fst_shown (escape : Escape) (text : List Char) :
    (escape.shown text).map Prod.fst = text := by
  induction text generalizing escape with
  | nil => rfl
  | cons c rest ih => simp [shown, ih]

end Escape

def isControl (c : Char) : Bool := c.toNat < 0x20 || (0x7F ≤ c.toNat && c.toNat ≤ 0x9F)

/-- The columns of a character in running text, where control characters take none. -/
def columns (c : Char) : Nat := if isControl c then 0 else width c

/-- The columns of a whole text. -/
def textColumns (text : List Char) : Nat :=
  (Escape.outside.shown text).foldr
    (fun (c, drawn) total => (if drawn then columns c else 0) + total) 0

end Text

end GateMachine
