import GateMachine.Text.Joining
import GateMachine.Text.Wide

/-!
How many columns a character takes on a terminal. A mark that joins the
character before it takes none, also where it belongs to a wide script.
-/

namespace GateMachine

namespace Text

/-- The Khmer sign for "and so on", which is drawn as three letters. -/
def isKhmerBeyyal (c : Char) : Bool := c.toNat = 0x17D8

def width (c : Char) : Nat :=
  if isKhmerBeyyal c then 3
  else if isJoining c then 0
  else if isWide c then 2
  else 1

end Text

end GateMachine
