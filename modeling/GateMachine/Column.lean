/-!
Text laid out in columns. A width is a number of characters; a text that is
already as wide is left as it is.
-/

namespace GateMachine

namespace Column

def spaces (count : Nat) : String := String.ofList (List.replicate count ' ')

def padLeft (width : Nat) (text : String) : String := spaces (width - text.length) ++ text

def padRight (width : Nat) (text : String) : String := text ++ spaces (width - text.length)

end Column

end GateMachine
