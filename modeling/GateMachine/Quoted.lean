/-!
Quoted text. A quote, a backslash, a line feed and a tab inside a text are
written as a backslash and a letter; every other character stands for itself.
`value_escape` says that reading the written form gives the text back, and
`split?_append` that splitting off a quoted text loses nothing.
-/

namespace GateMachine

namespace Quoted

def escapeChar : Char → List Char
  | '"' => ['\\', '"']
  | '\\' => ['\\', '\\']
  | '\n' => ['\\', 'n']
  | '\t' => ['\\', 't']
  | c => [c]

def escape (text : List Char) : List Char := text.flatMap escapeChar

/-- The written form of a text, with its quotes. -/
def quote (text : String) : String :=
  "\"" ++ String.ofList (escape text.toList) ++ "\""

/-- Characters that stand for themselves: no quote, no backslash, no line end. -/
def isPlain (c : Char) : Bool :=
  c != '"' && c != '\\' && c != '\r' && c != '\n'

/-- The letters that may follow a backslash. -/
def isEscapable (c : Char) : Bool :=
  c == '"' || c == '\\' || c == 'n' || c == 't'

/-- Splits off the longest run of plain characters and escapes. -/
def splitBody : List Char → List Char × List Char
  | [] => ([], [])
  | '\\' :: c :: rest =>
      if isEscapable c then
        let (body, after) := splitBody rest
        ('\\' :: c :: body, after)
      else
        ([], '\\' :: c :: rest)
  | c :: rest =>
      if isPlain c then
        let (body, after) := splitBody rest
        (c :: body, after)
      else
        ([], c :: rest)

/-- What an escape letter stands for. -/
def unescapeChar : Char → Char
  | 'n' => '\n'
  | 't' => '\t'
  | c => c

/-- The text that a body between quotes stands for. -/
def value : List Char → List Char
  | [] => []
  | ['\\'] => []
  | '\\' :: c :: rest => unescapeChar c :: value rest
  | c :: rest => c :: value rest

/-- Splits off a quoted text from the front: its body and what follows. -/
def split? : List Char → Option (List Char × List Char)
  | '"' :: rest =>
      match splitBody rest with
      | (body, '"' :: after) => some (body, after)
      | _ => none
  | _ => none

theorem value_cons {c : Char} (notEscape : c ≠ '\\') (rest : List Char) :
    value (c :: rest) = c :: value rest := by
  simp [value, notEscape]

theorem value_escapeChar (c : Char) (rest : List Char) :
    value (escapeChar c ++ rest) = c :: value rest := by
  unfold escapeChar
  split
  · rfl
  · rfl
  · rfl
  · rfl
  · next notQuote notBackslash notFeed notTab =>
      exact value_cons notBackslash rest

theorem value_escape (text : List Char) : value (escape text) = text := by
  induction text with
  | nil => rfl
  | cons c rest ih =>
      have split : escape (c :: rest) = escapeChar c ++ escape rest := rfl
      rw [split, value_escapeChar, ih]

theorem splitBody_append (source : List Char) :
    (splitBody source).1 ++ (splitBody source).2 = source := by
  fun_induction splitBody source with
  | case1 => rfl
  | case2 c rest escapable body after split ih => simp_all
  | case3 c rest plain => rfl
  | case4 c rest notEscape plain body after split ih => simp_all
  | case5 c rest notEscape notPlain => rfl

theorem split?_append {source body after : List Char} (found : split? source = some (body, after)) :
    '"' :: body ++ '"' :: after = source := by
  unfold split? at found
  split at found
  · next rest =>
      split at found
      · next body' after' splits =>
          cases found
          have whole := splitBody_append rest
          rw [splits] at whole
          simp [← whole]
      · contradiction
  · contradiction

end Quoted

end GateMachine
