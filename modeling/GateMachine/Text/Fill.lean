import GateMachine.Text.Alphanumeric
import GateMachine.Text.Cut
import GateMachine.Text.Escape
import GateMachine.Text.LineBreak

/-!
Filling lines with the words of a text. A line takes words as long as they
fit. A word ends where a line may end, and after a hyphen between two letters
or numbers; one that does not fit on a line of its own is broken. Spaces at
the end of a line are left out; `flatMap_chars_packed` says that the words of
the lines, with the spaces after them, make up the whole text.
-/

namespace GateMachine

namespace Text

/-- A piece of a text, and how many spaces stand after it. -/
structure TextWord where
  text : List Char
  gap : Nat
  deriving DecidableEq

namespace TextWord

def columns (word : TextWord) : Nat := textColumns word.text

def chars (word : TextWord) : List Char := word.text ++ List.replicate word.gap ' '

def ofChars (chars : List Char) : TextWord :=
  { text := (chars.reverse.dropWhile (· == ' ')).reverse
    gap := (chars.reverse.takeWhile (· == ' ')).length }

theorem chars_ofChars (text : List Char) : (ofChars text).chars = text := by
  have spaces : text.reverse.takeWhile (· == ' ') =
      List.replicate (text.reverse.takeWhile (· == ' ')).length ' ' :=
    List.eq_replicate_iff.mpr ⟨rfl, fun c member => by
      simpa using List.all_eq_true.mp List.all_takeWhile c member⟩
  have whole := congrArg List.reverse
    (List.takeWhile_append_dropWhile (p := (· == ' ')) (l := text.reverse))
  rw [List.reverse_append, List.reverse_reverse, spaces, List.reverse_replicate] at whole
  exact whole

/-- The spaces after a word stand after the last of its parts. -/
def ofParts (gap : Nat) : List (List Char) → List TextWord
  | [] => [⟨[], gap⟩]
  | [part] => [⟨part, gap⟩]
  | part :: later => ⟨part, 0⟩ :: ofParts gap later

theorem flatMap_chars_ofParts (gap : Nat) (parts : List (List Char)) :
    (ofParts gap parts).flatMap chars = parts.flatten ++ List.replicate gap ' ' := by
  fun_induction ofParts gap parts with
  | case1 | case2 => simp [chars]
  | case3 part later _ ih => simp [chars, ih]

end TextWord

section Words

/-- Hyphens do not part words by themselves; whether they may is asked afterwards. -/
def isHyphen (c : Char) : Bool := c == '-' || c == '\u00ad'

/-- The words of a line. A hyphen at the end of the line keeps the last two together. -/
def words (line : List Char) : List TextWord :=
  let shown := Escape.outside.shown line
  let kinds := shown.map fun (c, drawn) => if drawn then some (BreakClass.ofChar c) else none
  let marks := (Place.start.breaksAfter kinds).zipWith
    (fun ends c => (c, ends && !isHyphen c)) line
  let pieces := cutAfter marks
  let lastDrawn := (shown.reverse.find? Prod.snd).map Prod.fst
  (if lastDrawn.any isHyphen then joinLast pieces else pieces).map TextWord.ofChars

theorem flatMap_chars_words (line : List Char) : (words line).flatMap TextWord.chars = line := by
  have pieces (marks : List (Char × Bool)) (kept : marks.map Prod.fst = line) (join : Bool) :
      ((if join then joinLast (cutAfter marks) else cutAfter marks).map TextWord.ofChars).flatMap
        TextWord.chars = line := by
    have same : TextWord.chars ∘ TextWord.ofChars = id := funext TextWord.chars_ofChars
    rw [List.flatMap_def, List.map_map, same, List.map_id, ← kept, ← flatten_cutAfter]
    cases join with
    | false => rfl
    | true => exact flatten_joinLast _
  apply pieces
  rw [List.map_zipWith]
  apply List.ext_getElem
  · simp [Place.length_breaksAfter, ← congrArg List.length (Escape.map_fst_shown .outside line)]
  · intros
    simp

/-- Marks the hyphens between two letters or numbers. -/
def hyphenMarks (before : Option Char) : List Char → List (Char × Bool)
  | [] => []
  | c :: rest =>
      (c, c == '-' && before.any isAlphanumeric && rest.head?.any isAlphanumeric) ::
        hyphenMarks (some c) rest

theorem map_fst_hyphenMarks (before : Option Char) (text : List Char) :
    (hyphenMarks before text).map Prod.fst = text := by
  induction text generalizing before with
  | nil => rfl
  | cons c rest ih => simp [hyphenMarks, ih]

def splitAtHyphens (word : TextWord) : List TextWord :=
  TextWord.ofParts word.gap (cutAfter (hyphenMarks none word.text))

theorem flatMap_chars_splitAtHyphens (word : TextWord) :
    (splitAtHyphens word).flatMap TextWord.chars = word.chars := by
  simp [splitAtHyphens, TextWord.flatMap_chars_ofParts, flatten_cutAfter, map_fst_hyphenMarks,
    TextWord.chars]

end Words

section Breaking

/-- How far a part of a word has come, which may stand within an escape sequence. -/
structure Pen where
  escape : Escape
  used : Nat

namespace Pen

def start : Pen := { escape := .outside, used := 0 }

/-- A character that does not fit goes to the next part, unless this one is empty. -/
def overflows (limit : Nat) (pen : Pen) (c : Char) : Bool :=
  !pen.escape.hides c && 0 < pen.used && limit < pen.used + columns c

def push (limit : Nat) (pen : Pen) (c : Char) : Pen :=
  { escape := pen.escape.next c
    used :=
      if pen.escape.hides c then pen.used
      else if pen.overflows limit c then columns c
      else pen.used + columns c }

/-- Marks the characters after which a part is full. -/
def marks (limit : Nat) (pen : Pen) : List Char → List (Char × Bool)
  | [] => []
  | c :: rest =>
      let pen := pen.push limit c
      (c, rest.head?.any (pen.overflows limit)) :: marks limit pen rest

theorem map_fst_marks (limit : Nat) (pen : Pen) (text : List Char) :
    (pen.marks limit text).map Prod.fst = text := by
  induction text generalizing pen with
  | nil => rfl
  | cons c rest ih => simp [marks, ih]

end Pen

def breakApart (limit : Nat) (word : TextWord) : List TextWord :=
  if limit < word.columns then
    TextWord.ofParts word.gap (cutAfter (Pen.start.marks limit word.text))
  else
    [word]

theorem flatMap_chars_breakApart (limit : Nat) (word : TextWord) :
    (breakApart limit word).flatMap TextWord.chars = word.chars := by
  unfold breakApart
  split
  · simp [TextWord.flatMap_chars_ofParts, flatten_cutAfter, Pen.map_fst_marks, TextWord.chars]
  · simp

end Breaking

section Lines

/-- Puts words on a line as long as they fit; `used` counts its columns so far. -/
def pack (limit used : Nat) (line : List TextWord) : List TextWord → List (List TextWord)
  | [] => [line]
  | word :: rest =>
      if limit < used + word.columns && !line.isEmpty then
        line :: pack limit (word.columns + word.gap) [word] rest
      else
        pack limit (used + word.columns + word.gap) (line ++ [word]) rest

theorem flatten_pack (limit used : Nat) (line rest : List TextWord) :
    (pack limit used line rest).flatten = line ++ rest := by
  fun_induction pack limit used line rest with
  | case1 => simp
  | case2 used line word rest full ih => simp [ih]
  | case3 used line word rest fits ih => simp [ih]

/-- The words of a text, line by line. -/
def packed (limit : Nat) (line : List Char) : List (List TextWord) :=
  pack limit 0 [] (((words line).flatMap splitAtHyphens).flatMap (breakApart limit))

theorem flatMap_chars_packed (limit : Nat) (line : List Char) :
    (packed limit line).flatten.flatMap TextWord.chars = line := by
  simp only [packed, flatten_pack, List.nil_append, List.flatMap_assoc,
    flatMap_chars_breakApart, flatMap_chars_splitAtHyphens, flatMap_chars_words]

/-- The words of a line with the spaces between them. -/
def lineText : List TextWord → List Char
  | [] => []
  | [word] => word.text
  | word :: rest => word.chars ++ lineText rest

/-- Every line of a text is filled by itself. -/
def fill (limit : Nat) (text : List Char) : List (List Char) :=
  (split '\n' text).flatMap fun line => (packed limit line).map lineText

end Lines

end Text

end GateMachine
