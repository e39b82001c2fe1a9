import GateMachine.Source.Lines
import GateMachine.Source.Phrase

/-!
The form of a single line: blanks, at most one phrase followed by blanks, and
at most one comment, which runs from `//` to the end of the line. A line that
does not have the form is refused at the place where it departs from it, and
one that has it can be written out again (`chars_of_read`).
-/

namespace GateMachine

namespace Source

structure LineForm where
  lead : List Char
  phrase : Option Phrase
  trail : List Char
  comment : Option (List Char)
  deriving DecidableEq

namespace LineForm

def phraseChars : Option Phrase → List Char
  | some phrase => phrase.chars
  | none => []

def commentChars : Option (List Char) → List Char
  | some note => '/' :: '/' :: note
  | none => []

/-- The line written out again. -/
def chars (form : LineForm) : List Char :=
  form.lead ++ phraseChars form.phrase ++ form.trail ++ commentChars form.comment

/-- What was wanted where a line departs from its form. -/
inductive Wanted where
  | instruction
  | operand (kind : OperandKind)
  | lineEnd
  deriving DecidableEq

/-- The part of a line that was read, and what was wanted next. -/
structure Fault where
  before : List Char
  wanted : Wanted
  deriving DecidableEq

/-- Nothing or a comment; anything else is no end of a line. -/
def ending? : List Char → Option (Option (List Char))
  | [] => some none
  | '/' :: '/' :: note => some (some note)
  | _ => none

def read (body : List Char) : Except Fault LineForm :=
  let lead := body.takeWhile isBlank
  let rest := body.dropWhile isBlank
  match ending? rest with
  | some comment => .ok { lead, phrase := none, trail := [], comment }
  | none =>
      match Phrase.split rest with
      | .error .mnemonic => .error ⟨lead, .instruction⟩
      | .error (.operand head kind) => .error ⟨lead ++ head, .operand kind⟩
      | .ok (phrase, after) =>
          let trail := after.takeWhile isBlank
          match ending? (after.dropWhile isBlank) with
          | some comment => .ok { lead, phrase := some phrase, trail, comment }
          | none => .error ⟨lead ++ phrase.chars ++ trail, .lineEnd⟩

theorem commentChars_of_ending? {source : List Char} {comment : Option (List Char)}
    (found : ending? source = some comment) :
    commentChars comment = source := by
  unfold ending? at found
  split at found
  · cases found; rfl
  · cases found; rfl
  · contradiction

theorem chars_of_read {body : List Char} {form : LineForm}
    (found : read body = .ok form) : form.chars = body := by
  simp only [read] at found
  split at found
  · next comment ends =>
      cases found
      have tail := commentChars_of_ending? ends
      simp [chars, phraseChars, tail]
  · split at found
    · contradiction
    · contradiction
    · next phrase after splits =>
        split at found
        · next comment ends =>
            cases found
            have tail := commentChars_of_ending? ends
            have middle := Phrase.split_append splits
            simp [chars, phraseChars, tail, middle]
        · contradiction

end LineForm

end Source

end GateMachine
