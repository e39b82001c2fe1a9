import GateMachine.Column
import GateMachine.Diagnostic
import GateMachine.Report.Ink
import GateMachine.Report.Row

/-!
The drawing of one diagnostic: a heading, the source rows that the span begins
and ends in, an arrow from the marked text to the message, and the helps. The
span's numbers are taken as character offsets. A span that does not lie in the
text leaves only the heading.
-/

namespace GateMachine

namespace Report

/-- What the rows of a drawing have in common. -/
structure Figure where
  color : Bool
  message : String
  start : Nat
  stop : Nat
  /-- The number of characters of the source. -/
  length : Nat
  first : Row
  last : Row

namespace Figure

variable (figure : Figure)

def paint (ink : Ink) (text : String) : String := Report.paint figure.color ink text

def label (text : String) : String := figure.paint .label text

def isMarked (offset : Nat) : Bool := figure.start ≤ offset && offset < figure.stop

section Margins

/-- How many digits the largest row number has. -/
def digits : Nat := figure.last.number.length

def numbered (row : Row) : String :=
  " " ++ figure.paint .margin (Column.padLeft figure.digits row.number ++ " │") ++ " "

def bar : String :=
  " " ++ figure.paint .skipped (Column.spaces (figure.digits + 1) ++ "│") ++ " "

def place : String :=
  s!" <program>:{figure.first.number}:{figure.start - figure.first.start + 1} "

def top : List String :=
  let indent := Column.spaces (figure.digits + 2)
  let frame := figure.paint .margin
  [indent ++ frame "╭" ++ frame "─" ++ frame "[" ++ figure.place ++ frame "]",
    indent ++ frame "│"]

def bottom : String :=
  figure.paint .margin (String.ofList (List.replicate (figure.digits + 2) '─') ++ "╯")

end Margins

section Text

/-- A character in its ink; white space is drawn as plain spaces of its width. -/
def glyph (row : Row) (column : Nat) (c : Char) : String :=
  let ink := if figure.isMarked (row.start + column) then Ink.label else Ink.unimportant
  if Text.isWhiteSpace c then
    String.join (List.replicate (Row.charWidth column c) (figure.paint ink " "))
  else
    figure.paint ink (String.singleton c)

def text (row : Row) : String :=
  String.join (row.shown.zipIdx.map fun (c, column) => figure.glyph row column c)

end Text

section OneRow

/-- The column from which the arrow goes down: the middle of the span. -/
def anchor : Nat := max ((figure.start + figure.stop) / 2) figure.start - figure.first.start

/-- A glyph and its tail, to fill a column of some width. -/
def fill (width : Nat) (glyph tail : String) : String :=
  if width = 0 then ""
  else figure.label glyph ++ String.join (List.replicate (width - 1) (figure.label tail))

def underlineColumn (column width : Nat) : String :=
  let marked := figure.isMarked (figure.first.start + column)
  if column = figure.anchor then
    -- An empty span has no text to underline, only a place to point at.
    if marked then figure.fill width "┬" "─" else figure.fill width "│" " "
  else if marked then figure.fill width "─" "─"
  else Column.spaces width

def arrowColumn (column width : Nat) : String :=
  if column = figure.anchor then figure.fill width "╰" "─"
  else if figure.anchor < column then figure.fill width "─" "─"
  else Column.spaces width

/-- A row below the text, column by column, to a little past the span. -/
def below (draw : Nat → Nat → String) : String :=
  let widths := figure.first.widths (figure.stop - figure.first.start + 2)
  String.join (widths.zipIdx.map fun (width, column) => draw column width)

/-- A span that reaches past its row is not drawn. -/
def oneRow : List String :=
  if figure.first.stop < figure.stop then
    [figure.bar]
  else
    [figure.numbered figure.first ++ figure.text figure.first,
      figure.bar ++ figure.below figure.underlineColumn,
      figure.bar ++ figure.below figure.arrowColumn ++ " " ++ figure.message]

end OneRow

section ManyRows

/-- The last marked offset. -/
def lastOffset : Nat := max (figure.stop - 1) figure.start

/-- A row that the arrow points to, where it begins or goes on. -/
def pointed (corner : String) (row : Row) : String :=
  figure.numbered row ++ figure.label corner ++ figure.label "─" ++ figure.label "▶" ++
    figure.label " " ++ figure.text row

/-- The rows between are left out. -/
def gap : List String :=
  if figure.last.index - figure.first.index > 1 ∨ figure.lastOffset = figure.length then
    [" " ++ figure.paint .skipped (Column.spaces (figure.digits + 1) ++ "┆") ++ " " ++
      figure.label "┆" ++ "   "]
  else
    []

/-- The last row, and the arrow below it to the message. -/
def closing : List String :=
  if figure.lastOffset < figure.length then
    let reach := (figure.last.widths (figure.last.chars.length + 2)).foldl Nat.add 0
    let shaft := String.join (List.replicate (3 + reach) (figure.label "─"))
    [figure.pointed "├" figure.last,
      figure.bar ++ figure.label "│" ++ "   " ++ Column.spaces reach,
      figure.bar ++ figure.label "╰" ++ shaft ++ " " ++ figure.message]
  else
    []

def manyRows : List String :=
  figure.pointed "╭" figure.first :: (figure.gap ++ figure.closing)

end ManyRows

def isOneRow : Bool := figure.first.index = figure.last.index

def body : List String := if figure.isOneRow then figure.oneRow else figure.manyRows

end Figure

section Helps

/-- The lines of a help; a line feed at the end adds none. -/
def helpLines : List Char → List (List Char)
  | [] => []
  | '\n' :: rest => [] :: helpLines rest
  | '\r' :: '\n' :: rest => [] :: helpLines rest
  | c :: rest =>
      match helpLines rest with
      | [] => [[c]]
      | line :: later => (c :: line) :: later

/-- The margin of the helps under a drawing. -/
def helpMargin (figure : Figure) (firstRow : Nat) : String :=
  if figure.isOneRow then figure.bar
  else if figure.start = firstRow then figure.bar ++ figure.label "│" ++ "   "
  else figure.bar ++ "    "

def helpRows (figure : Figure) (margin name : String) (help : String) : List String :=
  match helpLines help.toList with
  | [] => [margin]
  | first :: rest =>
      let indent := Column.spaces (name.length + 2)
      margin :: (margin ++ figure.paint .note name ++ ": " ++ String.ofList first) ::
        rest.map fun line => margin ++ indent ++ String.ofList line

/-- A single help has no number. -/
def allHelps (figure : Figure) (margin : String) : List String → List String
  | [] => []
  | [help] => helpRows figure margin "Help" help
  | helps => helps.zipIdx.flatMap fun (help, index) =>
      helpRows figure margin s!"Help {index + 1}" help

end Helps

section Headings

def severityInk : Severity → Ink
  | .error => .red
  | .warning => .yellow
  | .info => .advice

def severityName : Severity → String
  | .error => "Error"
  | .warning => "Warning"
  | .info => "Advice"

def heading (color : Bool) (diagnostic : Diagnostic) : String :=
  let code := match diagnostic.code with
    | some code => "[" ++ Column.padRight 2 code ++ "] "
    | none => ""
  paint color (severityInk diagnostic.severity)
    (code ++ severityName diagnostic.severity ++ ":") ++ " " ++ diagnostic.message

end Headings

/-- The figure of a diagnostic whose span lies in the text. -/
def figure? (color : Bool) (source : List Char) (diagnostic : Diagnostic) : Option Figure := do
  let start := diagnostic.span.start
  let stop := diagnostic.span.stop
  let first ← rowAt? source start
  let last ← if stop ≤ start then some first else rowAt? source (stop - 1)
  pure { color, message := diagnostic.message, start, stop, length := source.length, first, last }

def diagnosticRows (color : Bool) (source : List Char) (diagnostic : Diagnostic) : List String :=
  let drawing := match figure? color source diagnostic with
    | none => []
    | some figure =>
        let firstRow := ((rows source).head?.map fun row => row.chars.length).getD 0
        figure.top ++ figure.body ++
          allHelps figure (helpMargin figure firstRow) diagnostic.help ++ [figure.bottom]
  heading color diagnostic :: drawing

end Report

end GateMachine
