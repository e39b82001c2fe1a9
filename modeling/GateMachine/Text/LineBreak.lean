import GateMachine.Text.BreakClass

/-!
Where a line of text may end. Whether it may end between two characters hangs
on their classes, on the spaces between them, and in a few cases on what
stands around them: `Place` holds as much as is needed of what stands before,
`ahead` gives what comes after.
-/

namespace GateMachine

namespace Text

namespace BreakClass

def isHardEnd (kind : BreakClass) : Bool := [lineEnd, lineFeed, carriageReturn].contains kind

def isMark (kind : BreakClass) : Bool := kind == combining || kind == joiner

def isOpening (kind : BreakClass) : Bool := kind == opening || kind == wideOpening

def isQuotation (kind : BreakClass) : Bool :=
  [quotation, initialQuotation, finalQuotation].contains kind

/-- No line begins with one of these, even after spaces. -/
def isTrailing (kind : BreakClass) : Bool :=
  kind.isHardEnd || [space, zeroWidthSpace, wordJoiner, closing, closingParenthesis, exclamation,
    infixSeparator, slash].contains kind

/-- A final quotation mark closes a quotation where no word comes right after it. -/
def closesQuotation (kind : BreakClass) (beyond : Option BreakClass) : Bool :=
  kind == finalQuotation &&
    beyond.all fun later => later.isTrailing || later == glue || later.isQuotation

def letters : List BreakClass := [letter, hebrew, reservedSymbol]

def alphabetic : List BreakClass := dottedCircle :: letters

def pictures : List BreakClass := [ideograph, reservedPicture, emojiBase, emojiModifier]

def hangul : List BreakClass :=
  [leadingJamo, vowelJamo, trailingJamo, openSyllable, closedSyllable]

/-- What a syllable with viramas is built on. -/
def bases : List BreakClass := [aksara, aksaraStart, dottedCircle]

/-- Classes that stay together when one of the first stands before one of the second. -/
def pairs : List (List BreakClass × List BreakClass) :=
  [([dash], [dash]),
    ([slash], [hebrew]),
    (alphabetic, [number]),
    ([number], alphabetic),
    ([beforeNumber], pictures),
    (pictures, [afterNumber]),
    ([beforeNumber, afterNumber], alphabetic),
    (alphabetic, [beforeNumber, afterNumber]),
    ([closing, closingParenthesis, number], [beforeNumber, afterNumber]),
    ([beforeNumber, afterNumber], [opening, wideOpening, number]),
    ([hyphen, infixSeparator, slash, number], [number]),
    ([leadingJamo], [leadingJamo, vowelJamo, openSyllable, closedSyllable]),
    ([vowelJamo, openSyllable], [vowelJamo, trailingJamo]),
    ([trailingJamo, closedSyllable], [trailingJamo]),
    (hangul, [afterNumber]),
    ([beforeNumber], hangul),
    (letters, alphabetic),
    ([dottedCircle], letters),
    ([aksaraPrefix], bases),
    (bases, [virama, finalVirama]),
    ([infixSeparator], alphabetic),
    (number :: alphabetic, [opening]),
    ([closingParenthesis], number :: alphabetic),
    ([emojiBase, reservedPicture, reservedSymbol], [emojiModifier])]

/-- Classes of which the first two stay together before the third. -/
def pairsBefore : List (List BreakClass × List BreakClass × List BreakClass) :=
  [(bases, bases, [finalVirama]),
    ([dottedCircle], [dottedCircle], [dottedCircle])]

/-- Classes of which the last two stay together after the first. -/
def pairsAfter : List (List BreakClass × List BreakClass × List BreakClass) :=
  [(bases, [virama], [aksara, dottedCircle])]

/-- Whether two characters side by side stay together. -/
def clings (before after : BreakClass) : Bool :=
  if before.isHardEnd then before == carriageReturn && after == lineFeed
  else if before == zeroWidthSpace then after.isHardEnd || after == space || after == zeroWidthSpace
  else if after.isTrailing || before == wordJoiner || before == glue || before.isOpening then true
  else if after == glue then !([breakAfter, hyphen].contains before)
  else if before.isQuotation || after.isQuotation then true
  else if before == contingent || after == contingent then false
  else if [breakAfter, hyphen, nonStarter, inseparable].contains after then true
  else before == breakBefore || pairs.any fun (firsts, seconds) =>
    firsts.contains before && seconds.contains after

/-- Whether two characters stay together with spaces between them. -/
def clingsAcross (before after : BreakClass) : Bool :=
  match before with
  | opening | wideOpening => true
  | closing | closingParenthesis => after.isTrailing || after == nonStarter
  | dash => after.isTrailing || after == dash
  | _ => after.isTrailing

end BreakClass

open BreakClass

/-- What stands before a place in a text. -/
structure Place where
  /-- The last class that is no space. -/
  last : Option BreakClass
  /-- What stands right before the last class, which may be a space. -/
  prior : Option BreakClass
  spaced : Bool
  joined : Bool
  /-- The first half of a flag stands right before. -/
  halfFlag : Bool
  deriving DecidableEq

namespace Place

def start : Place :=
  { last := none, prior := none, spaced := false, joined := false, halfFlag := false }

/-- Whether a combining mark here would belong to the character before. -/
def takesMark (place : Place) : Bool :=
  !place.spaced && place.last.any fun last => !last.isHardEnd && last != zeroWidthSpace

/-- What a class counts as here; none if the character belongs to the one before. -/
def role? (place : Place) (next : BreakClass) : Option BreakClass :=
  if next.isMark then
    if place.takesMark then none else some letter
  else
    some next

/-- An initial quotation mark opens a quotation where no word stands right before it. -/
def opensQuotation (place : Place) : Bool :=
  place.last == some initialQuotation && place.prior.all fun prior =>
    prior.isHardEnd || prior.isOpening || prior.isQuotation ||
      [space, zeroWidthSpace, glue].contains prior

/-- After a Hebrew letter a hyphen or the like ends no line, unless Hebrew goes on. -/
def hyphenatesHebrew (place : Place) (role : BreakClass) : Bool :=
  place.prior == some hebrew && (place.last == some hyphen || place.last == some breakAfter) &&
    role != contingent && role != hebrew

/-- Whether what stands before the last class or comes after the next keeps the two together. -/
def clingsAmong (place : Place) (last role : BreakClass) (beyond : Option BreakClass) : Bool :=
  (pairsBefore.any fun (firsts, seconds, thirds) =>
    firsts.contains last && seconds.contains role && beyond.any thirds.contains) ||
  pairsAfter.any fun (firsts, seconds, thirds) =>
    place.prior.any firsts.contains && seconds.contains last && thirds.contains role

/-- Whether a character of this class stays with what stands before. -/
def keeps (place : Place) (role : BreakClass) (beyond : Option BreakClass) : Bool :=
  match place.last with
  | none => !place.spaced || role.isTrailing || role.closesQuotation beyond
  | some zeroWidthSpace => clings zeroWidthSpace role
  | some last =>
      if place.spaced then
        clingsAcross last role || place.opensQuotation || role.closesQuotation beyond
      else
        clings last role || place.hyphenatesHebrew role || place.clingsAmong last role beyond ||
          (place.halfFlag && role == regional)

/-- Whether a line may end here if these classes come next. -/
def mayBreak (place : Place) (next : BreakClass) (beyond : Option BreakClass) : Bool :=
  (place.role? next).any fun role => !(place.joined || place.keeps role beyond)

def push (place : Place) (next : BreakClass) : Place :=
  match place.role? next with
  | none => { place with joined := next == joiner }
  | some .space => { place with spaced := true, joined := false, halfFlag := false }
  | some role =>
      { last := some role
        prior := if place.spaced then some space else place.last
        spaced := false
        joined := next == joiner
        halfFlag := role == regional && !place.halfFlag }

/-- The next class, and the one after it that is no mark. -/
def ahead : List (Option BreakClass) → Option (BreakClass × Option BreakClass)
  | [] => none
  | none :: rest => ahead rest
  | some next :: rest => some (next, rest.findSome? (Option.filter fun kind => !kind.isMark))

/-- For each character whether a line may end right after it. A character without a class is
passed over. -/
def breaksAfter (place : Place) : List (Option BreakClass) → List Bool
  | [] => []
  | none :: rest => false :: breaksAfter place rest
  | some kind :: rest =>
      let place := place.push kind
      (ahead rest).any (fun (next, beyond) => place.mayBreak next beyond) :: breaksAfter place rest

theorem length_breaksAfter (place : Place) (kinds : List (Option BreakClass)) :
    (place.breaksAfter kinds).length = kinds.length := by
  fun_induction breaksAfter place kinds <;> simp_all

end Place

end Text

end GateMachine
