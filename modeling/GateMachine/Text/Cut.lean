/-!
Cutting a list into pieces, after marked elements or at separators.
`flatten_cutAfter` and `intercalate_split` say that nothing else is lost.
-/

namespace GateMachine

namespace Text

section Marks

variable {α : Type}

/-- Cuts after each marked element; no piece is empty. -/
def cutAfter : List (α × Bool) → List (List α)
  | [] => []
  | (element, marked) :: rest =>
      match cutAfter rest with
      | [] => [[element]]
      | piece :: later =>
          if marked then [element] :: piece :: later else (element :: piece) :: later

theorem flatten_cutAfter (elements : List (α × Bool)) :
    (cutAfter elements).flatten = elements.map Prod.fst := by
  induction elements with
  | nil => rfl
  | cons first rest ih =>
      obtain ⟨element, marked⟩ := first
      simp only [cutAfter, List.map_cons, ← ih]
      cases cutAfter rest with
      | nil => rfl
      | cons piece later => cases marked <;> rfl

/-- Puts the last two pieces together. -/
def joinLast : List (List α) → List (List α)
  | [] => []
  | [piece] => [piece]
  | [piece, last] => [piece ++ last]
  | piece :: next :: later => piece :: joinLast (next :: later)

theorem flatten_joinLast (pieces : List (List α)) :
    (joinLast pieces).flatten = pieces.flatten := by
  fun_induction joinLast pieces with
  | case1 | case2 | case3 => simp
  | case4 piece next later _ ih => simp [ih]

end Marks

section Separators

/-- The pieces between the separators, of which there is one more than separators. -/
def split (separator : Char) : List Char → List (List Char)
  | [] => [[]]
  | c :: rest =>
      if c = separator then
        [] :: split separator rest
      else
        match split separator rest with
        | [] => [[c]]
        | piece :: later => (c :: piece) :: later

theorem split_ne_nil (separator : Char) (text : List Char) : split separator text ≠ [] := by
  cases text with
  | nil => simp [split]
  | cons c rest =>
      simp only [split]
      repeat' split
      all_goals simp

theorem intercalate_split (separator : Char) (text : List Char) :
    [separator].intercalate (split separator text) = text := by
  induction text with
  | nil => rfl
  | cons c rest ih =>
      cases pieces : split separator rest with
      | nil => exact absurd pieces (split_ne_nil separator rest)
      | cons piece later =>
          rw [pieces] at ih
          by_cases same : c = separator
          · simp [split, same, pieces, List.intercalate] at ih ⊢
            exact ih
          · cases later <;>
              simp_all [split, List.intercalate, List.intersperse]

end Separators

end Text

end GateMachine
