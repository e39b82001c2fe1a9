/-!
Parsing expressions. An expression takes what it can from the front of a text:
the first choice that matches is final, a repetition takes all it can get, and
a look ahead takes nothing. What an expression has taken is never given back
one character at a time, so a match has at most one result (`run`).
-/

namespace GateMachine

namespace Source

/-- A parsing expression. -/
inductive Peg where
  | empty
  | char (holds : Char → Bool)
  | endOfInput
  | seq (first second : Peg)
  | choice (first second : Peg)
  | star (item : Peg)
  | not (item : Peg)

namespace Peg

section Matching

/-- Matches again and again, as long as something is taken. -/
def exhaust (item : List Char → Option (List Char)) : Nat → List Char → List Char
  | 0, text => text
  | budget + 1, text =>
      match item text with
      | none => text
      | some rest => if rest.length < text.length then exhaust item budget rest else text

/-- What is left of a text when the expression has taken its part from the front. -/
def run : Peg → List Char → Option (List Char)
  | .empty, text => some text
  | .char _, [] => none
  | .char holds, c :: rest => if holds c then some rest else none
  | .endOfInput, [] => some []
  | .endOfInput, _ :: _ => none
  | .seq first second, text => (first.run text).bind second.run
  | .choice first second, text => (first.run text).or (second.run text)
  -- No more matches than characters can each take something.
  | .star item, text => some (exhaust item.run text.length text)
  | .not item, text => if (item.run text).isSome then none else some text

end Matching

section Combinations

def any : Peg := .char fun _ => true

def literal (text : String) : Peg :=
  text.toList.foldr (fun c rest => .seq (.char (· == c)) rest) .empty

def optional (item : Peg) : Peg := .choice item .empty

def plus (item : Peg) : Peg := .seq item (.star item)

def choices (items : List Peg) : Peg := items.foldr .choice (.not .empty)

end Combinations

section Meaning

variable {first second item : Peg} {holds : Char → Bool} {text rest : List Char}

theorem run_char_cons (holds : Char → Bool) (c : Char) (rest : List Char) :
    (char holds).run (c :: rest) = if holds c = true then some rest else none := rfl

theorem run_choice (first second : Peg) (text : List Char) :
    (choice first second).run text = (first.run text).or (second.run text) := rfl

theorem run_seq (first second : Peg) (text : List Char) :
    (seq first second).run text = (first.run text).bind second.run := rfl

theorem run_char_iff :
    (char holds).run text = some rest ↔ ∃ c, holds c = true ∧ text = c :: rest := by
  cases text with
  | nil => simp [run]
  | cons c others =>
      rw [run, Option.ite_none_right_eq_some, Option.some_inj]
      constructor
      · rintro ⟨held, rfl⟩
        exact ⟨c, held, rfl⟩
      · rintro ⟨d, held, same⟩
        cases same
        exact ⟨held, rfl⟩

theorem run_endOfInput_iff : endOfInput.run text = some rest ↔ text = [] ∧ rest = [] := by
  cases text with
  | nil => simp [run, eq_comm]
  | cons c others => simp [run]

theorem run_seq_iff :
    (seq first second).run text = some rest ↔
      ∃ between, first.run text = some between ∧ second.run between = some rest := by
  simp [run, Option.bind_eq_some_iff]

theorem run_not_iff :
    (not item).run text = some rest ↔ item.run text = none ∧ text = rest := by
  simp [run]

theorem run_optional : (optional item).run text = some ((item.run text).getD text) := by
  cases taken : item.run text with
  | none => simp [optional, run, taken]
  | some left => simp [optional, run, taken]

theorem run_choices (items : List Peg) (text : List Char) :
    (choices items).run text = items.findSome? fun item => item.run text := by
  induction items with
  | nil => rfl
  | cons item items ih =>
      have unfolded : choices (item :: items) = choice item (choices items) := rfl
      rw [unfolded, run, ih, List.findSome?_cons]
      cases item.run text with
      | none => rfl
      | some left => rfl

theorem run_literal_iff {written : String} :
    (literal written).run text = some rest ↔ text = written.toList ++ rest := by
  unfold literal
  induction written.toList generalizing text with
  | nil => simp [run]
  | cons c others ih =>
      rw [List.foldr_cons, run_seq_iff]
      constructor
      · rintro ⟨between, here, later⟩
        obtain ⟨d, same, rfl⟩ := run_char_iff.mp here
        rw [ih.mp later, eq_of_beq same, List.cons_append]
      · rintro rfl
        exact ⟨others ++ rest, run_char_iff.mpr ⟨c, by simp, rfl⟩, ih.mpr rfl⟩

theorem exhaust_nil (take : List Char → Option (List Char)) (budget : Nat) :
    exhaust take budget [] = [] := by
  cases budget with
  | zero => rfl
  | succ budget =>
      rw [exhaust]
      split <;> simp

-- Any budget of at least a match for each character comes to the same.
theorem exhaust_stable {take : List Char → Option (List Char)} {budget other : Nat}
    (enough : text.length ≤ budget) (also : text.length ≤ other) :
    exhaust take budget text = exhaust take other text := by
  induction budget generalizing other text with
  | zero =>
      cases List.length_eq_zero_iff.mp (Nat.le_zero.mp enough)
      rw [exhaust_nil, exhaust_nil]
  | succ budget ih =>
      cases other with
      | zero =>
          cases List.length_eq_zero_iff.mp (Nat.le_zero.mp also)
          rw [exhaust_nil, exhaust_nil]
      | succ other =>
          rw [exhaust, exhaust]
          cases take text with
          | none => rfl
          | some left =>
              by_cases shorter : left.length < text.length
              · simp only [if_pos shorter]
                exact ih (by omega) (by omega)
              · simp only [if_neg shorter]

theorem run_star_of_none (stuck : item.run text = none) : (star item).run text = some text := by
  cases text with
  | nil => rw [run, exhaust_nil]
  | cons c others => rw [run, List.length_cons, exhaust, stuck]

theorem run_star_of_some (taken : item.run text = some rest) (shorter : rest.length < text.length) :
    (star item).run text = (star item).run rest := by
  cases text with
  | nil => contradiction
  | cons c others =>
      rw [run, run, List.length_cons, exhaust, taken]
      simp only [if_pos shorter]
      rw [exhaust_stable (Nat.le_of_lt_succ shorter) (Nat.le_refl _)]

end Meaning

end Peg

end Source

end GateMachine
