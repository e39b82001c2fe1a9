import GateMachine.Stack

/-!
Histories of a stack. Its items are held bottom first and every access counts from the
other end, but no caller can tell: an operation answers, and changes the view from the top,
as it would on a plain list with the top in front (`perform_refines`), and so does every
sequence of operations (`history_refines`). The index of an access is found by subtractions
that never pass below zero (`slot_exact`).
-/

namespace GateMachine

namespace Stack

universe u

variable {α : Type u} {stack : Stack α}

section Operations

/-- What a caller can do with a stack. -/
inductive Operation (α : Type u) where
  | push (item : α)
  | pop
  | dup
  | dupAt (offset : Nat)
  | read (offset : Nat)
  | write (offset : Nat) (item : α)
  deriving DecidableEq

/-- What a caller learns from an operation. -/
inductive Reply (α : Type u) where
  | done
  | popped (item : Option α)
  | copied (found : Bool)
  | held (item : α)
  /-- The offset lies below the bottom, and nothing is done. -/
  | outOfBounds
  deriving DecidableEq

/-- Copies the item at an offset to the top, and tells whether there is one. -/
def copyAt (stack : Stack α) (offset : Nat) : Reply α × Stack α :=
  match stack.dupAt? offset with
  | some copied => (.copied true, copied)
  | none => (.copied false, stack)

/-- An operation on the stack; one that finds nothing leaves the stack alone. -/
def Operation.perform : Operation α → Stack α → Reply α × Stack α
  | .push item, stack => (.done, stack.push item)
  | .pop, stack =>
      match stack.pop? with
      | some (item, rest) => (.popped (some item), rest)
      | none => (.popped none, stack)
  | .dup, stack => stack.copyAt 0
  | .dupAt offset, stack => stack.copyAt offset
  | .read offset, stack =>
      match stack.get? offset with
      | some item => (.held item, stack)
      | none => (.outOfBounds, stack)
  | .write offset item, stack =>
      match stack.set? offset item with
      | some written => (.done, written)
      | none => (.outOfBounds, stack)

/-- The same operation on a list with the top in front. -/
def Operation.onList : Operation α → List α → Reply α × List α
  | .push item, items => (.done, item :: items)
  | .pop, items => (.popped items.head?, items.tail)
  | .dup, [] => (.copied false, [])
  | .dup, top :: rest => (.copied true, top :: top :: rest)
  | .dupAt offset, items =>
      match items[offset]? with
      | some item => (.copied true, item :: items)
      | none => (.copied false, items)
  | .read offset, items =>
      match items[offset]? with
      | some item => (.held item, items)
      | none => (.outOfBounds, items)
  | .write offset item, items =>
      if offset < items.length then (.done, items.set offset item) else (.outOfBounds, items)

/-- The replies to a sequence of operations, and what they leave. -/
def history {σ : Type u} (step : Operation α → σ → Reply α × σ) :
    List (Operation α) → σ → List (Reply α) × σ
  | [], held => ([], held)
  | operation :: rest, held =>
      let first := step operation held
      let later := history step rest first.2
      (first.1 :: later.1, later.2)

end Operations

section Refinement

/-- Reading from the top is reading the view. -/
theorem get?_eq_getElem? (stack : Stack α) (offset : Nat) :
    stack.get? offset = stack.toList[offset]? := by
  by_cases inside : offset < stack.size
  · rw [stack.getElem?_toList offset inside, get?, dif_pos inside]
  · have outside : stack.toList.length ≤ offset := by
      rw [length_toList]
      exact Nat.le_of_not_lt inside
    rw [List.getElem?_eq_none outside, get?, dif_neg inside]

theorem dupAt?_eq_map (stack : Stack α) (offset : Nat) :
    stack.dupAt? offset = (stack.get? offset).map stack.push := by
  by_cases inside : offset < stack.size
  · simp [dupAt?, get?, inside, dupAt]
  · simp [dupAt?, get?, inside]

theorem perform_pop (stack : Stack α) :
    (Operation.pop.perform stack).1 = .popped stack.toList.head? ∧
      (Operation.pop.perform stack).2.toList = stack.toList.tail := by
  by_cases inside : 0 < stack.size
  · have top := stack.getElem?_toList 0 inside
    rw [← List.head?_eq_getElem?] at top
    simp [Operation.perform, pop?, inside, top]
  · have empty : stack.toList = [] := by
      rw [← List.length_eq_zero_iff, length_toList]
      omega
    simp [Operation.perform, pop?, inside, empty]

theorem perform_dupAt (stack : Stack α) (offset : Nat) :
    ((Operation.dupAt offset).perform stack).1 = ((Operation.dupAt offset).onList stack.toList).1 ∧
      ((Operation.dupAt offset).perform stack).2.toList =
        ((Operation.dupAt offset).onList stack.toList).2 := by
  simp only [Operation.perform, Operation.onList, copyAt, dupAt?_eq_map, get?_eq_getElem?]
  cases stack.toList[offset]? with
  | none => exact ⟨rfl, rfl⟩
  | some item => exact ⟨rfl, toList_push stack item⟩

/-- Copying the top is copying at offset zero, on a list as well. -/
theorem onList_dup (items : List α) :
    Operation.dup.onList items = (Operation.dupAt 0).onList items := by
  cases items <;> rfl

/-- One operation on the stack is that operation on the view from the top. -/
theorem perform_refines (operation : Operation α) (stack : Stack α) :
    (operation.perform stack).1 = (operation.onList stack.toList).1 ∧
      (operation.perform stack).2.toList = (operation.onList stack.toList).2 := by
  cases operation with
  | push item => exact ⟨rfl, toList_push stack item⟩
  | pop => exact perform_pop stack
  | dup =>
      rw [onList_dup]
      exact perform_dupAt stack 0
  | dupAt offset => exact perform_dupAt stack offset
  | read offset =>
      simp only [Operation.perform, Operation.onList, get?_eq_getElem?]
      cases stack.toList[offset]? <;> exact ⟨rfl, rfl⟩
  | write offset item =>
      by_cases inside : offset < stack.size <;>
        simp [Operation.perform, Operation.onList, set?, inside]

theorem history_refines (operations : List (Operation α)) (stack : Stack α) :
    (history Operation.perform operations stack).1 =
        (history Operation.onList operations stack.toList).1 ∧
      (history Operation.perform operations stack).2.toList =
        (history Operation.onList operations stack.toList).2 := by
  induction operations generalizing stack with
  | nil => exact ⟨rfl, rfl⟩
  | cons operation rest ih =>
      have first := perform_refines operation stack
      have later := ih (operation.perform stack).2
      simp only [history]
      rw [← first.1, ← first.2, later.1, later.2]
      exact ⟨rfl, rfl⟩

end Refinement

section Bounds

variable {offset : Nat} {item : α}

/-- An access inside finds its item where the offset is counted down from the last place
of the array, and a write changes that place and no other. -/
theorem slot_exact (inside : offset < stack.size) :
    ∃ slot, slot + offset + 1 = stack.items.size ∧
      stack.get? offset = stack.items[slot]? ∧
      ∀ item, (stack.set? offset item).map Stack.items =
        some (stack.items.setIfInBounds slot item) := by
  have exact : stack.items.size - 1 - offset + offset + 1 = stack.items.size := by
    simp only [size] at inside
    omega
  refine ⟨stack.items.size - 1 - offset, exact, ?_, ?_⟩
  · have bound : stack.items.size - 1 - offset < stack.items.size := by omega
    simp [get?, inside, get, bound]
  · intro item
    have bound : stack.items.size - 1 - offset < stack.items.size := by omega
    simp [set?, inside, set, Array.setIfInBounds, bound]

theorem dupAt_fails_iff :
    (Operation.dupAt offset).perform stack = (.copied false, stack) ↔ stack.size ≤ offset := by
  by_cases inside : offset < stack.size
  · simp [Operation.perform, copyAt, dupAt?, inside]
  · simp [Operation.perform, copyAt, dupAt?, inside, Nat.le_of_not_lt inside]

theorem read_outOfBounds_iff :
    ((Operation.read offset).perform stack).1 = .outOfBounds ↔ stack.size ≤ offset := by
  by_cases inside : offset < stack.size
  · simp [Operation.perform, get?, inside]
  · simp [Operation.perform, get?, inside, Nat.le_of_not_lt inside]

theorem write_outOfBounds_iff :
    ((Operation.write offset item).perform stack).1 = .outOfBounds ↔ stack.size ≤ offset := by
  by_cases inside : offset < stack.size
  · simp [Operation.perform, set?, inside]
  · simp [Operation.perform, set?, inside, Nat.le_of_not_lt inside]

/-- All that can be asked of a stack is answered by a list with the top in front. -/
structure Implements (stack : Stack α) (items : List α) : Prop where
  listed : stack.toList = items
  counted : stack.size = items.length
  copies : ∀ offset,
    (Operation.dupAt offset).perform stack = (.copied false, stack) ↔ stack.size ≤ offset
  reads : ∀ offset,
    ((Operation.read offset).perform stack).1 = .outOfBounds ↔ stack.size ≤ offset
  writes : ∀ offset item,
    ((Operation.write offset item).perform stack).1 = .outOfBounds ↔ stack.size ≤ offset
  slots : ∀ offset, offset < stack.size →
    ∃ slot, slot + offset + 1 = stack.items.size ∧
      stack.get? offset = stack.items[slot]? ∧
      ∀ item, (stack.set? offset item).map Stack.items =
        some (stack.items.setIfInBounds slot item)

theorem implements_toList (stack : Stack α) : Implements stack stack.toList where
  listed := rfl
  counted := (length_toList stack).symm
  copies _ := dupAt_fails_iff
  reads _ := read_outOfBounds_iff
  writes _ _ := write_outOfBounds_iff
  slots _ := slot_exact

/-- Whatever is done to an empty stack, its replies are those of a list with the top in
front, and it holds the items of that list. -/
theorem stack_refines_list (operations : List (Operation α)) :
    (history Operation.perform operations empty).1 =
        (history Operation.onList operations []).1 ∧
      Implements (history Operation.perform operations empty).2
        (history Operation.onList operations []).2 := by
  have refines := history_refines operations (empty : Stack α)
  rw [toList_empty] at refines
  refine ⟨refines.1, ?_⟩
  rw [← refines.2]
  exact implements_toList _

end Bounds

end Stack

end GateMachine
