/-!
A stack of values, read from the top. The items are held bottom first, so
that pushing and popping happen at the end of an array; `toList` is the view
from the top, and every operation is described by what it does to that view.
-/

namespace GateMachine

structure Stack (α : Type u) where
  items : Array α
  deriving DecidableEq

namespace Stack

variable {α : Type u}

def empty : Stack α := ⟨#[]⟩

def size (stack : Stack α) : Nat := stack.items.size

/-- The items from the top down. -/
def toList (stack : Stack α) : List α := stack.items.toList.reverse

def push (stack : Stack α) (item : α) : Stack α := ⟨stack.items.push item⟩

def drop (stack : Stack α) : Stack α := ⟨stack.items.pop⟩

/-- The item `offset` places below the top. -/
def get (stack : Stack α) (offset : Nat) (inside : offset < stack.size) : α :=
  have bound : stack.items.size - 1 - offset < stack.items.size := by
    simp only [size] at inside
    omega
  stack.items[stack.items.size - 1 - offset]

def set (stack : Stack α) (offset : Nat) (item : α) (inside : offset < stack.size) : Stack α :=
  have bound : stack.items.size - 1 - offset < stack.items.size := by
    simp only [size] at inside
    omega
  ⟨stack.items.set (stack.items.size - 1 - offset) item bound⟩

def dupAt (stack : Stack α) (offset : Nat) (inside : offset < stack.size) : Stack α :=
  stack.push (stack.get offset inside)

section Checked

def pop? (stack : Stack α) : Option (α × Stack α) :=
  if inside : 0 < stack.size then some (stack.get 0 inside, stack.drop) else none

def get? (stack : Stack α) (offset : Nat) : Option α :=
  if inside : offset < stack.size then some (stack.get offset inside) else none

def set? (stack : Stack α) (offset : Nat) (item : α) : Option (Stack α) :=
  if inside : offset < stack.size then some (stack.set offset item inside) else none

def dupAt? (stack : Stack α) (offset : Nat) : Option (Stack α) :=
  if inside : offset < stack.size then some (stack.dupAt offset inside) else none

end Checked

section View

@[simp] theorem toList_empty : (empty : Stack α).toList = [] := rfl

@[simp] theorem length_toList (stack : Stack α) : stack.toList.length = stack.size := by
  simp [toList, size]

@[simp] theorem toList_push (stack : Stack α) (item : α) :
    (stack.push item).toList = item :: stack.toList := by
  simp [toList, push]

@[simp] theorem toList_drop (stack : Stack α) : stack.drop.toList = stack.toList.tail := by
  simp [toList, drop]

@[simp] theorem getElem?_toList (stack : Stack α) (offset : Nat) (inside : offset < stack.size) :
    stack.toList[offset]? = some (stack.get offset inside) := by
  simp only [size] at inside
  simp [toList, get, inside]

@[simp] theorem toList_set (stack : Stack α) (offset : Nat) (item : α)
    (inside : offset < stack.size) :
    (stack.set offset item inside).toList = stack.toList.set offset item := by
  simp only [size] at inside
  apply List.ext_getElem
  · simp [toList, set]
  · intro place before after
    have below : place < stack.items.size := by simpa [toList] using after
    simp only [toList, set, Array.toList_set, List.getElem_reverse, List.getElem_set,
      List.length_set, Array.length_toList]
    by_cases here : offset = place
    · simp [here]
    · have apart : stack.items.size - 1 - offset ≠ stack.items.size - 1 - place := by omega
      simp [here, apart]

@[simp] theorem toList_dupAt (stack : Stack α) (offset : Nat) (inside : offset < stack.size) :
    (stack.dupAt offset inside).toList = stack.get offset inside :: stack.toList := by
  simp [dupAt]

@[simp] theorem size_empty : (empty : Stack α).size = 0 := rfl

@[simp] theorem size_push (stack : Stack α) (item : α) :
    (stack.push item).size = stack.size + 1 := by
  simp [size, push]

@[simp] theorem size_drop (stack : Stack α) : stack.drop.size = stack.size - 1 := by
  simp [size, drop]

@[simp] theorem size_set (stack : Stack α) (offset : Nat) (item : α)
    (inside : offset < stack.size) : (stack.set offset item inside).size = stack.size := by
  simp [size, set]

@[simp] theorem size_dupAt (stack : Stack α) (offset : Nat) (inside : offset < stack.size) :
    (stack.dupAt offset inside).size = stack.size + 1 := by
  simp [dupAt]

end View

end Stack

end GateMachine
