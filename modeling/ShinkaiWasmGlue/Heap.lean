import ShinkaiWasmGlue.JsValue

/-!
The glue's object heap: the module variables `heap`, `heap_next` and `stack_pointer`.
Slots 0..127 are the borrow stack, 128..131 hold undefined, null, true and false, which wasm
names by index, and from 132 on the heap holds the objects wasm owns handles to. A free slot
holds the index of the next free slot, so the free list is threaded through the same array
as the live objects. A JS array read past its end gives undefined and a write past its end
extends it; `slot` and `writeSlot` do the same. `heap_next` is whatever JS value the last
slot handed out held, as in JS: a slot popped off the free list is handed out whatever it
holds. Only when `heap_next` itself is not an array index does `addHeapObject` return `none`:
JS would go on with it as a property key, and the model stops there instead.
-/

namespace ShinkaiWasmGlue

structure Glue where
  heap : List JsValue
  heapNext : JsValue
  stackPointer : Nat
  deriving DecidableEq, Repr

/-- `new Array(128).fill(undefined)`, then `heap.push(undefined, null, true, false)`. -/
def initialHeap : List JsValue :=
  List.replicate 128 .undefined ++ [.undefined, .null, .boolean true, .boolean false]

/-- `heap_next = heap.length` and `stack_pointer = 128` when the module loads. -/
def initial : Glue := ⟨initialHeap, .number initialHeap.length, 128⟩

@[simp] theorem initialHeap_length : initialHeap.length = 132 := by simp [initialHeap]

/-- `heap[idx]`. -/
def slot (heap : List JsValue) (idx : Nat) : JsValue := heap.getD idx .undefined

/-- `heap[idx] = v`. -/
def writeSlot (heap : List JsValue) (idx : Nat) (v : JsValue) : List JsValue :=
  if idx < heap.length then heap.set idx v
  else heap ++ List.replicate (idx - heap.length) .undefined ++ [v]

section Slots
variable (heap : List JsValue) (idx : Nat) (v : JsValue)

theorem slot_append (front back : List JsValue) (other : Nat) :
    slot (front ++ back) other =
      if other < front.length then slot front other else slot back (other - front.length) := by
  unfold slot
  split
  · simp [List.getD_eq_getElem?_getD, List.getElem?_append_left, *]
  · rw [List.getD_eq_getElem?_getD, List.getElem?_append_right (by omega),
      ← List.getD_eq_getElem?_getD]

theorem slot_of_length_le (beyond : heap.length ≤ idx) : slot heap idx = .undefined := by
  simp [slot, List.getD_eq_getElem?_getD, List.getElem?_eq_none beyond]

theorem slot_replicate (n : Nat) : slot (List.replicate n .undefined) idx = .undefined := by
  simp [slot, List.getD_eq_getElem?_getD, List.getElem?_replicate]
  split <;> rfl

theorem writeSlot_of_lt (inside : idx < heap.length) : writeSlot heap idx v = heap.set idx v :=
  if_pos inside

@[simp] theorem slot_writeSlot_self : slot (writeSlot heap idx v) idx = v := by
  unfold writeSlot
  split
  · simp [slot, List.getD_eq_getElem?_getD, *]
  · have filled : (heap ++ List.replicate (idx - heap.length) JsValue.undefined).length = idx := by
      simp; omega
    rw [slot_append, filled, if_neg (Nat.lt_irrefl idx), Nat.sub_self]
    rfl

theorem slot_writeSlot_of_ne {other : Nat} (apart : other ≠ idx) :
    slot (writeSlot heap idx v) other = slot heap other := by
  unfold writeSlot
  split
  · simp [slot, List.getD_eq_getElem?_getD, List.getElem?_set, apart.symm]
  · rw [slot_append, slot_append]
    simp only [List.length_append, List.length_replicate]
    split
    · split
      · rfl
      · rw [slot_replicate, slot_of_length_le heap other (by omega)]
    · rw [slot_of_length_le heap other (by omega), slot_of_length_le [v] _ (by simp; omega)]

@[simp] theorem length_writeSlot_of_lt (inside : idx < heap.length) :
    (writeSlot heap idx v).length = heap.length := by
  simp [writeSlot_of_lt heap idx v inside]

end Slots

/-- `getObject(idx)`. -/
def getObject (g : Glue) (idx : Nat) : JsValue := slot g.heap idx

/-- `addHeapObject(obj)`: grow the heap when the free list is empty, pop its head, and store
`obj` there. -/
def addHeapObject (obj : JsValue) (g : Glue) : Option (Nat × Glue) :=
  let heap := if g.heapNext = .number g.heap.length then
    g.heap ++ [.number (g.heap.length + 1 : Nat)] else g.heap
  g.heapNext.asIndex.map fun idx =>
    (idx, { g with heap := writeSlot heap idx obj, heapNext := slot heap idx })

theorem addHeapObject_of_eq_length {g : Glue} (atEnd : g.heapNext = .number g.heap.length)
    (obj : JsValue) :
    addHeapObject obj g = some (g.heap.length,
      { g with heap := g.heap ++ [obj], heapNext := .number (g.heap.length + 1 : Nat) }) := by
  have pushed : writeSlot (g.heap ++ [.number (g.heap.length + 1 : Nat)]) g.heap.length obj =
      g.heap ++ [obj] := by
    rw [writeSlot_of_lt _ _ _ (by simp)]; simp
  have linked : slot (g.heap ++ [.number (g.heap.length + 1 : Nat)]) g.heap.length =
      .number (g.heap.length + 1 : Nat) := by
    rw [slot_append, if_neg (Nat.lt_irrefl _), Nat.sub_self]; rfl
  simp only [addHeapObject, atEnd, ↓reduceIte, JsValue.asIndex_number, Option.map_some', linked,
    pushed]

/-- A free list headed by `heap_next`: its head is handed out, and what the slot held, whatever
it is, becomes `heap_next`. -/
theorem addHeapObject_of_link {g : Glue} {idx : Nat} (head : g.heapNext = .number idx)
    (inside : idx ≠ g.heap.length) (obj : JsValue) :
    addHeapObject obj g = some (idx,
      { g with heap := writeSlot g.heap idx obj, heapNext := slot g.heap idx }) := by
  have other : JsValue.number idx ≠ .number g.heap.length := fun same => inside (by
    injection same with same; omega)
  simp only [addHeapObject, head, if_neg other, JsValue.asIndex_number, Option.map_some']

/-- `dropObject(idx)`: indices below 132 are never freed; any other slot is pushed on the
free list. -/
def dropObject (idx : Nat) (g : Glue) : Glue :=
  if idx < 132 then g
  else { g with heap := writeSlot g.heap idx g.heapNext, heapNext := .number idx }

/-- `takeObject(idx)`. -/
def takeObject (idx : Nat) (g : Glue) : JsValue × Glue := (getObject g idx, dropObject idx g)

/-- `__wbindgen_object_drop_ref(arg0)`. -/
def wbindgenObjectDropRef (arg0 : Nat) (g : Glue) : Glue := (takeObject arg0 g).2

/-- `__wbindgen_object_clone_ref(arg0)`. -/
def wbindgenObjectCloneRef (arg0 : Nat) (g : Glue) : Option (Nat × Glue) :=
  addHeapObject (getObject g arg0) g

@[simp] theorem dropObject_stackPointer (idx : Nat) (g : Glue) :
    (dropObject idx g).stackPointer = g.stackPointer := by
  unfold dropObject; split <;> rfl

theorem dropObject_of_lt {idx : Nat} (g : Glue) (reserved : idx < 132) : dropObject idx g = g :=
  if_pos reserved

end ShinkaiWasmGlue
