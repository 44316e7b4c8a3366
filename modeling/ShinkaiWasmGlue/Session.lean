import ShinkaiWasmGlue.FreeList
import ShinkaiWasmGlue.BorrowStack

/-!
The glue as one machine: the heap calls of `FreeList` and the borrowing exported functions of
`BorrowStack`, in any order. The two share the array `heap`: the borrow stack lives in the
slots below 128, the handles in the slots from 132 up. `addHeapObject` and `dropObject` touch
neither `stack_pointer` nor a slot below 132, and a call whose nesting fits in the 127 slots
below 128 touches neither `heap_next`, the length of the heap nor a slot from 128 up. So while
no call nests deeper than that, every state between calls keeps the free list and the handles
as `Represents` says, `stack_pointer` is back at 128, and the constants in 128..131 are the
ones the module stored. `BorrowStack` shows what a deeper nesting does to the borrow stack,
and the end of this module what it does to a live handle.
-/

namespace ShinkaiWasmGlue

/-! A balanced call keeps the length of the heap. -/

theorem releaseBorrowed_length (k : Nat) (g : Glue) (inside : g.stackPointer + k ≤ g.heap.length) :
    (releaseBorrowed k g).heap.length = g.heap.length := by
  induction k generalizing g with
  | zero => rfl
  | succ k ih =>
    have written := length_writeSlot_of_lt g.heap g.stackPointer .undefined (by omega)
    rw [releaseBorrowed, ih _ (by simp only [written]; omega)]
    exact written

theorem borrowArgs_length (args : List JsValue) (g : Glue) (fits : args.length < g.stackPointer)
    (inside : g.stackPointer ≤ g.heap.length) {g' : Glue} (borrowed : borrowArgs args g = .all g') :
    g'.heap.length = g.heap.length := by
  induction args generalizing g with
  | nil => cases borrowed; rfl
  | cons arg rest ih =>
    simp only [List.length_cons] at fits
    have written := length_writeSlot_of_lt g.heap (g.stackPointer - 1) arg (by omega)
    rw [borrowArgs, addBorrowedObject_of_ne_one arg (by omega)] at borrowed
    exact (ih _ (by simp only; omega) (by simp only [written]; omega) borrowed).trans written

mutual
theorem GlueCall.run_length : ∀ (call : GlueCall) (g : Glue), call.depth < g.stackPointer →
    g.stackPointer ≤ g.heap.length → (call.run g).heap.length = g.heap.length
  | .borrowing args body, g, fits, inside => by
    rw [GlueCall.depth] at fits
    obtain ⟨g', borrowed, pointer, -⟩ := borrowArgs_all args g (by omega)
    have borrowedLength := borrowArgs_length args g (by omega) inside borrowed
    have innerPointer := (GlueCall.runAll_balanced body g' (by omega)).1
    have innerLength := GlueCall.runAll_length body g' (by omega) (by omega)
    rw [GlueCall.run_borrowing_all borrowed, releaseBorrowed_length _ _ (by omega), innerLength,
      borrowedLength]

theorem GlueCall.runAll_length : ∀ (calls : List GlueCall) (g : Glue),
    GlueCall.depthAll calls < g.stackPointer → g.stackPointer ≤ g.heap.length →
    (GlueCall.runAll calls g).heap.length = g.heap.length
  | [], _, _, _ => rfl
  | call :: rest, g, fits, inside => by
    rw [GlueCall.depthAll] at fits
    have first := GlueCall.run_length call g (by omega) inside
    have pointer := (GlueCall.run_balanced call g (by omega)).1
    exact (GlueCall.runAll_length rest _ (by omega) (by omega)).trans first
end

/-! The heap calls leave the borrow stack and the constants alone. -/

theorem addHeapObject_frame {obj : JsValue} {g g' : Glue} {idx : Nat}
    (added : addHeapObject obj g = some (idx, g')) :
    g'.stackPointer = g.stackPointer ∧
      ∀ i, i < g.heap.length → i ≠ idx → slot g'.heap i = slot g.heap i := by
  simp only [addHeapObject, Option.map_eq_some'] at added
  obtain ⟨next, -, same⟩ := added
  cases same
  refine ⟨rfl, fun i inside apart => ?_⟩
  rw [slot_writeSlot_of_ne _ _ _ apart]
  split
  · rw [slot_append, if_pos inside]
  · rfl

theorem slot_dropObject_of_lt (idx : Nat) (g : Glue) {i : Nat} (reserved : i < 132) :
    slot (dropObject idx g).heap i = slot g.heap i := by
  unfold dropObject
  split
  · rfl
  · exact slot_writeSlot_of_ne _ _ _ (by omega)

/-! The free list does not see a write below 132. -/

theorem threads_of_frame {heap heap' : List JsValue} (sameLength : heap'.length = heap.length)
    {free : List Nat} (same : ∀ i ∈ free, slot heap' i = slot heap i) (next : JsValue)
    (threads : Threads heap next free) : Threads heap' next free := by
  induction free generalizing next with
  | nil => exact threads.trans (congrArg _ (congrArg _ sameLength.symm))
  | cons i rest ih =>
    obtain ⟨rfl, tail⟩ := threads
    refine ⟨rfl, ?_⟩
    rw [same _ (.head _)]
    exact ih (fun j mem => same j (.tail _ mem)) _ tail

theorem Represents.of_frame {g g' : Glue} {handles : Handles} {free : List Nat}
    (rep : Represents g handles free) (sameNext : g'.heapNext = g.heapNext)
    (sameLength : g'.heap.length = g.heap.length)
    (sameSlots : ∀ i, 132 ≤ i → slot g'.heap i = slot g.heap i) : Represents g' handles free where
  reserved := sameLength ▸ rep.reserved
  threads := sameNext ▸ threads_of_frame sameLength
    (fun i mem => sameSlots i ((rep.mem_iff i).mp (List.mem_append_left _ mem)).1) _ rep.threads
  partition := sameLength ▸ rep.partition
  stored := fun entry mem =>
    (sameSlots _ (rep.live_of_mem (List.mem_map_of_mem Prod.fst mem)).1).trans
      (rep.stored entry mem)

/-- The states the glue reaches, with the handles wasm holds, when the heap calls of `Reachable`
and the borrowing exported functions run in any order, none of the latter nesting deeper than
the 127 slots of the borrow stack. -/
inductive Session : Glue → Handles → Prop
  | initial : Session initial []
  | add {g g' : Glue} {handles : Handles} {obj : JsValue} {idx : Nat} :
      Session g handles → addHeapObject obj g = some (idx, g') →
      Session g' ((idx, obj) :: handles)
  | cloneRef {g g' : Glue} {handles : Handles} {arg0 idx : Nat} :
      Session g handles → wbindgenObjectCloneRef arg0 g = some (idx, g') →
      Session g' ((idx, getObject g arg0) :: handles)
  | drop {g : Glue} {handles : Handles} {idx : Nat} :
      Session g handles → (idx < 132 ∨ idx ∈ handles.live) →
      Session (dropObject idx g) (handles.release idx)
  | call {g : Glue} {handles : Handles} (call : GlueCall) :
      Session g handles → call.depth ≤ 127 → Session (call.run g) handles

/-- What holds while calls run: the heap stands for the handles, the borrow stack has not grown
past the 128 slots below the constants, and the constants wasm names by index are in their
slots. -/
structure Busy (g : Glue) (handles : Handles) : Prop where
  represents : ∃ free, Represents g handles free
  stackPointer : g.stackPointer ≤ 128
  constants : ∀ i, 128 ≤ i → i < 132 → slot g.heap i = slot initial.heap i

namespace Busy
variable {g : Glue} {handles : Handles}

theorem reserved (busy : Busy g handles) : 132 ≤ g.heap.length :=
  let ⟨_, rep⟩ := busy.represents
  rep.reserved

theorem frame (busy : Busy g handles) {g' : Glue} (sameNext : g'.heapNext = g.heapNext)
    (sameLength : g'.heap.length = g.heap.length)
    (sameSlots : ∀ i, 128 ≤ i → slot g'.heap i = slot g.heap i) (room : g'.stackPointer ≤ 128) :
    Busy g' handles :=
  let ⟨free, rep⟩ := busy.represents
  ⟨⟨free, rep.of_frame sameNext sameLength fun i high => sameSlots i (by omega)⟩, room,
    fun i low high => (sameSlots i low).trans (busy.constants i low high)⟩

theorem add (busy : Busy g handles) {obj : JsValue} {idx : Nat} {g' : Glue}
    (added : addHeapObject obj g = some (idx, g')) :
    Busy g' ((idx, obj) :: handles) ∧ g'.stackPointer = g.stackPointer ∧
      ∀ i < 132, slot g'.heap i = slot g.heap i := by
  obtain ⟨⟨free, rep⟩, room, constants⟩ := busy
  obtain ⟨idx', g'', free', added', rep'⟩ := rep.add obj
  rw [added] at added'
  cases added'
  obtain ⟨samePointer, sameSlots⟩ := addHeapObject_frame added
  have fresh := rep'.fresh.1
  have reserved := rep.reserved
  have below : ∀ i < 132, slot g'.heap i = slot g.heap i :=
    fun i small => sameSlots i (by omega) (by omega)
  exact ⟨⟨⟨free', rep'⟩, samePointer.trans_le room,
    fun i low high => (below i high).trans (constants i low high)⟩, samePointer, below⟩

theorem drop (busy : Busy g handles) {idx : Nat} (allowed : idx < 132 ∨ idx ∈ handles.live) :
    Busy (dropObject idx g) (handles.release idx) :=
  let ⟨⟨_, rep⟩, room, constants⟩ := busy
  ⟨⟨_, rep.drop allowed⟩, (dropObject_stackPointer idx g).trans_le room,
    fun i low high => (slot_dropObject_of_lt idx g high).trans (constants i low high)⟩

end Busy

/-- What holds between calls: the heap stands for the handles, the borrow stack is empty, and
the constants wasm names by index are in their slots. -/
structure Idle (g : Glue) (handles : Handles) : Prop where
  represents : ∃ free, Represents g handles free
  stackPointer : g.stackPointer = 128
  constants : ∀ i, 128 ≤ i → i < 132 → slot g.heap i = slot initial.heap i

namespace Idle
variable {g : Glue} {handles : Handles}

theorem busy (idle : Idle g handles) : Busy g handles :=
  ⟨idle.represents, idle.stackPointer.le, idle.constants⟩

theorem of_busy (busy : Busy g handles) (top : g.stackPointer = 128) : Idle g handles :=
  ⟨busy.represents, top, busy.constants⟩

theorem initial : Idle ShinkaiWasmGlue.initial [] :=
  ⟨⟨[], Represents.initial⟩, rfl, fun _ _ _ => rfl⟩

theorem add (idle : Idle g handles) {obj : JsValue} {idx : Nat} {g' : Glue}
    (added : addHeapObject obj g = some (idx, g')) : Idle g' ((idx, obj) :: handles) :=
  let ⟨busy, samePointer, _⟩ := idle.busy.add added
  .of_busy busy (samePointer.trans idle.stackPointer)

theorem drop (idle : Idle g handles) {idx : Nat} (allowed : idx < 132 ∨ idx ∈ handles.live) :
    Idle (dropObject idx g) (handles.release idx) :=
  .of_busy (idle.busy.drop allowed) ((dropObject_stackPointer idx g).trans idle.stackPointer)

theorem call (idle : Idle g handles) (call : GlueCall) (fits : call.depth ≤ 127) :
    Idle (call.run g) handles := by
  have pointer := idle.stackPointer
  obtain ⟨restored, sameNext, sameSlots⟩ := call.run_balanced g (by omega)
  have sameLength := call.run_length g (by omega) (by have := idle.busy.reserved; omega)
  rw [pointer] at sameSlots
  exact .of_busy (idle.busy.frame sameNext sameLength (fun i low => sameSlots i (.inr low))
    (by omega)) (restored.trans pointer)

end Idle

theorem Session.idle {g : Glue} {handles : Handles} (session : Session g handles) :
    Idle g handles := by
  induction session with
  | initial => exact Idle.initial
  | add _ added ih => exact ih.add added
  | cloneRef _ added ih => exact ih.add added
  | drop _ allowed ih => exact ih.drop allowed
  | call call _ fits ih => exact ih.call call fits

/-- What a state between calls gives its next call: `stack_pointer` at 128, the constants in
place, a fresh slot from 132 up for `addHeapObject`, and every live handle's value. -/
theorem Idle.keeps_handles {g : Glue} {handles : Handles} (idle : Idle g handles) :
    g.stackPointer = 128 ∧
      (∀ i, 128 ≤ i → i < 132 → slot g.heap i = slot ShinkaiWasmGlue.initial.heap i) ∧
      (∀ obj, ∃ idx g', addHeapObject obj g = some (idx, g') ∧ 132 ≤ idx ∧ idx ∉ handles.live) ∧
      ∀ entry ∈ handles, getObject g entry.1 = entry.2 := by
  obtain ⟨⟨free, rep⟩, pointer, constants⟩ := idle
  refine ⟨pointer, constants, fun obj => ?_, rep.stored⟩
  obtain ⟨idx, g', free', added, rep'⟩ := rep.add obj
  exact ⟨idx, g', added, rep'.fresh⟩

/-- Heap calls and borrowing calls in any order, none nested deeper than 127: between calls
`stack_pointer` is 128, `heap[128..131]` still hold undefined, null, true and false,
`addHeapObject` hands out a slot from 132 up that no live handle holds, and `getObject` of a live
handle gives back the value it was handed for. -/
theorem session_keeps_handles {g : Glue} {handles : Handles} (session : Session g handles) :
    g.stackPointer = 128 ∧
      (∀ i, 128 ≤ i → i < 132 → slot g.heap i = slot initial.heap i) ∧
      (∀ obj, ∃ idx g', addHeapObject obj g = some (idx, g') ∧ 132 ≤ idx ∧ idx ∉ handles.live) ∧
      ∀ entry ∈ handles, getObject g entry.1 = entry.2 :=
  session.idle.keeps_handles

theorem session_keeps_handles_after_borrow :
    let g := (jobScopeWrapperNew .null .null []).run ⟨initialHeap ++ [.object 0], .number 133, 128⟩
    g.stackPointer = 128 ∧
      (∀ i, 128 ≤ i → i < 132 → slot g.heap i = slot initial.heap i) ∧
      (∀ obj, ∃ idx g', addHeapObject obj g = some (idx, g') ∧ 132 ≤ idx ∧
        idx ∉ Handles.live [(132, .object 0)]) ∧
      ∀ entry ∈ [(132, JsValue.object 0)], getObject g entry.1 = entry.2 := by
  have added : addHeapObject (.object 0) initial =
      some (132, ⟨initialHeap ++ [.object 0], .number 133, 128⟩) := by
    rw [addHeapObject_of_eq_length rfl]
    simp [initial]
  exact session_keeps_handles (.call _ (.add .initial added) (by decide))

/-- With borrowing calls in the mix, a live handle loses its object: from any state between
calls, a climb of nestings, each as deep as the stack pointer it meets, writes undefined over
every slot it climbs past, and so over every live handle's slot below where it ends. -/
theorem borrow_overflow_overwrites_live_object {g : Glue} {handles : Handles}
    (idle : Idle g handles) {idx : Nat} {obj : JsValue} (live : (idx, obj) ∈ handles)
    (arg : JsValue) {k : Nat} (high : idx ≤ 128 + k) :
    getObject g idx = obj ∧
      (GlueCall.runAll (climbingNestings arg 128 (k + 1)) g).stackPointer = 129 + k ∧
      getObject (GlueCall.runAll (climbingNestings arg 128 (k + 1)) g) idx = .undefined := by
  obtain ⟨⟨free, rep⟩, pointer, -⟩ := idle
  have reserved := (rep.live_of_mem (List.mem_map_of_mem Prod.fst live)).1
  obtain ⟨climbed, cleared⟩ := runAll_climbingNestings arg 128 (by omega) k g pointer
  exact ⟨rep.stored _ live, by omega, cleared idx (by omega) high⟩

theorem borrow_overflow_overwrites_first_handle :
    Idle ⟨initialHeap ++ [.object 0], .number 133, 128⟩ [(132, .object 0)] ∧
      ((132 : Nat), JsValue.object 0) ∈ [((132 : Nat), JsValue.object 0)] ∧ 132 ≤ 128 + 4 ∧
      getObject ⟨initialHeap ++ [.object 0], .number 133, 128⟩ 132 = .object 0 ∧
      (GlueCall.runAll (climbingNestings .null 128 (4 + 1))
        ⟨initialHeap ++ [.object 0], .number 133, 128⟩).stackPointer = 129 + 4 ∧
      getObject (GlueCall.runAll (climbingNestings .null 128 (4 + 1))
        ⟨initialHeap ++ [.object 0], .number 133, 128⟩) 132 = .undefined := by
  have added : addHeapObject (.object 0) initial =
      some (132, ⟨initialHeap ++ [.object 0], .number 133, 128⟩) := by
    rw [addHeapObject_of_eq_length rfl]
    simp [initial]
  have idle := Idle.initial.add added
  exact ⟨idle, List.mem_singleton_self _, by decide,
    borrow_overflow_overwrites_live_object idle (List.mem_singleton_self _) .null (by decide)⟩

end ShinkaiWasmGlue
