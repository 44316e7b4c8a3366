import Mathlib.Data.List.Nodup
import ShinkaiWasmGlue.Heap

/-!
The free list of the object heap, and what the heap is for: a table of the handles wasm
holds, each standing for the JS value it was handed for. `Represents` ties a `Glue` to that
table and to the free list threaded through the array. `addHeapObject` and `dropObject` keep
it, and so every state reached from `initial` by the heap calls of the glue satisfies it.
-/

namespace ShinkaiWasmGlue

/-- `free` is the list threaded through `heap` from `next`: `next` is the index of the first
free slot, each free slot holds the index of the slot after it, and the last one holds
`heap.length`. -/
def Threads (heap : List JsValue) : JsValue → List Nat → Prop
  | next, [] => next = .number heap.length
  | next, i :: rest => next = .number i ∧ Threads heap (slot heap i) rest

/-- The handles wasm holds, each with the value it was handed for. -/
abbrev Handles := List (Nat × JsValue)

def Handles.live (handles : Handles) : List Nat := handles.map Prod.fst

/-- The table after `dropObject(idx)`. -/
def Handles.release (handles : Handles) (idx : Nat) : Handles := handles.filter (·.1 ≠ idx)

/-- The heap stands for `handles`, with free list `free`: the free slots and the live handles
are, between them, every slot from 132 to the end exactly once, and each live handle's slot
holds its value. -/
structure Represents (g : Glue) (handles : Handles) (free : List Nat) : Prop where
  reserved : 132 ≤ g.heap.length
  threads : Threads g.heap g.heapNext free
  partition : (free ++ handles.live).Perm (List.range' 132 (g.heap.length - 132))
  stored : ∀ entry ∈ handles, slot g.heap entry.1 = entry.2

theorem threads_writeSlot {heap : List JsValue} {idx : Nat} (v : JsValue)
    (inside : idx < heap.length) {free : List Nat} (unthreaded : idx ∉ free) (next : JsValue)
    (threads : Threads heap next free) : Threads (writeSlot heap idx v) next free := by
  induction free generalizing next with
  | nil => simpa [Threads, length_writeSlot_of_lt heap idx v inside] using threads
  | cons i rest ih =>
    obtain ⟨rfl, tail⟩ := threads
    simp only [List.mem_cons, not_or] at unthreaded
    refine ⟨rfl, ?_⟩
    rw [slot_writeSlot_of_ne heap idx v (Ne.symm unthreaded.1)]
    exact ih unthreaded.2 _ tail

theorem Handles.live_release_of_nodup {handles : Handles} (distinct : handles.live.Nodup)
    (idx : Nat) : (handles.release idx).live = handles.live.erase idx := by
  rw [distinct.erase_eq_filter]
  unfold live release
  rw [List.filter_map]
  exact congrArg _ (List.filter_congr fun entry _ => by
    by_cases same : entry.1 = idx <;> simp [same])

theorem Handles.release_of_not_mem {handles : Handles} {idx : Nat} (absent : idx ∉ handles.live) :
    handles.release idx = handles := by
  refine List.filter_eq_self.mpr fun entry mem => ?_
  have : entry.1 ≠ idx := fun same => absent (List.mem_map.mpr ⟨entry, mem, same⟩)
  simpa using this

namespace Represents
variable {g : Glue} {handles : Handles} {free : List Nat}

theorem mem_iff (rep : Represents g handles free) (i : Nat) :
    i ∈ free ++ handles.live ↔ 132 ≤ i ∧ i < g.heap.length := by
  rw [rep.partition.mem_iff, List.mem_range']
  constructor
  · rintro ⟨k, bound, rfl⟩; omega
  · rintro ⟨low, high⟩; exact ⟨i - 132, by omega, by omega⟩

theorem nodup (rep : Represents g handles free) : (free ++ handles.live).Nodup :=
  rep.partition.nodup_iff.mpr (List.nodup_range' _ _)

theorem live_of_mem (rep : Represents g handles free) {i : Nat} (live : i ∈ handles.live) :
    132 ≤ i ∧ i < g.heap.length :=
  (rep.mem_iff i).mp (List.mem_append_right _ live)

theorem initial : Represents initial [] [] where
  reserved := by simp [ShinkaiWasmGlue.initial, initialHeap]
  threads := rfl
  partition := by simp [ShinkaiWasmGlue.initial, initialHeap, Handles.live]
  stored := by simp

theorem add_of_nil (rep : Represents g handles []) (obj : JsValue) :
    ∃ g', addHeapObject obj g = some (g.heap.length, g') ∧
      Represents g' ((g.heap.length, obj) :: handles) [] := by
  have atEnd : g.heapNext = .number g.heap.length := rep.threads
  refine ⟨_, addHeapObject_of_eq_length atEnd obj, ?_⟩
  have reserved := rep.reserved
  refine ⟨by simp; omega, by simp [Threads], ?_, ?_⟩
  · have grown : (g.heap ++ [obj]).length - 132 = (g.heap.length - 132) + 1 := by simp; omega
    have last : 132 + 1 * (g.heap.length - 132) = g.heap.length := by omega
    have before : handles.live.Perm (List.range' 132 (g.heap.length - 132)) := by
      simpa using rep.partition
    rw [grown, List.range'_concat, last]
    exact (before.cons _).trans (List.perm_append_singleton _ _).symm
  · rintro ⟨i, v⟩ (head | ⟨_, tail⟩)
    · simp [slot_append, slot]
    · have bound := (rep.live_of_mem (List.mem_map_of_mem Prod.fst tail)).2
      simp only [slot_append, if_pos bound]
      exact rep.stored _ tail

theorem add_of_cons {i : Nat} {rest : List Nat} (rep : Represents g handles (i :: rest))
    (obj : JsValue) :
    ∃ g', addHeapObject obj g = some (i, g') ∧ Represents g' ((i, obj) :: handles) rest := by
  obtain ⟨first, tail⟩ := rep.threads
  have inside := ((rep.mem_iff i).mp (by simp)).2
  have distinct := rep.nodup
  simp only [List.cons_append, List.nodup_cons, List.mem_append, not_or] at distinct
  refine ⟨_, addHeapObject_of_link first (Nat.ne_of_lt inside) obj, ?_⟩
  refine ⟨by rw [length_writeSlot_of_lt _ _ _ inside]; exact rep.reserved,
    threads_writeSlot obj inside distinct.1.1 _ tail, ?_, ?_⟩
  · rw [length_writeSlot_of_lt _ _ _ inside]
    exact List.perm_middle.trans rep.partition
  · rintro ⟨j, v⟩ (head | ⟨_, other⟩)
    · simp
    · have apart : j ≠ i := fun same =>
        distinct.1.2 (same ▸ List.mem_map_of_mem Prod.fst other)
      rw [slot_writeSlot_of_ne _ _ _ apart]
      exact rep.stored _ other

theorem add (rep : Represents g handles free) (obj : JsValue) :
    ∃ idx g' free', addHeapObject obj g = some (idx, g') ∧
      Represents g' ((idx, obj) :: handles) free' := by
  cases free with
  | nil =>
    obtain ⟨g', added, rep'⟩ := rep.add_of_nil obj
    exact ⟨_, g', [], added, rep'⟩
  | cons i rest =>
    obtain ⟨g', added, rep'⟩ := rep.add_of_cons obj
    exact ⟨i, g', rest, added, rep'⟩

theorem fresh {idx : Nat} {obj : JsValue} (rep : Represents g ((idx, obj) :: handles) free) :
    132 ≤ idx ∧ idx ∉ handles.live := by
  have distinct := List.nodup_append.mp rep.nodup
  have head := rep.live_of_mem (i := idx) (by simp [Handles.live])
  simp only [Handles.live, List.map_cons, List.nodup_cons] at distinct
  exact ⟨head.1, distinct.2.1.1⟩

theorem drop (rep : Represents g handles free) {idx : Nat}
    (allowed : idx < 132 ∨ idx ∈ handles.live) :
    Represents (dropObject idx g) (handles.release idx)
      (if idx < 132 then free else idx :: free) := by
  by_cases reserved : idx < 132
  · have absent : idx ∉ handles.live := fun live => by have := (rep.live_of_mem live).1; omega
    simpa [dropObject_of_lt g reserved, Handles.release_of_not_mem absent, reserved] using rep
  · have live := allowed.resolve_left reserved
    have inside := (rep.live_of_mem live).2
    have distinct := List.nodup_append.mp rep.nodup
    have unthreaded : idx ∉ free := fun mem => distinct.2.2 mem live
    simp only [dropObject, reserved, if_false]
    refine ⟨by rw [length_writeSlot_of_lt _ _ _ inside]; exact rep.reserved,
      ⟨rfl, by rw [slot_writeSlot_self]; exact threads_writeSlot _ inside unthreaded _ rep.threads⟩,
      ?_, ?_⟩
    · rw [length_writeSlot_of_lt _ _ _ inside, Handles.live_release_of_nodup distinct.2.1]
      exact (List.perm_middle.symm.trans ((List.perm_cons_erase live).symm.append_left free)).trans
        rep.partition
    · intro entry mem
      have ⟨kept, apart⟩ := List.mem_filter.mp mem
      rw [slot_writeSlot_of_ne _ _ _ (of_decide_eq_true apart)]
      exact rep.stored _ kept

end Represents

/-- The states the heap reaches from `initial`, with the handles wasm holds: every JS value
handed to wasm goes through `addHeapObject`, `__wbindgen_object_clone_ref` hands out a second
handle to a value, and `dropObject` (also behind `takeObject` and `__wbindgen_object_drop_ref`)
is called on a live handle or on an index below 132. -/
inductive Reachable : Glue → Handles → Prop
  | initial : Reachable initial []
  | add {g g' : Glue} {handles : Handles} {obj : JsValue} {idx : Nat} :
      Reachable g handles → addHeapObject obj g = some (idx, g') →
      Reachable g' ((idx, obj) :: handles)
  | cloneRef {g g' : Glue} {handles : Handles} {arg0 idx : Nat} :
      Reachable g handles → wbindgenObjectCloneRef arg0 g = some (idx, g') →
      Reachable g' ((idx, getObject g arg0) :: handles)
  | drop {g : Glue} {handles : Handles} {idx : Nat} :
      Reachable g handles → (idx < 132 ∨ idx ∈ handles.live) →
      Reachable (dropObject idx g) (handles.release idx)

theorem Reachable.represents {g : Glue} {handles : Handles} (reach : Reachable g handles) :
    ∃ free, Represents g handles free := by
  induction reach with
  | initial => exact ⟨[], Represents.initial⟩
  | @add g g' handles obj idx _ added ih =>
    obtain ⟨free, rep⟩ := ih
    obtain ⟨idx', g'', free', added', rep'⟩ := rep.add obj
    rw [added] at added'
    cases added'
    exact ⟨free', rep'⟩
  | @cloneRef g g' handles arg0 idx _ added ih =>
    obtain ⟨free, rep⟩ := ih
    obtain ⟨idx', g'', free', added', rep'⟩ := rep.add (getObject g arg0)
    rw [wbindgenObjectCloneRef, added] at *
    cases added'
    exact ⟨free', rep'⟩
  | drop _ allowed ih =>
    obtain ⟨free, rep⟩ := ih
    exact ⟨_, rep.drop allowed⟩

/-- Every state reached by allocating, cloning and dropping handles: the free list runs from
`heap_next` through distinct slots, each at least 132, to `heap.length`, and it is exactly the
slots from 132 up that no live handle holds; `addHeapObject` hands out one of those; no two
live handles share a slot; and `getObject` of a live handle gives back the value it was
handed for. -/
theorem heap_free_list_sound {g : Glue} {handles : Handles} (reach : Reachable g handles) :
    (∃ free, Threads g.heap g.heapNext free ∧ (free ++ handles.live).Nodup ∧
      ∀ i, i ∈ free ↔ 132 ≤ i ∧ i < g.heap.length ∧ i ∉ handles.live) ∧
    (∀ obj, ∃ idx g', addHeapObject obj g = some (idx, g') ∧ 132 ≤ idx ∧ idx ∉ handles.live) ∧
    ∀ entry ∈ handles, getObject g entry.1 = entry.2 := by
  obtain ⟨free, rep⟩ := reach.represents
  refine ⟨⟨free, rep.threads, rep.nodup, fun i => ?_⟩, fun obj => ?_, rep.stored⟩
  · have distinct := List.nodup_append.mp rep.nodup
    constructor
    · intro mem
      exact ⟨((rep.mem_iff i).mp (List.mem_append_left _ mem)).1,
        ((rep.mem_iff i).mp (List.mem_append_left _ mem)).2,
        fun live => distinct.2.2 mem live⟩
    · rintro ⟨low, high, absent⟩
      simpa [absent] using (rep.mem_iff i).mpr ⟨low, high⟩
  · obtain ⟨idx, g', free', added, rep'⟩ := rep.add obj
    exact ⟨idx, g', added, rep'.fresh⟩

theorem heap_free_list_after_drop :
    let g := dropObject 132 ⟨initialHeap ++ [.object 1, .object 2], .number 134, 128⟩
    let handles := Handles.release [(133, .object 2), (132, .object 1)] 132
    (∃ free, Threads g.heap g.heapNext free ∧ (free ++ handles.live).Nodup ∧
      ∀ i, i ∈ free ↔ 132 ≤ i ∧ i < g.heap.length ∧ i ∉ handles.live) ∧
    (∀ obj, ∃ idx g', addHeapObject obj g = some (idx, g') ∧ 132 ≤ idx ∧ idx ∉ handles.live) ∧
    ∀ entry ∈ handles, getObject g entry.1 = entry.2 := by
  have first : Reachable ⟨initialHeap ++ [.object 1], .number 133, 128⟩ [(132, .object 1)] := by
    refine .add .initial ?_
    rw [addHeapObject_of_eq_length rfl]
    simp [initial]
  have second : Reachable ⟨initialHeap ++ [.object 1, .object 2], .number 134, 128⟩
      [(133, .object 2), (132, .object 1)] := by
    refine .add first ?_
    rw [addHeapObject_of_eq_length (by simp)]
    simp
  exact heap_free_list_sound (.drop second (.inr (by decide)))

end ShinkaiWasmGlue
