import ShinkaiWasmGlue.Exports

/-!
Who owns the Rust values behind the wrapper objects. A constructor or static method returning a
wrapper has wasm box the value and hand back its address, which `__wrap` stores as `__wbg_ptr`;
the methods pass `this.__wbg_ptr` to wasm; `free()` takes the address out through
`__destroy_into_raw()`, which sets `__wbg_ptr` to 0, and passes it to the class's
`__wbg_<class>_free`, which drops the box. The wrapper classes share `__wrap`,
`__destroy_into_raw` and `free` word for word and differ only in the name of the free export,
so one `Wrapper` stands for all of them.

The boxes wasm holds are kept as ghost state beside the wrappers. wasm's allocator hands out a
nonzero 32-bit address that is not a live box. Whatever JS then does with the wrappers, in any
order and any number of times, the nonzero `__wbg_ptr`s are exactly the boxes, each held by one
wrapper: a method or `free()` hands wasm 0 or a live box, and once `free()` has handed a box
over no wrapper holds it, so it is never handed over again.
-/

namespace ShinkaiWasmGlue

/-- `__destroy_into_raw()`: `__wbg_ptr`, and the wrapper with `__wbg_ptr = 0`. -/
def Wrapper.destroyIntoRaw (w : Wrapper) : Nat × Wrapper := (w.wbgPtr, ⟨0⟩)

/-- `free()`: the address handed to `__wbg_<class>_free`, and the wrapper after. -/
def Wrapper.free (w : Wrapper) : Nat × Wrapper := w.destroyIntoRaw

/-- The nonzero `__wbg_ptr`s of the wrappers, in order. -/
def heldBoxes (ws : List Wrapper) : List Nat := (ws.map Wrapper.wbgPtr).filter (· ≠ 0)

/-- The wrappers JS holds, oldest first, and the boxes wasm has allocated for them and not been
asked to free, after any run of constructors and `free()` calls (the methods change neither).
A constructor's box is a nonzero 32-bit address that is not a live box, read back from the
return area as a signed i32 (`wrapResult`). -/
inductive WrapperRun : List Wrapper → List Nat → Prop
  | initial : WrapperRun [] []
  | wrap {ws : List Wrapper} {boxes : List Nat} {ptr : Nat} : WrapperRun ws boxes →
      ptr ≠ 0 → ptr < 0x100000000 → ptr ∉ boxes →
      WrapperRun (ws ++ [Wrapper.wrap (toInt32 ptr)]) (ptr :: boxes)
  | free {ws : List Wrapper} {boxes : List Nat} (i : Fin ws.length) : WrapperRun ws boxes →
      WrapperRun (ws.set i (ws.get i).free.2) (boxes.erase (ws.get i).free.1)

/-- The wrappers own the boxes: their nonzero pointers are the boxes, with no box twice. -/
structure Owns (ws : List Wrapper) (boxes : List Nat) : Prop where
  perm : (heldBoxes ws).Perm boxes
  nodup : boxes.Nodup

@[simp] theorem heldBoxes_nil : heldBoxes [] = [] := rfl

theorem heldBoxes_cons (w : Wrapper) (ws : List Wrapper) :
    heldBoxes (w :: ws) = if w.wbgPtr = 0 then heldBoxes ws else w.wbgPtr :: heldBoxes ws := by
  by_cases zero : w.wbgPtr = 0 <;> simp [heldBoxes, List.filter_cons, zero]

theorem mem_heldBoxes {ws : List Wrapper} {ptr : Nat} :
    ptr ∈ heldBoxes ws ↔ ptr ≠ 0 ∧ ∃ w ∈ ws, w.wbgPtr = ptr := by
  simp only [heldBoxes, List.mem_filter, List.mem_map, decide_eq_true_eq]
  exact ⟨fun ⟨held, nonzero⟩ => ⟨nonzero, held⟩, fun ⟨nonzero, held⟩ => ⟨held, nonzero⟩⟩

theorem heldBoxes_wrap (ws : List Wrapper) {ptr : Nat} (nonzero : ptr ≠ 0)
    (valid : ptr < 0x100000000) :
    heldBoxes (ws ++ [Wrapper.wrap (toInt32 ptr)]) = heldBoxes ws ++ [ptr] := by
  simp [heldBoxes, Wrapper.wrap, toUint32_toInt32 valid, nonzero]

theorem heldBoxes_set_zero (ws : List Wrapper) (i : Fin ws.length) :
    (heldBoxes (ws.set i ⟨0⟩) ++ if (ws.get i).wbgPtr = 0 then [] else [(ws.get i).wbgPtr]).Perm
      (heldBoxes ws) := by
  induction ws with
  | nil => exact i.elim0
  | cons w rest ih =>
    cases i using Fin.cases with
    | zero =>
      by_cases zero : w.wbgPtr = 0
      · simp [heldBoxes_cons, zero]
      · simp [heldBoxes_cons, zero]
    | succ i =>
      by_cases zero : w.wbgPtr = 0
      · simpa [heldBoxes_cons, zero] using ih i
      · simpa [heldBoxes_cons, zero] using (ih i).cons w.wbgPtr

namespace Owns
variable {ws : List Wrapper} {boxes : List Nat}

theorem initial : Owns [] [] := ⟨.nil, .nil⟩

theorem zero_not_mem (owns : Owns ws boxes) : 0 ∉ boxes :=
  fun mem => (mem_heldBoxes.mp (owns.perm.symm.subset mem)).1 rfl

theorem wrap (owns : Owns ws boxes) {ptr : Nat} (nonzero : ptr ≠ 0) (valid : ptr < 0x100000000)
    (fresh : ptr ∉ boxes) : Owns (ws ++ [Wrapper.wrap (toInt32 ptr)]) (ptr :: boxes) where
  perm := heldBoxes_wrap ws nonzero valid ▸
    (List.perm_append_singleton ptr _).trans (owns.perm.cons ptr)
  nodup := List.nodup_cons.mpr ⟨fresh, owns.nodup⟩

theorem free (owns : Owns ws boxes) (i : Fin ws.length) :
    Owns (ws.set i (ws.get i).free.2) (boxes.erase (ws.get i).free.1) where
  perm := by
    have split := heldBoxes_set_zero ws i
    by_cases zero : (ws.get i).wbgPtr = 0
    · rw [if_pos zero, List.append_nil] at split
      rw [Wrapper.free, Wrapper.destroyIntoRaw, zero, List.erase_of_not_mem owns.zero_not_mem]
      exact split.trans owns.perm
    · rw [if_neg zero] at split
      have taken := ((List.perm_append_singleton _ _).symm.trans (split.trans owns.perm)).erase
        (ws.get i).wbgPtr
      rwa [List.erase_cons_head] at taken
  nodup := owns.nodup.erase _

theorem live (owns : Owns ws boxes) {w : Wrapper} (mem : w ∈ ws) :
    w.wbgPtr = 0 ∨ w.wbgPtr ∈ boxes := by
  by_cases zero : w.wbgPtr = 0
  · exact .inl zero
  · exact .inr (owns.perm.subset (mem_heldBoxes.mpr ⟨zero, w, mem, rfl⟩))

end Owns

theorem WrapperRun.owns {ws : List Wrapper} {boxes : List Nat} (run : WrapperRun ws boxes) :
    Owns ws boxes := by
  induction run with
  | initial => exact .initial
  | wrap _ nonzero valid fresh ih => exact ih.wrap nonzero valid fresh
  | free i _ ih => exact ih.free i

/-- Whatever JS does with the wrappers: every `__wbg_ptr` is 0 or a live box, so a method hands
wasm nothing freed; no two wrappers hold the same box; and every box wasm holds is held by a
wrapper. -/
theorem wrapperRun_owns {ws : List Wrapper} {boxes : List Nat} (run : WrapperRun ws boxes) :
    (∀ w ∈ ws, w.wbgPtr = 0 ∨ w.wbgPtr ∈ boxes) ∧ (heldBoxes ws).Nodup ∧
      ∀ ptr ∈ boxes, ∃ w ∈ ws, w.wbgPtr = ptr := by
  have owns := run.owns
  exact ⟨fun _ mem => owns.live mem, owns.perm.nodup_iff.mpr owns.nodup,
    fun _ mem => (mem_heldBoxes.mp (owns.perm.symm.subset mem)).2⟩

theorem wrapperRun_owns_after_free :
    (∀ w ∈ [Wrapper.mk 0, ⟨32⟩], w.wbgPtr = 0 ∨ w.wbgPtr ∈ [32]) ∧
      (heldBoxes [⟨0⟩, ⟨32⟩]).Nodup ∧ ∀ ptr ∈ [32], ∃ w ∈ [Wrapper.mk 0, ⟨32⟩], w.wbgPtr = ptr :=
  wrapperRun_owns (.free ⟨0, by decide⟩ (.wrap (.wrap .initial (by decide) (by decide)
    (by decide : 16 ∉ [])) (by decide) (by decide) (by decide : 32 ∉ [16])))

/-- `free()` on any wrapper, at any point of any run and however often: it hands wasm 0 or a
live box, and afterwards no wrapper holds that box, so no later `free()` or method hands it over
again. -/
theorem wrapperRun_free_once {ws : List Wrapper} {boxes : List Nat} (run : WrapperRun ws boxes)
    (i : Fin ws.length) :
    ((ws.get i).free.1 = 0 ∨ (ws.get i).free.1 ∈ boxes) ∧
      ∀ w ∈ ws.set i (ws.get i).free.2, w.wbgPtr ≠ (ws.get i).free.1 ∨ (ws.get i).free.1 = 0 := by
  have owns := run.owns
  have after := (run.free i).owns
  refine ⟨owns.live (List.get_mem ws i.1 i.2), fun w mem => ?_⟩
  by_cases zero : (ws.get i).free.1 = 0
  · exact .inr zero
  · refine .inl fun same => ?_
    rcases after.live mem with empty | held
    · exact zero (same ▸ empty)
    · exact (owns.nodup.not_mem_erase (same ▸ held))

theorem wrapperRun_free_once_first :
    let ws := [Wrapper.wrap (toInt32 16), Wrapper.wrap (toInt32 32)]
    ((ws.get ⟨0, by decide⟩).free.1 = 0 ∨ (ws.get ⟨0, by decide⟩).free.1 ∈ [32, 16]) ∧
      ∀ w ∈ ws.set 0 (ws.get ⟨0, by decide⟩).free.2,
        w.wbgPtr ≠ (ws.get ⟨0, by decide⟩).free.1 ∨ (ws.get ⟨0, by decide⟩).free.1 = 0 :=
  wrapperRun_free_once (.wrap (.wrap .initial (by decide) (by decide) (by decide : 16 ∉ []))
    (by decide) (by decide) (by decide : 32 ∉ [16])) ⟨0, by decide⟩

end ShinkaiWasmGlue
