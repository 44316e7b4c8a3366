import ShinkaiWasmGlue.PassString

/-!
Several strings passed to one wasm call. A method with string parameters passes them one after
the other, `const ptrK = passStringToWasm0(argK, wasm.__wbindgen_malloc,
wasm.__wbindgen_realloc); const lenK = WASM_VECTOR_LEN;`, and only then calls wasm with every
`(ptrK, lenK)`. Each later pass calls the allocator again and stores again, so the bytes of the
earlier strings survive only if neither touches them.

What the glue relies on of wasm's allocator is stated over wasm's own bookkeeping, an invariant
`inv mem live` saying that the blocks `live` are allocated in `mem` (`AllocatorSpec`): `malloc`
and `realloc` hand out a block apart from every other live block and change none of their bytes,
and a store by JS inside a live block keeps the bookkeeping. Nothing is assumed about where the
blocks lie. Under that contract every string arrives whole: at the call, the `lenK` bytes at
`ptrK` are the UTF-8 of `argK`, for every `K`.
-/

namespace ShinkaiWasmGlue

/-- The blocks `[b.1, b.1 + b.2)` and `[c.1, c.1 + c.2)` share no byte. -/
def Apart (b c : Nat × Nat) : Prop := b.1 + b.2 ≤ c.1 ∨ c.1 + c.2 ≤ b.1

/-- `mem'` has the bytes of `mem` in every block of `blocks`. -/
def KeepsBlocks (mem mem' : WasmMemory) (blocks : List (Nat × Nat)) : Prop :=
  ∀ b ∈ blocks, ∀ i, b.1 ≤ i → i < b.1 + b.2 → mem'.bytes i = mem.bytes i

/-- The contract of wasm's allocator over its bookkeeping `inv mem live`: a new block, from
`malloc` or from `realloc` of a live block, is apart from the other live blocks and leaves their
bytes alone; a store inside a live block keeps the bookkeeping. -/
structure AllocatorSpec (malloc : Malloc) (realloc : Realloc)
    (inv : WasmMemory → List (Nat × Nat) → Prop) : Prop where
  mallocApart : ∀ mem live size, inv mem live →
    inv (malloc size 1 mem).2 (((malloc size 1 mem).1, size) :: live) ∧
      (∀ b ∈ live, Apart ((malloc size 1 mem).1, size) b) ∧
      KeepsBlocks mem (malloc size 1 mem).2 live
  reallocApart : ∀ mem live ptr oldSize newSize, inv mem ((ptr, oldSize) :: live) →
    inv (realloc ptr oldSize newSize 1 mem).2
        (((realloc ptr oldSize newSize 1 mem).1, newSize) :: live) ∧
      (∀ b ∈ live, Apart ((realloc ptr oldSize newSize 1 mem).1, newSize) b) ∧
      KeepsBlocks mem (realloc ptr oldSize newSize 1 mem).2 live
  storeKeeps : ∀ mem mem' live b, b ∈ live → StoresWithin mem mem' b.1 (b.1 + b.2) →
    inv mem live → inv mem' live

/-- A bump allocator over the memory's buffer number, which it grows by each block: blocks lie
below the buffer number. It copies the old block on `realloc`. -/
def bumpMalloc : Malloc := fun size _ mem => (mem.buffer, { mem with buffer := mem.buffer + size })

def bumpRealloc : Realloc := fun ptr oldSize newSize _ mem =>
  (mem.buffer, ⟨fun i => if mem.buffer ≤ i ∧ i < mem.buffer + oldSize
    then mem.bytes (ptr + (i - mem.buffer)) else mem.bytes i, mem.buffer + newSize⟩)

def bumpInv (mem : WasmMemory) (live : List (Nat × Nat)) : Prop :=
  ∀ b ∈ live, b.1 + b.2 ≤ mem.buffer

theorem bumpInv_cons {mem mem' : WasmMemory} {live : List (Nat × Nat)} {b : Nat × Nat}
    (start : bumpInv mem live) (grown : mem.buffer ≤ mem'.buffer)
    (fits : b.1 + b.2 ≤ mem'.buffer) : bumpInv mem' (b :: live) := by
  intro c member
  rcases List.mem_cons.mp member with rfl | older
  · exact fits
  · exact (start c older).trans grown

theorem bumpAllocatorSpec : AllocatorSpec bumpMalloc bumpRealloc bumpInv where
  mallocApart mem live size start :=
    ⟨bumpInv_cons start (Nat.le_add_right _ _) le_rfl, fun b member => .inr (start b member),
      fun _ _ _ _ _ => rfl⟩
  reallocApart mem live ptr oldSize newSize start := by
    have older : bumpInv mem live := fun b member => start b (.tail _ member)
    refine ⟨bumpInv_cons older (Nat.le_add_right _ _) le_rfl, fun b member => .inr (older b member),
      fun b member i _ high => ?_⟩
    have below := older b member
    simp only [bumpRealloc]
    rw [if_neg (by omega)]
  storeKeeps mem mem' live b _ within start := fun c member => within.1 ▸ start c member

theorem bumpRealloc_keeps : ReallocKeeps bumpRealloc := by
  intro ptr oldSize newSize align mem _ i inside
  simp only [bumpRealloc]
  rw [if_pos (by omega), Nat.add_sub_cancel_left]

/-- `const ptrK = passStringToWasm0(argK, ...); const lenK = WASM_VECTOR_LEN;` for each string
argument in turn: the pairs handed to wasm, and the state after. -/
def passStringArgs (hasEncodeInto : Bool) (malloc : Malloc) (realloc : Realloc) :
    List JsString → MemoryState → Except JsError (List (Nat × Nat) × MemoryState)
  | [], m => .ok ([], m)
  | arg :: rest, m =>
    match passStringToWasm0 hasEncodeInto arg malloc (some realloc) m with
    | .error e => .error e
    | .ok (ptr, m) =>
      let len := m.wasmVectorLen
      (passStringArgs hasEncodeInto malloc realloc rest m).map fun (pairs, m) =>
        ((ptr, len) :: pairs, m)

section Blocks
variable {mem mem' mem'' : WasmMemory} {blocks : List (Nat × Nat)}

theorem KeepsBlocks.trans (first : KeepsBlocks mem mem' blocks)
    (second : KeepsBlocks mem' mem'' blocks) : KeepsBlocks mem mem'' blocks :=
  fun b mem i low high => (second b mem i low high).trans (first b mem i low high)

theorem KeepsBlocks.mono (keeps : KeepsBlocks mem mem' blocks) {fewer : List (Nat × Nat)}
    (sub : fewer ⊆ blocks) : KeepsBlocks mem mem' fewer :=
  fun b mem i => keeps b (sub mem) i

theorem StoresWithin.keepsBlocks {ptr size : Nat} (within : StoresWithin mem mem' ptr (ptr + size))
    (apart : ∀ b ∈ blocks, Apart (ptr, size) b) : KeepsBlocks mem mem' blocks :=
  fun b member i low high => within.2 i (by
    have := apart b member; simp only [Apart] at this; omega)

theorem read_of_keepsBlocks (keeps : KeepsBlocks mem mem' blocks) {b : Nat × Nat}
    (member : b ∈ blocks) {ptr len : Nat} (low : b.1 ≤ ptr) (high : ptr + len ≤ b.1 + b.2) :
    mem'.read ptr len = mem.read ptr len :=
  WasmMemory.read_eq_of_bytes fun j inside => keeps b member _ (by omega) (by omega)

end Blocks

section Pass
variable {malloc : Malloc} {realloc : Realloc} {inv : WasmMemory → List (Nat × Nat) → Prop}
  (spec : AllocatorSpec malloc realloc inv) (keeps : ReallocKeeps realloc)
  (hasEncodeInto : Bool)
include spec keeps

theorem passStringToWasm0_allocated (arg : JsString) (m : MemoryState) {live : List (Nat × Nat)}
    (start : inv m.memory live) :
    ∃ ptr m' size, passStringToWasm0 hasEncodeInto arg malloc (some realloc) m = .ok (ptr, m') ∧
      m'.memory.read ptr m'.wasmVectorLen = textEncode arg ∧ m'.wasmVectorLen ≤ size ∧
      inv m'.memory ((ptr, size) :: live) ∧ KeepsBlocks m.memory m'.memory live := by
  obtain ⟨ptr, m', passed, -, bytes, within⟩ :=
    passStringToWasm0_realloc hasEncodeInto arg malloc keeps m
  obtain ⟨allocated, apart, kept⟩ := spec.mallocApart m.memory live arg.length start
  simp only [StoresInBlocks] at within
  rcases within with ⟨rfl, used, stored⟩ | ⟨moved, size, stored, rfl, used, storedAgain⟩
  · exact ⟨_, m', arg.length, passed, bytes, used,
      spec.storeKeeps _ _ _ _ (List.mem_cons_self _ _) stored allocated,
      kept.trans (stored.keepsBlocks apart)⟩
  · have movedInv := spec.storeKeeps _ _ _ _ (List.mem_cons_self _ _) stored allocated
    obtain ⟨reallocated, apartAgain, keptAgain⟩ := spec.reallocApart _ live _ _ size movedInv
    exact ⟨_, m', size, passed, bytes, used,
      spec.storeKeeps _ _ _ _ (List.mem_cons_self _ _) storedAgain reallocated,
      ((kept.trans (stored.keepsBlocks apart)).trans keptAgain).trans
        (storedAgain.keepsBlocks apartAgain)⟩

theorem passStringArgs_allocated (args : List JsString) (m : MemoryState)
    {live : List (Nat × Nat)} (start : inv m.memory live) :
    ∃ pairs m' blocks, passStringArgs hasEncodeInto malloc realloc args m = .ok (pairs, m') ∧
      inv m'.memory (blocks ++ live) ∧ KeepsBlocks m.memory m'.memory live ∧
      pairs.map (fun pair => m'.memory.read pair.1 pair.2) = args.map textEncode ∧
      ∀ pair ∈ pairs, ∃ b ∈ blocks, b.1 ≤ pair.1 ∧ pair.1 + pair.2 ≤ b.1 + b.2 := by
  induction args generalizing m live with
  | nil => exact ⟨[], m, [], rfl, start, fun _ _ _ _ _ => rfl, rfl, fun _ none => nomatch none⟩
  | cons arg rest ih =>
    obtain ⟨ptr, m₁, size, passed, bytes, used, allocated, kept⟩ :=
      passStringToWasm0_allocated spec keeps hasEncodeInto arg m start
    obtain ⟨pairs, m', blocks, ran, final, keptRest, reads, inside⟩ := ih m₁ allocated
    have own : m'.memory.read ptr m₁.wasmVectorLen = textEncode arg := by
      rw [read_of_keepsBlocks keptRest (List.mem_cons_self _ _) le_rfl (by simp only; omega),
        bytes]
    refine ⟨(ptr, m₁.wasmVectorLen) :: pairs, m', blocks ++ [(ptr, size)], ?_, ?_,
      kept.trans (keptRest.mono (List.subset_cons_of_subset _ (List.Subset.refl _))), ?_, ?_⟩
    · rw [passStringArgs, passed]
      simp only [ran, Except.map]
    · simpa using final
    · simp only [List.map_cons, reads, own]
    · intro pair member
      rcases List.mem_cons.mp member with rfl | later
      · exact ⟨(ptr, size), by simp, le_rfl, by simp only; omega⟩
      · obtain ⟨b, held, low, high⟩ := inside pair later
        exact ⟨b, List.mem_append_left _ held, low, high⟩

/-- Strings passed one after another to one wasm call, under any allocator that keeps its
blocks apart: when wasm is called, each `(ptrK, lenK)` holds the UTF-8 of `argK`, none of the
later passes having touched it, and the blocks that were live before are untouched. -/
theorem passStringArgs_intact (args : List JsString) (m : MemoryState) {live : List (Nat × Nat)}
    (start : inv m.memory live) :
    ∃ pairs m', passStringArgs hasEncodeInto malloc realloc args m = .ok (pairs, m') ∧
      pairs.map (fun pair => m'.memory.read pair.1 pair.2) = args.map textEncode ∧
      KeepsBlocks m.memory m'.memory live := by
  obtain ⟨pairs, m', -, ran, -, kept, reads, -⟩ :=
    passStringArgs_allocated spec keeps hasEncodeInto args m start
  exact ⟨pairs, m', ran, reads, kept⟩

end Pass

theorem passStringArgs_intact_two :
    ∃ pairs m', passStringArgs true bumpMalloc bumpRealloc
        [JsString.ofString "id", JsString.ofString "ü"] ⟨⟨fun _ => 0, 16⟩, none, 0⟩ =
          .ok (pairs, m') ∧
      pairs.map (fun pair => m'.memory.read pair.1 pair.2) =
        [JsString.ofString "id", JsString.ofString "ü"].map textEncode ∧
      KeepsBlocks (⟨fun _ => 0, 16⟩ : WasmMemory) m'.memory [(0, 16)] :=
  passStringArgs_intact bumpAllocatorSpec bumpRealloc_keeps true _ _
    (fun b member => by rcases List.mem_singleton.mp member with rfl; exact le_rfl)

end ShinkaiWasmGlue
