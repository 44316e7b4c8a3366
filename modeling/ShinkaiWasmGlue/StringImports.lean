import ShinkaiWasmGlue.FreeList
import ShinkaiWasmGlue.PassString
import ShinkaiWasmGlue.DebugString

/-!
The imports through which strings cross between wasm and the JS heap. `__wbindgen_string_new`
decodes bytes wasm hands over and gives wasm a handle to the string. `__wbindgen_string_get` and
`__wbindgen_debug_string` go the other way: they pass a string with `passStringToWasm0` and write
its pointer and length to the two i32s of wasm's return slot at `arg0` (`string_get` writes a
null pointer for a value that is not a string, and then whatever `WASM_VECTOR_LEN` last held).
`getInt32Memory0` gives a view on the current buffer, little-endian as wasm memory is; an index
that is not a whole number, as `arg0 / 4` is when `arg0` is not a multiple of 4, sets nothing.
-/

namespace ShinkaiWasmGlue

/-- The four little-endian bytes of `value` as an i32. -/
def int32Bytes (value : Nat) : List UInt8 :=
  [(value % 0x100).toUInt8, (value / 0x100 % 0x100).toUInt8, (value / 0x10000 % 0x100).toUInt8,
    (value / 0x1000000 % 0x100).toUInt8]

/-- `getInt32Memory0()[arg0 / 4 + index] = value`. -/
def WasmMemory.setInt32 (mem : WasmMemory) (arg0 index value : Nat) : WasmMemory :=
  if arg0 % 4 = 0 then mem.storeBytes mem.buffer (4 * (arg0 / 4 + index)) (int32Bytes value)
  else mem

/-- The four bytes at `addr` as an unsigned little-endian number. -/
def WasmMemory.readUint32 (mem : WasmMemory) (addr : Nat) : Nat :=
  (mem.read addr 4).foldr (fun byte acc => byte.toNat + 0x100 * acc) 0

/-- `getInt32Memory0()[arg0 / 4 + 1] = len1;` then `getInt32Memory0()[arg0 / 4 + 0] = ptr1;`,
the tail of every import that returns a string to wasm. -/
def setReturnPair (arg0 ptr1 len1 : Nat) (m : MemoryState) : MemoryState :=
  { m with memory := (m.memory.setInt32 arg0 1 len1).setInt32 arg0 0 ptr1 }

/-- `__wbindgen_debug_string(arg0, arg1)`: the memory after it, or what it throws. -/
def wbindgenDebugString (realm : Realm) (stringify : Stringify) (frames : Nat)
    (hasEncodeInto : Bool) (malloc : Malloc) (realloc : Realloc) (g : Glue) (arg0 arg1 : Nat)
    (m : MemoryState) :
    Except JsError MemoryState := do
  let ret ← debugString realm stringify frames (getObject g arg1)
  let (ptr1, m) ← passStringToWasm0 hasEncodeInto ret malloc (some realloc) m
  pure (setReturnPair arg0 ptr1 m.wasmVectorLen m)

/-- `__wbindgen_string_get(arg0, arg1)`: the memory after it, or what it throws. -/
def wbindgenStringGet (hasEncodeInto : Bool) (malloc : Malloc) (realloc : Realloc) (g : Glue)
    (arg0 arg1 : Nat) (m : MemoryState) : Except JsError MemoryState := do
  let ret := match getObject g arg1 with
    | .string obj => some obj
    | _ => none
  let (ptr1, m) ← match ret with
    | none => pure (0, m)
    | some ret => passStringToWasm0 hasEncodeInto ret malloc (some realloc) m
  pure (setReturnPair arg0 ptr1 m.wasmVectorLen m)

/-- `__wbindgen_string_new(arg0, arg1)`: the handle `addHeapObject` gives the decoded string and
the heap after it, or the decoder's TypeError; and the memory state after `getStringFromWasm0`. -/
def wbindgenStringNew (arg0 arg1 : Nat) (g : Glue) (m : MemoryState) :
    Except JsError (Option (Nat × Glue)) × MemoryState :=
  let (ret, m) := getStringFromWasm0 arg0 arg1 m
  (ret.map fun ret => addHeapObject (.string ret) g, m)

section Int32
variable (mem : WasmMemory) {arg0 : Nat} (aligned : arg0 % 4 = 0)
include aligned

theorem WasmMemory.setInt32_of_aligned (index value : Nat) :
    mem.setInt32 arg0 index value =
      mem.storeBytes mem.buffer (arg0 + 4 * index) (int32Bytes value) := by
  rw [WasmMemory.setInt32, if_pos aligned]
  congr 1
  omega

theorem WasmMemory.readUint32_setInt32 (index value : Nat) :
    (mem.setInt32 arg0 index value).readUint32 (arg0 + 4 * index) = value % 0x100000000 := by
  rw [WasmMemory.readUint32, mem.setInt32_of_aligned aligned,
    show 4 = (int32Bytes value).length from rfl, mem.read_storeBytes rfl]
  simp only [int32Bytes, List.foldr, toUInt8_toNat (Nat.mod_lt _ (by decide : 0 < 0x100))]
  omega

theorem WasmMemory.setInt32_bytes_of_outside (index value : Nat) {i : Nat}
    (outside : i < arg0 + 4 * index ∨ arg0 + 4 * index + 4 ≤ i) :
    (mem.setInt32 arg0 index value).bytes i = mem.bytes i := by
  rw [mem.setInt32_of_aligned aligned]
  exact mem.storeBytes_bytes_of_outside _ _ outside

theorem WasmMemory.read_setInt32_of_apart (index value : Nat) {ptr len : Nat}
    (apart : ptr + len ≤ arg0 + 4 * index ∨ arg0 + 4 * index + 4 ≤ ptr) :
    (mem.setInt32 arg0 index value).read ptr len = mem.read ptr len :=
  WasmMemory.read_eq_of_bytes fun _ inside =>
    mem.setInt32_bytes_of_outside aligned index value (by omega)

end Int32

theorem setReturnPair_spec (m : MemoryState) {arg0 : Nat} (aligned : arg0 % 4 = 0)
    (ptr1 len1 : Nat) :
    (setReturnPair arg0 ptr1 len1 m).memory.readUint32 arg0 = ptr1 % 0x100000000 ∧
      (setReturnPair arg0 ptr1 len1 m).memory.readUint32 (arg0 + 4) = len1 % 0x100000000 ∧
      ∀ ptr len, arg0 + 8 ≤ ptr ∨ ptr + len ≤ arg0 →
        (setReturnPair arg0 ptr1 len1 m).memory.read ptr len = m.memory.read ptr len := by
  refine ⟨by simpa using WasmMemory.readUint32_setInt32 _ aligned 0 ptr1, ?_,
    fun ptr len apart => ?_⟩
  · rw [setReturnPair, WasmMemory.readUint32,
      WasmMemory.read_setInt32_of_apart _ aligned 0 ptr1 (by omega)]
    simpa using WasmMemory.readUint32_setInt32 m.memory aligned 1 len1
  · rw [setReturnPair, WasmMemory.read_setInt32_of_apart _ aligned 0 ptr1 (by omega),
      WasmMemory.read_setInt32_of_apart _ aligned 1 _ (by omega)]

theorem passStringToWasm0_returned (hasEncodeInto : Bool) (text : JsString) (malloc : Malloc)
    {realloc : Realloc} (keeps : ReallocKeeps realloc) {arg0 : Nat} (aligned : arg0 % 4 = 0)
    (m : MemoryState) :
    ∃ ptr m1, passStringToWasm0 hasEncodeInto text malloc (some realloc) m = .ok (ptr, m1) ∧
      (setReturnPair arg0 ptr m1.wasmVectorLen m1).memory.readUint32 arg0 = ptr % 0x100000000 ∧
      (setReturnPair arg0 ptr m1.wasmVectorLen m1).memory.readUint32 (arg0 + 4) =
        (textEncode text).length % 0x100000000 ∧
      (arg0 + 8 ≤ ptr ∨ ptr + (textEncode text).length ≤ arg0 →
        (setReturnPair arg0 ptr m1.wasmVectorLen m1).memory.read ptr (textEncode text).length =
          textEncode text) := by
  obtain ⟨ptr, m1, passed, len, bytes, -⟩ :=
    passStringToWasm0_realloc hasEncodeInto text malloc keeps m
  obtain ⟨pointer, length, apart⟩ := setReturnPair_spec m1 aligned ptr m1.wasmVectorLen
  exact ⟨ptr, m1, passed, pointer, len ▸ length, fun away => by rw [apart _ _ away, ← len, bytes]⟩

/-- When `debugString` prints the heap object `arg1`, wasm finds in its return slot the pointer
and the length of the text's UTF-8, and at that pointer the bytes, unless the slot overlaps them. -/
theorem wbindgenDebugString_returns (realm : Realm) (stringify : Stringify) (frames : Nat)
    (hasEncodeInto : Bool) (malloc : Malloc) {realloc : Realloc} (keeps : ReallocKeeps realloc)
    (g : Glue) {arg0 arg1 : Nat} (aligned : arg0 % 4 = 0) {text : JsString}
    (printed : debugString realm stringify frames (getObject g arg1) = .ok text) (m : MemoryState) :
    ∃ ptr m',
      wbindgenDebugString realm stringify frames hasEncodeInto malloc realloc g arg0 arg1 m =
        .ok m' ∧
      m'.memory.readUint32 arg0 = ptr % 0x100000000 ∧
      m'.memory.readUint32 (arg0 + 4) = (textEncode text).length % 0x100000000 ∧
      (arg0 + 8 ≤ ptr ∨ ptr + (textEncode text).length ≤ arg0 →
        m'.memory.read ptr (textEncode text).length = textEncode text) := by
  obtain ⟨ptr, m1, passed, returned⟩ :=
    passStringToWasm0_returned hasEncodeInto text malloc keeps aligned m
  exact ⟨ptr, _, by simp only [wbindgenDebugString, printed, passed, bind, Except.bind]; rfl,
    returned⟩

theorem wbindgenDebugString_returns_true :
    ReallocKeeps (fun ptr _ _ _ mem => (ptr, mem)) ∧ 8 % 4 = 0 ∧
    debugString (fun _ => .array []) (fun _ _ => .ok none) 1 (getObject initial 130) =
      .ok (JsString.ofString "true") ∧
    ∃ ptr m', wbindgenDebugString (fun _ => .array []) (fun _ _ => .ok none) 1 true
        (fun _ _ mem => (64, mem)) (fun ptr _ _ _ mem => (ptr, mem)) initial 8 130
        ⟨⟨fun _ => 0, 0⟩, none, 0⟩ = .ok m' ∧
      m'.memory.readUint32 8 = ptr % 0x100000000 ∧
      m'.memory.readUint32 (8 + 4) = (textEncode (JsString.ofString "true")).length % 0x100000000 ∧
      (8 + 8 ≤ ptr ∨ ptr + (textEncode (JsString.ofString "true")).length ≤ 8 →
        m'.memory.read ptr (textEncode (JsString.ofString "true")).length =
          textEncode (JsString.ofString "true")) :=
  have keeps : ReallocKeeps (fun ptr _ _ _ mem => (ptr, mem)) := fun _ _ _ _ _ _ _ _ => rfl
  have printed : debugString (fun _ => .array []) (fun _ _ => .ok none) 1 (getObject initial 130) =
      .ok (JsString.ofString "true") := rfl
  ⟨keeps, rfl, printed, wbindgenDebugString_returns _ _ _ _ _ keeps _ rfl printed _⟩

theorem wbindgenStringGet_of_string (hasEncodeInto : Bool) (malloc : Malloc) (realloc : Realloc)
    {g : Glue} {arg1 : Nat} {obj : JsString} (isString : getObject g arg1 = .string obj)
    (arg0 : Nat) (m : MemoryState) :
    wbindgenStringGet hasEncodeInto malloc realloc g arg0 arg1 m =
      (passStringToWasm0 hasEncodeInto obj malloc (some realloc) m).map
        fun passed => setReturnPair arg0 passed.1 passed.2.wasmVectorLen passed.2 := by
  simp only [wbindgenStringGet, isString]
  cases passStringToWasm0 hasEncodeInto obj malloc (some realloc) m <;> rfl

theorem wbindgenStringGet_of_not_string (hasEncodeInto : Bool) (malloc : Malloc) (realloc : Realloc)
    {g : Glue} {arg1 : Nat} (notString : ∀ obj, getObject g arg1 ≠ .string obj) (arg0 : Nat)
    (m : MemoryState) :
    wbindgenStringGet hasEncodeInto malloc realloc g arg0 arg1 m =
      .ok (setReturnPair arg0 0 m.wasmVectorLen m) := by
  cases value : getObject g arg1 with
  | string obj => exact absurd value (notString obj)
  | _ => simp [wbindgenStringGet, value]; rfl

/-- A string makes the trip from wasm to the JS heap and back byte for byte: from any reachable
heap, `__wbindgen_string_new` on the UTF-8 of a string without lone surrogates gives wasm a new
live handle to that string, and `__wbindgen_string_get` on the handle leaves in wasm's return
slot a pointer to the same bytes and their length. -/
theorem wbindgenStringNew_then_get {g : Glue} {handles : Handles} (reach : Reachable g handles)
    (hasEncodeInto : Bool) (malloc : Malloc) {realloc : Realloc} (keeps : ReallocKeeps realloc)
    {arg0 ptr len : Nat} (aligned : arg0 % 4 = 0) {m : MemoryState} {s : JsString}
    (utf8 : m.memory.read ptr len = textEncode s) (wellFormed : isWellFormed s = true) :
    ∃ idx g' m1, wbindgenStringNew ptr len g m = (.ok (some (idx, g')), m1) ∧
      Reachable g' ((idx, .string s) :: handles) ∧
      ∃ ptr' m2, wbindgenStringGet hasEncodeInto malloc realloc g' arg0 idx m1 = .ok m2 ∧
        m2.memory.readUint32 arg0 = ptr' % 0x100000000 ∧
        m2.memory.readUint32 (arg0 + 4) = len % 0x100000000 ∧
        (arg0 + 8 ≤ ptr' ∨ ptr' + len ≤ arg0 →
          m2.memory.read ptr' len = m.memory.read ptr len) := by
  have decoded : (getStringFromWasm0 ptr len m).1 = .ok s := by
    rw [getStringFromWasm0_fst, textDecode_eq_ok_iff]; exact ⟨utf8, wellFormed⟩
  have sized : (textEncode s).length = len := by
    rw [← utf8, WasmMemory.read, List.length_map, List.length_range']
  obtain ⟨free, rep⟩ := reach.represents
  obtain ⟨idx, g', free', added, rep'⟩ := rep.add (.string s)
  have stored : getObject g' idx = .string s := rep'.stored _ (List.mem_cons_self _ _)
  obtain ⟨ptr', m2, passed, pointer, length, apart⟩ :=
    passStringToWasm0_returned hasEncodeInto s malloc keeps aligned (getStringFromWasm0 ptr len m).2
  refine ⟨idx, g', (getStringFromWasm0 ptr len m).2, ?_, reach.add added, ptr',
    setReturnPair arg0 ptr' m2.wasmVectorLen m2, ?_, pointer, sized ▸ length,
    fun away => by rw [← sized, apart (sized ▸ away), sized, utf8]⟩
  · simp only [wbindgenStringNew]
    rw [decoded, Except.map, added]
  · rw [wbindgenStringGet_of_string _ _ _ stored, passed]; rfl

theorem wbindgenStringNew_then_get_letter :
    Reachable initial [] ∧ ReallocKeeps (fun ptr _ _ _ mem => (ptr, mem)) ∧ 8 % 4 = 0 ∧
    WasmMemory.read ⟨fun i => if i = 100 then 0x61 else 0, 0⟩ 100 1 = textEncode [0x61] ∧
    isWellFormed [0x61] = true ∧
    ∃ idx g' m1,
      wbindgenStringNew 100 1 initial ⟨⟨fun i => if i = 100 then 0x61 else 0, 0⟩, none, 0⟩ =
        (.ok (some (idx, g')), m1) ∧
      Reachable g' [(idx, .string [0x61])] ∧
      ∃ ptr' m2, wbindgenStringGet true (fun _ _ mem => (64, mem))
          (fun ptr _ _ _ mem => (ptr, mem)) g' 8 idx m1 = .ok m2 ∧
        m2.memory.readUint32 8 = ptr' % 0x100000000 ∧
        m2.memory.readUint32 (8 + 4) = 1 % 0x100000000 ∧
        (8 + 8 ≤ ptr' ∨ ptr' + 1 ≤ 8 →
          m2.memory.read ptr' 1 =
            WasmMemory.read ⟨fun i => if i = 100 then 0x61 else 0, 0⟩ 100 1) :=
  have keeps : ReallocKeeps (fun ptr _ _ _ mem => (ptr, mem)) := fun _ _ _ _ _ _ _ _ => rfl
  have utf8 : WasmMemory.read ⟨fun i => if i = 100 then 0x61 else 0, 0⟩ 100 1 =
      textEncode [0x61] := rfl
  ⟨.initial, keeps, rfl, utf8, rfl, wbindgenStringNew_then_get .initial true _ keeps rfl utf8 rfl⟩

end ShinkaiWasmGlue
