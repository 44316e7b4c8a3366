import ShinkaiWasmGlue.Utf8

/-!
Strings across the boundary. `passStringToWasm0` asks wasm's allocator for a block, writes the
string's UTF-8 bytes there through a `Uint8Array` view of wasm memory, and leaves their number in
`WASM_VECTOR_LEN`; `getStringFromWasm0` decodes such bytes back. `malloc` and `realloc` are
wasm's exports and may grow the memory, which replaces the `ArrayBuffer` behind it and detaches
every view made on the old one: a store through a detached view is lost, and `set` on it throws.
`getUint8Memory0` makes a new view when the cached one is detached (its `byteLength` is then 0).
Memory has no end here: the allocator's blocks are taken to lie inside it.
-/

namespace ShinkaiWasmGlue

/-- Wasm linear memory: its bytes, and the `ArrayBuffer` that currently backs it. -/
structure WasmMemory where
  bytes : Nat → UInt8
  buffer : Nat

/-- `view[addr] = byte` through a view on `buffer`. -/
def WasmMemory.store (mem : WasmMemory) (buffer addr : Nat) (byte : UInt8) : WasmMemory :=
  if buffer = mem.buffer then { mem with bytes := fun i => if i = addr then byte else mem.bytes i }
  else mem

/-- Consecutive stores through a view on `buffer`, from `addr` on. -/
def WasmMemory.storeBytes (mem : WasmMemory) (buffer : Nat) : Nat → List UInt8 → WasmMemory
  | _, [] => mem
  | addr, byte :: rest => (mem.store buffer addr byte).storeBytes buffer (addr + 1) rest

/-- The `len` bytes from `ptr` on. -/
def WasmMemory.read (mem : WasmMemory) (ptr len : Nat) : List UInt8 :=
  (List.range' ptr len).map mem.bytes

section Stores
variable (mem : WasmMemory) (buffer : Nat)

@[simp] theorem WasmMemory.store_buffer (addr : Nat) (byte : UInt8) :
    (mem.store buffer addr byte).buffer = mem.buffer := by
  unfold WasmMemory.store; split <;> rfl

theorem WasmMemory.store_bytes_of_ne {addr i : Nat} (byte : UInt8) (apart : i ≠ addr) :
    (mem.store buffer addr byte).bytes i = mem.bytes i := by
  unfold WasmMemory.store; split <;> simp [apart]

@[simp] theorem WasmMemory.storeBytes_buffer (addr : Nat) (bytes : List UInt8) :
    (mem.storeBytes buffer addr bytes).buffer = mem.buffer := by
  induction bytes generalizing mem addr with
  | nil => rfl
  | cons byte rest ih => simp [WasmMemory.storeBytes, ih]

theorem WasmMemory.storeBytes_bytes_of_outside {addr i : Nat} (bytes : List UInt8)
    (outside : i < addr ∨ addr + bytes.length ≤ i) :
    (mem.storeBytes buffer addr bytes).bytes i = mem.bytes i := by
  induction bytes generalizing mem addr with
  | nil => rfl
  | cons byte rest ih =>
    simp only [List.length_cons] at outside
    rw [WasmMemory.storeBytes, ih _ (by omega), WasmMemory.store_bytes_of_ne _ _ _ (by omega)]

theorem WasmMemory.bytes_storeBytes {addr : Nat} (current : buffer = mem.buffer)
    (bytes : List UInt8) {j : Nat} (inside : j < bytes.length) :
    (mem.storeBytes buffer addr bytes).bytes (addr + j) = bytes[j] := by
  induction bytes generalizing mem addr j with
  | nil => simp at inside
  | cons byte rest ih =>
    rw [WasmMemory.storeBytes]
    cases j with
    | zero =>
      rw [WasmMemory.storeBytes_bytes_of_outside _ _ _ (by omega)]
      simp [WasmMemory.store, current]
    | succ j =>
      rw [show addr + (j + 1) = addr + 1 + j by omega, ih _ (by simpa using current)]
      rfl

end Stores

theorem WasmMemory.read_eq_of_bytes {mem mem' : WasmMemory} {ptr ptr' len : Nat}
    (same : ∀ j < len, mem.bytes (ptr + j) = mem'.bytes (ptr' + j)) :
    mem.read ptr len = mem'.read ptr' len := by
  simp only [WasmMemory.read]
  apply List.ext_getElem (by simp)
  intro j first _
  simp only [List.getElem_map, List.getElem_range', Nat.one_mul]
  exact same j (by simpa using first)

theorem WasmMemory.read_storeBytes (mem : WasmMemory) {buffer : Nat} (current : buffer = mem.buffer)
    (addr : Nat) (bytes : List UInt8) :
    (mem.storeBytes buffer addr bytes).read addr bytes.length = bytes := by
  apply List.ext_getElem (by simp [WasmMemory.read])
  intro j inside _
  simp only [WasmMemory.read, List.getElem_map, List.getElem_range', Nat.one_mul]
  exact WasmMemory.bytes_storeBytes mem buffer current bytes
    (by simpa [WasmMemory.read] using inside)

theorem WasmMemory.read_add (mem : WasmMemory) (ptr front back : Nat) :
    mem.read ptr (front + back) = mem.read ptr front ++ mem.read (ptr + front) back := by
  have whole := List.range'_append ptr front back 1
  simp only [Nat.one_mul] at whole
  simp only [WasmMemory.read, ← List.map_append, whole, Nat.add_comm front back]

/-- A `Uint8Array` on `buffer`, from byte `start` on, `length` bytes long. -/
structure Uint8View where
  buffer : Nat
  start : Nat
  length : Nat

/-- `view.set(src)`. -/
def Uint8View.set (view : Uint8View) (src : List UInt8) (mem : WasmMemory) :
    Except JsError WasmMemory :=
  if view.buffer ≠ mem.buffer then .error .typeError
  else if view.length < src.length then .error .rangeError
  else .ok (mem.storeBytes view.buffer view.start src)

/-- The glue's side of string passing: wasm memory, `cachedUint8Memory0` (the buffer its view is
on, or null) and `WASM_VECTOR_LEN`. -/
structure MemoryState where
  memory : WasmMemory
  cachedUint8Memory0 : Option Nat
  wasmVectorLen : Nat

/-- `getUint8Memory0()`, as the buffer of the view it returns: the cached view unless it is
missing or detached. -/
def getUint8Memory0 (m : MemoryState) : Nat × MemoryState :=
  if m.cachedUint8Memory0 = some m.memory.buffer then (m.memory.buffer, m)
  else (m.memory.buffer, { m with cachedUint8Memory0 := some m.memory.buffer })

/-- `wasm.__wbindgen_malloc(size, align)`, its result taken `>>> 0`. -/
abbrev Malloc := Nat → Nat → WasmMemory → Nat × WasmMemory

/-- `wasm.__wbindgen_realloc(ptr, oldSize, newSize, align)`, its result taken `>>> 0`. -/
abbrev Realloc := Nat → Nat → Nat → Nat → WasmMemory → Nat × WasmMemory

/-- A `realloc` that keeps the old block's bytes at the start of the new one. -/
def ReallocKeeps (realloc : Realloc) : Prop :=
  ∀ ptr oldSize newSize align mem, oldSize ≤ newSize → ∀ i < oldSize,
    (realloc ptr oldSize newSize align mem).2.bytes
        ((realloc ptr oldSize newSize align mem).1 + i) =
      mem.bytes (ptr + i)

/-- `encodeString(arg, view)`: `encodeInto` where the platform has it, else `encode` then
`view.set`; `{ read, written }` and the memory after. -/
def encodeString (hasEncodeInto : Bool) (arg : JsString) (view : Uint8View) (mem : WasmMemory) :
    Except JsError ((Nat × Nat) × WasmMemory) :=
  if hasEncodeInto then
    let result := encodeInto arg (if view.buffer = mem.buffer then view.length else 0)
    .ok ((result.1, result.2.length), mem.storeBytes view.buffer view.start result.2)
  else
    let buf := textEncode arg
    (view.set buf mem).map fun mem => ((arg.length, buf.length), mem)

/-- The loop `for (; offset < len; offset++)` of `passStringToWasm0`: copy code units to
`ptr + offset` through a view on `buffer` while they are ASCII; the offset it stops at. -/
def asciiLoop (buffer ptr : Nat) : JsString → Nat → WasmMemory → Nat × WasmMemory
  | [], offset, mem => (offset, mem)
  | code :: rest, offset, mem =>
    if code.toNat > 0x7F then (offset, mem)
    else asciiLoop buffer ptr rest (offset + 1) (mem.store buffer (ptr + offset) code.toNat.toUInt8)

/-- `passStringToWasm0(arg, malloc, realloc)`: the pointer it returns and the state after. -/
def passStringToWasm0 (hasEncodeInto : Bool) (arg : JsString) (malloc : Malloc) :
    Option Realloc → MemoryState → Except JsError (Nat × MemoryState)
  | none, m =>
    let buf := textEncode arg
    let (ptr, mem) := malloc buf.length 1 m.memory
    let (view, m) := getUint8Memory0 { m with memory := mem }
    (Uint8View.set ⟨view, ptr, buf.length⟩ buf m.memory).map fun mem =>
      (ptr, { m with memory := mem, wasmVectorLen := buf.length })
  | some realloc, m =>
    let len := arg.length
    let (ptr, mem) := malloc len 1 m.memory
    let (view, m) := getUint8Memory0 { m with memory := mem }
    let (offset, mem) := asciiLoop view ptr arg 0 m.memory
    if offset ≠ len then
      let rest := if offset ≠ 0 then arg.drop offset else arg
      let newLen := offset + rest.length * 3
      let (ptr, mem) := realloc ptr len newLen 1 mem
      let (view, m) := getUint8Memory0 { m with memory := mem }
      (encodeString hasEncodeInto rest ⟨view, ptr + offset, newLen - offset⟩ m.memory).map
        fun result => (ptr, { m with memory := result.2, wasmVectorLen := offset + result.1.2 })
    else .ok (ptr, { m with memory := mem, wasmVectorLen := offset })

/-- `getStringFromWasm0(ptr, len)`: the string, or the TypeError of the fatal decoder. -/
def getStringFromWasm0 (ptr len : Nat) (m : MemoryState) : Except JsError JsString × MemoryState :=
  let (_, m) := getUint8Memory0 m
  (textDecode (m.memory.read ptr len), m)

/-- The ASCII code units a string starts with. -/
def asciiPrefix (s : JsString) : JsString := s.takeWhile fun code => code.toNat ≤ 0x7F

theorem getUint8Memory0_eq (m : MemoryState) :
    getUint8Memory0 m =
      (m.memory.buffer, { m with cachedUint8Memory0 := some m.memory.buffer }) := by
  unfold getUint8Memory0
  split
  · rename_i cached; rw [← cached]
  · rfl

theorem asciiLoop_eq {buffer : Nat} (ptr : Nat) (s : JsString) (offset : Nat) {mem : WasmMemory}
    (current : buffer = mem.buffer) :
    asciiLoop buffer ptr s offset mem = (offset + (asciiPrefix s).length,
      mem.storeBytes buffer (ptr + offset)
        ((asciiPrefix s).map fun code => code.toNat.toUInt8)) := by
  induction s generalizing offset mem with
  | nil => rfl
  | cons code rest ih =>
    by_cases ascii : code.toNat ≤ 0x7F
    · rw [asciiLoop, if_neg (by omega), ih _ (by simpa using current)]
      simp only [asciiPrefix, List.takeWhile_cons, ascii, decide_True, ite_true, List.length_cons,
        List.map_cons, WasmMemory.storeBytes]
      exact Prod.ext (by simp only; omega) (by rw [Nat.add_assoc ptr])
    · rw [asciiLoop, if_pos (by omega)]
      simp [asciiPrefix, List.takeWhile_cons, ascii, WasmMemory.storeBytes]

theorem mem_asciiPrefix {s : JsString} {code : UInt16} (mem : code ∈ asciiPrefix s) :
    code.toNat < 0x80 := by
  have := List.mem_takeWhile_imp mem
  simp at this; omega

theorem asciiPrefix_append_drop (s : JsString) :
    asciiPrefix s ++ s.drop (asciiPrefix s).length = s := by
  induction s with
  | nil => rfl
  | cons code rest ih =>
    by_cases ascii : code.toNat ≤ 0x7F <;> simp [asciiPrefix, List.takeWhile_cons, ascii] at ih ⊢
    exact ih

theorem textEncode_append_of_ascii {front : JsString} (ascii : ∀ code ∈ front, code.toNat < 0x80)
    (back : JsString) :
    textEncode (front ++ back) = front.map (fun code => code.toNat.toUInt8) ++ textEncode back := by
  induction front with
  | nil => rfl
  | cons code front ih =>
    rw [List.cons_append, textEncode_cons_of_ascii (ascii code (by simp)),
      ih fun u mem => ascii u (by simp [mem])]
    rfl

theorem textEncode_eq_asciiPrefix (s : JsString) :
    textEncode s = (asciiPrefix s).map (fun code => code.toNat.toUInt8) ++
      textEncode (s.drop (asciiPrefix s).length) := by
  conv_lhs => rw [← asciiPrefix_append_drop s]
  exact textEncode_append_of_ascii (fun _ => mem_asciiPrefix) _

theorem encodeString_of_fits (hasEncodeInto : Bool) (arg : JsString) {view : Uint8View}
    {mem : WasmMemory} (current : view.buffer = mem.buffer)
    (fits : (textEncode arg).length ≤ view.length) :
    encodeString hasEncodeInto arg view mem = .ok ((arg.length, (textEncode arg).length),
      mem.storeBytes view.buffer view.start (textEncode arg)) := by
  cases hasEncodeInto with
  | true => simp [encodeString, current, encodeInto_of_fits arg fits]
  | false =>
    have room : ¬view.length < (textEncode arg).length := by omega
    simp [encodeString, Uint8View.set, current, room, Except.map]

theorem WasmMemory.read_storeBytes_after {mem mem' : WasmMemory} {ptr ptr' len : Nat}
    (kept : ∀ j < len, mem'.bytes (ptr' + j) = mem.bytes (ptr + j)) (back : List UInt8) :
    (mem'.storeBytes mem'.buffer (ptr' + len) back).read ptr' (len + back.length) =
      mem.read ptr len ++ back := by
  rw [WasmMemory.read_add, mem'.read_storeBytes rfl]
  congr 1
  apply WasmMemory.read_eq_of_bytes
  intro j inside
  rw [mem'.storeBytes_bytes_of_outside _ _ (.inl (by omega))]
  exact kept j inside

/-- `after` is `before` with at most the bytes of `[lo, hi)` changed, on the same buffer. -/
def StoresWithin (before after : WasmMemory) (lo hi : Nat) : Prop :=
  after.buffer = before.buffer ∧ ∀ i, (i < lo ∨ hi ≤ i) → after.bytes i = before.bytes i

theorem storesWithin_storeBytes (mem : WasmMemory) (buffer addr : Nat) (bytes : List UInt8)
    {lo hi : Nat} (above : lo ≤ addr) (fits : addr + bytes.length ≤ hi) :
    StoresWithin mem (mem.storeBytes buffer addr bytes) lo hi :=
  ⟨mem.storeBytes_buffer buffer addr bytes,
    fun _ outside => mem.storeBytes_bytes_of_outside buffer bytes (by omega)⟩

/-- Where `passStringToWasm0` with `realloc` stores, `used` bytes of the last block holding the
result: inside the `malloc` block of `arg.length` bytes; and once it has asked `realloc` for
`size` bytes, on the memory `moved` it handed over, inside the new block. -/
def StoresInBlocks (malloc : Malloc) (realloc : Realloc) (arg : JsString) (m : MemoryState)
    (ptr used : Nat) (final : WasmMemory) : Prop :=
  let block := malloc arg.length 1 m.memory
  (ptr = block.1 ∧ used ≤ arg.length ∧ StoresWithin block.2 final ptr (ptr + arg.length)) ∨
  ∃ moved size, StoresWithin block.2 moved block.1 (block.1 + arg.length) ∧
    ptr = (realloc block.1 arg.length size 1 moved).1 ∧ used ≤ size ∧
    StoresWithin (realloc block.1 arg.length size 1 moved).2 final ptr (ptr + size)

theorem passStringToWasm0_realloc (hasEncodeInto : Bool) (arg : JsString) (malloc : Malloc)
    {realloc : Realloc} (keeps : ReallocKeeps realloc) (m : MemoryState) :
    ∃ ptr m', passStringToWasm0 hasEncodeInto arg malloc (some realloc) m = .ok (ptr, m') ∧
      m'.wasmVectorLen = (textEncode arg).length ∧
      m'.memory.read ptr m'.wasmVectorLen = textEncode arg ∧
      StoresInBlocks malloc realloc arg m ptr m'.wasmVectorLen m'.memory := by
  have encoded := textEncode_eq_asciiPrefix arg
  have prefixLe : (asciiPrefix arg).length ≤ arg.length := (List.takeWhile_prefix _).length_le
  simp only [StoresInBlocks, passStringToWasm0, getUint8Memory0_eq]
  generalize malloc arg.length 1 m.memory = block
  obtain ⟨p0, mem1⟩ := block
  simp only [asciiLoop_eq p0 arg 0 rfl, Nat.zero_add, Nat.add_zero]
  have restEq : (if (asciiPrefix arg).length ≠ 0 then arg.drop (asciiPrefix arg).length else arg) =
      arg.drop (asciiPrefix arg).length := by split <;> simp_all
  rw [restEq]
  set pre := asciiPrefix arg
  set rest := arg.drop pre.length
  set mem2 := mem1.storeBytes mem1.buffer p0 (pre.map fun code => code.toNat.toUInt8)
  have asciiRead : mem2.read p0 pre.length = pre.map fun code => code.toNat.toUInt8 := by
    simpa using mem1.read_storeBytes rfl p0 (pre.map fun code => code.toNat.toUInt8)
  have asciiWithin : StoresWithin mem1 mem2 p0 (p0 + arg.length) :=
    storesWithin_storeBytes _ _ _ _ le_rfl (by simpa using prefixLe)
  split
  · rename_i stopped
    have restLen : rest.length = arg.length - pre.length := List.length_drop _ _
    have grow : arg.length ≤ pre.length + rest.length * 3 := by omega
    have kept := keeps p0 _ _ 1 mem2 grow
    generalize moving : realloc p0 _ _ 1 mem2 = moved at kept ⊢
    obtain ⟨p1, mem3⟩ := moved
    have fits : (textEncode rest).length ≤ pre.length + rest.length * 3 - pre.length := by
      have := length_textEncode_le rest; omega
    rw [encodeString_of_fits hasEncodeInto rest rfl fits]
    dsimp only
    have restWithin : StoresWithin mem3
        (mem3.storeBytes mem3.buffer (p1 + pre.length) (textEncode rest))
        p1 (p1 + (pre.length + rest.length * 3)) :=
      storesWithin_storeBytes _ _ _ _ (by omega) (by omega)
    refine ⟨p1, _, rfl, by simp [encoded], ?_, .inr ⟨mem2, _, asciiWithin, by rw [moving],
      show pre.length + (textEncode rest).length ≤ _ by omega, by rw [moving]; exact restWithin⟩⟩
    rw [WasmMemory.read_storeBytes_after (fun j inside => kept j (by omega)), asciiRead, encoded]
  · rename_i whole
    have rest_nil : rest = [] := List.drop_of_length_le (by omega)
    rw [rest_nil] at encoded
    refine ⟨p0, _, rfl, by simp [encoded], by simpa [encoded] using asciiRead,
      .inl ⟨rfl, prefixLe, asciiWithin⟩⟩

theorem passStringToWasm0_none (hasEncodeInto : Bool) (arg : JsString) (malloc : Malloc)
    (m : MemoryState) :
    ∃ ptr m', passStringToWasm0 hasEncodeInto arg malloc none m = .ok (ptr, m') ∧
      m'.wasmVectorLen = (textEncode arg).length ∧
      m'.memory.read ptr m'.wasmVectorLen = textEncode arg := by
  simp only [passStringToWasm0, getUint8Memory0_eq]
  generalize malloc _ 1 m.memory = block
  obtain ⟨p0, mem1⟩ := block
  simp only [Uint8View.set, ne_eq, not_true_eq_false, if_false, lt_irrefl]
  exact ⟨p0, _, rfl, rfl, mem1.read_storeBytes rfl p0 _⟩

theorem getStringFromWasm0_fst (ptr len : Nat) (m : MemoryState) :
    (getStringFromWasm0 ptr len m).1 = textDecode (m.memory.read ptr len) := by
  simp [getStringFromWasm0, getUint8Memory0_eq]

/-- `getStringFromWasm0` returns a string exactly when the bytes are that string's UTF-8 and the
string has no lone surrogate; otherwise it throws. -/
theorem getStringFromWasm0_eq_ok_iff (ptr len : Nat) (m : MemoryState) (s : JsString) :
    (getStringFromWasm0 ptr len m).1 = .ok s ↔
      m.memory.read ptr len = textEncode s ∧ isWellFormed s = true := by
  rw [getStringFromWasm0_fst, textDecode_eq_ok_iff]

/-- For every string, lone surrogates included, `passStringToWasm0` with `realloc` leaves the
string's UTF-8 in `WASM_VECTOR_LEN` bytes at the pointer it returns, storing nowhere but in the
blocks the allocator handed out; the branch without `realloc` leaves the same bytes; and a
string without lone surrogates decodes back from them. -/
theorem passStringToWasm0_utf8 (hasEncodeInto : Bool) (arg : JsString) (malloc : Malloc)
    {realloc : Realloc} (keeps : ReallocKeeps realloc) (m : MemoryState) :
    ∃ ptr m', passStringToWasm0 hasEncodeInto arg malloc (some realloc) m = .ok (ptr, m') ∧
      m'.wasmVectorLen = (textEncode arg).length ∧
      m'.memory.read ptr m'.wasmVectorLen = textEncode arg ∧
      StoresInBlocks malloc realloc arg m ptr m'.wasmVectorLen m'.memory ∧
      (∃ ptr' m'', passStringToWasm0 hasEncodeInto arg malloc none m = .ok (ptr', m'') ∧
        m''.wasmVectorLen = m'.wasmVectorLen ∧
        m''.memory.read ptr' m''.wasmVectorLen = m'.memory.read ptr m'.wasmVectorLen) ∧
      (isWellFormed arg = true → (getStringFromWasm0 ptr m'.wasmVectorLen m').1 = .ok arg) := by
  obtain ⟨ptr, m', passed, len, bytes, within⟩ :=
    passStringToWasm0_realloc hasEncodeInto arg malloc keeps m
  obtain ⟨ptr', m'', passed', len', bytes'⟩ := passStringToWasm0_none hasEncodeInto arg malloc m
  refine ⟨ptr, m', passed, len, bytes, within,
    ⟨ptr', m'', passed', by omega, by rw [bytes', bytes]⟩, fun wellFormed => ?_⟩
  rw [getStringFromWasm0_fst, bytes, textDecode_textEncode wellFormed]

theorem passStringToWasm0_utf8_growing :
    ReallocKeeps (fun ptr _ _ _ mem => (ptr, { mem with buffer := mem.buffer + 1 })) ∧
    ∃ ptr m', passStringToWasm0 false (JsString.ofString "ü") (fun _ _ mem => (16, mem))
        (some fun ptr _ _ _ mem => (ptr, { mem with buffer := mem.buffer + 1 }))
        ⟨⟨fun _ => 0, 0⟩, none, 0⟩ = .ok (ptr, m') ∧
      m'.wasmVectorLen = (textEncode (JsString.ofString "ü")).length ∧
      m'.memory.read ptr m'.wasmVectorLen = textEncode (JsString.ofString "ü") ∧
      StoresInBlocks (fun _ _ mem => (16, mem))
        (fun ptr _ _ _ mem => (ptr, { mem with buffer := mem.buffer + 1 }))
        (JsString.ofString "ü") ⟨⟨fun _ => 0, 0⟩, none, 0⟩ ptr m'.wasmVectorLen m'.memory ∧
      (∃ ptr' m'', passStringToWasm0 false (JsString.ofString "ü") (fun _ _ mem => (16, mem)) none
          ⟨⟨fun _ => 0, 0⟩, none, 0⟩ = .ok (ptr', m'') ∧
        m''.wasmVectorLen = m'.wasmVectorLen ∧
        m''.memory.read ptr' m''.wasmVectorLen = m'.memory.read ptr m'.wasmVectorLen) ∧
      (isWellFormed (JsString.ofString "ü") = true →
        (getStringFromWasm0 ptr m'.wasmVectorLen m').1 = .ok (JsString.ofString "ü")) :=
  have keeps : ReallocKeeps (fun ptr _ _ _ mem => (ptr, { mem with buffer := mem.buffer + 1 })) :=
    fun _ _ _ _ _ _ _ _ => rfl
  ⟨keeps, passStringToWasm0_utf8 false _ _ keeps _⟩

/-- A string passed to wasm and read back comes back with each lone surrogate replaced by
U+FFFD; it comes back unchanged exactly when it has none. -/
theorem passStringToWasm0_round_trip (hasEncodeInto : Bool) (arg : JsString) (malloc : Malloc)
    {realloc : Realloc} (keeps : ReallocKeeps realloc) (m : MemoryState) :
    ∃ ptr m', passStringToWasm0 hasEncodeInto arg malloc (some realloc) m = .ok (ptr, m') ∧
      (getStringFromWasm0 ptr m'.wasmVectorLen m').1 = .ok (ofScalarValues (toScalarValues arg)) ∧
      ((getStringFromWasm0 ptr m'.wasmVectorLen m').1 = .ok arg ↔ isWellFormed arg = true) := by
  obtain ⟨ptr, m', passed, -, bytes, -⟩ :=
    passStringToWasm0_realloc hasEncodeInto arg malloc keeps m
  refine ⟨ptr, m', passed, ?_, ?_⟩
  · rw [getStringFromWasm0_fst, textDecode_eq_ok_iff, bytes]
    exact ⟨by rw [textEncode, textEncode, toScalarValues_ofScalarValues],
      isWellFormed_ofScalarValues _⟩
  · rw [getStringFromWasm0_fst, textDecode_eq_ok_iff, bytes]
    exact ⟨And.right, fun wellFormed => ⟨rfl, wellFormed⟩⟩

theorem passStringToWasm0_round_trip_lone :
    ReallocKeeps (fun ptr _ _ _ mem => (ptr, { mem with buffer := mem.buffer + 1 })) ∧
    ∃ ptr m', passStringToWasm0 true [0xD800] (fun _ _ mem => (16, mem))
        (some fun ptr _ _ _ mem => (ptr, { mem with buffer := mem.buffer + 1 }))
        ⟨⟨fun _ => 0, 0⟩, none, 0⟩ = .ok (ptr, m') ∧
      (getStringFromWasm0 ptr m'.wasmVectorLen m').1 =
        .ok (ofScalarValues (toScalarValues [0xD800])) ∧
      ((getStringFromWasm0 ptr m'.wasmVectorLen m').1 = .ok [0xD800] ↔
        isWellFormed [0xD800] = true) :=
  have keeps : ReallocKeeps (fun ptr _ _ _ mem => (ptr, { mem with buffer := mem.buffer + 1 })) :=
    fun _ _ _ _ _ _ _ _ => rfl
  ⟨keeps, passStringToWasm0_round_trip true _ _ keeps _⟩

end ShinkaiWasmGlue
