import ShinkaiWasmGlue.Session
import ShinkaiWasmGlue.StringImports

/-!
How the exported functions take their results back from wasm. A function whose result does not
fit one i32 lends wasm 16 bytes of wasm's own stack at `retptr`
(`__wbindgen_add_to_stack_pointer(-16)`, given back in the `finally` block), which wasm's stack
keeps a multiple of 16, and reads them back through `getInt32Memory0()`. The reads are signed, so
a pointer from 2 GiB up reads as negative; `__wrap` and `getStringFromWasm0` take it `>>> 0`.
Five endings recur across the wrapper classes, each after a different wasm export:
`Result<JsValue, JsValue>` (`if (r2) { throw takeObject(r1); } return takeObject(r0);`),
`Result<Wrapper, JsValue>` (the same with `return Wrapper.__wrap(r0);`), `Result<(), JsValue>`
(`if (r1) { throw takeObject(r0); }`, in two i32s), `String` (`getStringFromWasm0(r0, r1)`, the
block freed in `finally`), and `Result<String, JsValue>` (the same after
`if (r3) { throw takeObject(r2); }`). The wasm exports themselves are parameters, and what
they return lies inside wasm's memory, so `subarray` never cuts a block short. Every statement
holds from any state between calls (`Idle`), those of a `Session` or a `NestedSession` among them.
-/

namespace ShinkaiWasmGlue

/-! Signed reads of the return area. -/

/-- An i32 read through an `Int32Array`: its four bytes as a signed number. -/
def toInt32 (u : Nat) : Int := if u < 0x80000000 then u else (u : Int) - 0x100000000

/-- `x >>> 0`. -/
def toUint32 (x : Int) : Nat := (x % 0x100000000).toNat

/-- `getInt32Memory0()[retptr / 4 + index]`, `retptr` being a multiple of 4. -/
def WasmMemory.getInt32 (mem : WasmMemory) (retptr index : Nat) : Int :=
  toInt32 (mem.readUint32 (retptr + 4 * index))

theorem toUint32_toInt32 {u : Nat} (small : u < 0x100000000) : toUint32 (toInt32 u) = u := by
  unfold toUint32 toInt32
  split <;> omega

section Stores
variable (mem : WasmMemory) {retptr : Nat} (aligned : retptr % 4 = 0)
include aligned

end Stores

/-! Handles read back from wasm. -/

/-- `takeObject(r)` of an i32 `r` read back from wasm. A negative `r` names no slot of `heap`:
`getObject` gives undefined, and `dropObject` returns at once, `r` being below 132. -/
def takeObjectAt : Int → Glue → JsValue × Glue
  | .ofNat idx, g => takeObject idx g
  | .negSucc _, g => (.undefined, g)

@[simp] theorem takeObjectAt_natCast (idx : Nat) (g : Glue) :
    takeObjectAt idx g = takeObject idx g := rfl

theorem takeObjectAt_of_mem {g : Glue} {handles : Handles} (idle : Idle g handles)
    {idx : Nat} {v : JsValue} (entry : (idx, v) ∈ handles) :
    takeObjectAt idx g = (v, dropObject idx g) ∧ Idle (dropObject idx g) (handles.release idx) := by
  obtain ⟨free, rep⟩ := idle.represents
  exact ⟨by rw [takeObjectAt_natCast, takeObject, getObject, rep.stored _ entry],
    idle.drop (.inr (List.mem_map_of_mem Prod.fst entry))⟩

/-- What an exported function throws: the value of the handle wasm gave as its error, or an
exception of the glue itself. -/
inductive Thrown where
  | value (v : JsValue)
  | error (e : JsError)
  deriving DecidableEq, Repr

/-- The end of a function returning `Result<T, JsValue>` through three i32s:
`if (r2) { throw takeObject(r1); }`, and then what the function makes of `r0`. -/
def resultOrThrow {α : Type} (ok : Int → Glue → α × Glue) (retptr : Nat) (mem : WasmMemory)
    (g : Glue) : Except Thrown α × Glue :=
  if mem.getInt32 retptr 2 ≠ 0 then
    let (e, g) := takeObjectAt (mem.getInt32 retptr 1) g
    (.error (.value e), g)
  else
    let (v, g) := ok (mem.getInt32 retptr 0) g
    (.ok v, g)

/-- `return takeObject(r0);`: the methods and getters returning `Result<JsValue, JsValue>`. -/
def takeResult : Nat → WasmMemory → Glue → Except Thrown JsValue × Glue :=
  resultOrThrow takeObjectAt

/-- A wrapper object: `__wbg_ptr`, the address of its Rust value in wasm memory. -/
structure Wrapper where
  wbgPtr : Nat
  deriving DecidableEq, Repr

/-- `Wrapper.__wrap(ptr)`: `ptr = ptr >>> 0`, then a new object holding it. -/
def Wrapper.wrap (ptr : Int) : Wrapper := ⟨toUint32 ptr⟩

/-- A function returning `Result<JsValue, JsValue>` hands its caller the value of the handle wasm
selects, returned when the flag `r2` is zero (handle in `r0`) and thrown otherwise (handle in
`r1`), and releases that handle: the glue stays between calls. -/
theorem takeResult_of_idle {g : Glue} {handles : Handles} (idle : Idle g handles)
    (retptr : Nat) (mem : WasmMemory) {idx : Nat} {v : JsValue} (entry : (idx, v) ∈ handles)
    (returned : mem.getInt32 retptr 2 = 0 → mem.getInt32 retptr 0 = idx)
    (thrown : mem.getInt32 retptr 2 ≠ 0 → mem.getInt32 retptr 1 = idx) :
    (takeResult retptr mem g).1 =
        (if mem.getInt32 retptr 2 = 0 then .ok v else .error (.value v)) ∧
      Idle (takeResult retptr mem g).2 (handles.release idx) := by
  obtain ⟨taken, released⟩ := takeObjectAt_of_mem idle entry
  by_cases flag : mem.getInt32 retptr 2 = 0
  · have result : takeResult retptr mem g = (.ok v, dropObject idx g) := by
      rw [takeResult, resultOrThrow, if_neg (not_not_intro flag), returned flag, taken]
    rw [result, if_pos flag]
    exact ⟨rfl, released⟩
  · have result : takeResult retptr mem g = (.error (.value v), dropObject idx g) := by
      rw [takeResult, resultOrThrow, if_pos flag, thrown flag, taken]
    rw [result, if_neg flag]
    exact ⟨rfl, released⟩

theorem idle_first_handle :
    Idle ⟨initialHeap ++ [.object 0], .number 133, 128⟩ [(132, .object 0)] :=
  Idle.initial.add (by rw [addHeapObject_of_eq_length rfl]; simp [initial])

theorem takeResult_of_idle_first :
    (takeResult 16 ⟨fun i => if i = 16 then 132 else 0, 0⟩
        ⟨initialHeap ++ [.object 0], .number 133, 128⟩).1 =
        (if WasmMemory.getInt32 ⟨fun i => if i = 16 then 132 else 0, 0⟩ 16 2 = 0 then
          .ok (.object 0) else .error (.value (.object 0))) ∧
      Idle (takeResult 16 ⟨fun i => if i = 16 then 132 else 0, 0⟩
        ⟨initialHeap ++ [.object 0], .number 133, 128⟩).2
        (Handles.release [(132, .object 0)] 132) :=
  takeResult_of_idle idle_first_handle 16 _ (List.mem_singleton_self _)
    (fun _ => by decide) (fun flagged => absurd (by decide) flagged)

/-- The end of a method returning `Result<(), JsValue>` through two i32s:
`if (r1) { throw takeObject(r0); }`. -/
def unitOrThrow (retptr : Nat) (mem : WasmMemory) (g : Glue) : Except Thrown Unit × Glue :=
  if mem.getInt32 retptr 1 ≠ 0 then
    let (e, g) := takeObjectAt (mem.getInt32 retptr 0) g
    (.error (.value e), g)
  else (.ok (), g)

/-- A method returning `Result<(), JsValue>`, as the setters of `ShinkaiMessageBuilderWrapper`:
when wasm flags an error in `r1` with a live handle in `r0`, it throws that handle's value and
releases the handle; otherwise it returns and leaves the glue as it was. Either way the glue
stays between calls. -/
theorem unitOrThrow_of_idle {g : Glue} {handles : Handles} (idle : Idle g handles)
    (retptr : Nat) (mem : WasmMemory) {idx : Nat} {v : JsValue} (entry : (idx, v) ∈ handles)
    (thrown : mem.getInt32 retptr 1 ≠ 0 → mem.getInt32 retptr 0 = idx) :
    (mem.getInt32 retptr 1 ≠ 0 →
        unitOrThrow retptr mem g = (.error (.value v), dropObject idx g) ∧
        Idle (dropObject idx g) (handles.release idx)) ∧
      (mem.getInt32 retptr 1 = 0 → unitOrThrow retptr mem g = (.ok (), g)) := by
  refine ⟨fun flag => ?_, fun flag => by rw [unitOrThrow, if_neg (not_not_intro flag)]⟩
  obtain ⟨taken, released⟩ := takeObjectAt_of_mem idle entry
  exact ⟨by rw [unitOrThrow, if_pos flag, thrown flag, taken], released⟩

theorem unitOrThrow_of_idle_first :
    (WasmMemory.getInt32 ⟨fun i => if i = 16 then 132 else if i = 20 then 1 else 0, 0⟩ 16 1 ≠ 0 →
        unitOrThrow 16 ⟨fun i => if i = 16 then 132 else if i = 20 then 1 else 0, 0⟩
            ⟨initialHeap ++ [.object 0], .number 133, 128⟩ =
          (.error (.value (.object 0)),
            dropObject 132 ⟨initialHeap ++ [.object 0], .number 133, 128⟩) ∧
        Idle (dropObject 132 ⟨initialHeap ++ [.object 0], .number 133, 128⟩)
          (Handles.release [(132, .object 0)] 132)) ∧
      (WasmMemory.getInt32 ⟨fun i => if i = 16 then 132 else if i = 20 then 1 else 0, 0⟩ 16 1 = 0 →
        unitOrThrow 16 ⟨fun i => if i = 16 then 132 else if i = 20 then 1 else 0, 0⟩
            ⟨initialHeap ++ [.object 0], .number 133, 128⟩ =
          (.ok (), ⟨initialHeap ++ [.object 0], .number 133, 128⟩)) :=
  unitOrThrow_of_idle idle_first_handle 16 _ (List.mem_singleton_self _) (fun _ => by decide)

/-! Strings read back from wasm, and the block they came in. -/

/-- `wasm.__wbindgen_free(ptr, size, align)`, wasm's deallocator. -/
abbrev WbindgenFree := Int → Int → Nat → WasmMemory → WasmMemory

/-- `wasm.__wbindgen_free(deferred0, deferred1, 1)` in a `finally` block: the pointer and length
the function set before returning, or, when it threw first, undefined, which wasm receives as 0. -/
def freeDeferred (free : WbindgenFree) (deferred : Option (Int × Int)) (m : MemoryState) :
    MemoryState :=
  let (ptr, len) := deferred.getD (0, 0)
  { m with memory := free ptr len 1 m.memory }

/-- The end of a function returning `String`: `deferred0 = r0; deferred1 = r1;
return getStringFromWasm0(r0, r1);`, and the block freed in `finally`, also when the decoder
throws. A length from 2 GiB up reads as negative, and `subarray` would count the end of the
block from the end of the buffer, which the model's memory does not have: it reads no bytes
then. -/
def takeString (free : WbindgenFree) (retptr : Nat) (m : MemoryState) :
    Except Thrown JsString × MemoryState :=
  let r0 := m.memory.getInt32 retptr 0
  let r1 := m.memory.getInt32 retptr 1
  let (ret, m) := getStringFromWasm0 (toUint32 r0) r1.toNat m
  (ret.mapError .error, freeDeferred free (some (r0, r1)) m)

/-- The end of a function returning `Result<String, JsValue>`:
`if (r3) { ptr1 = 0; len1 = 0; throw takeObject(r2); }`, and otherwise as `takeString`. Nothing
is deferred when it throws. -/
def takeStringResult (free : WbindgenFree) (retptr : Nat) (g : Glue) (m : MemoryState) :
    Except Thrown JsString × Glue × MemoryState :=
  if m.memory.getInt32 retptr 3 ≠ 0 then
    let (e, g) := takeObjectAt (m.memory.getInt32 retptr 2) g
    (.error (.value e), g, freeDeferred free none m)
  else
    let (ret, m) := takeString free retptr m
    (ret, g, m)

/-- `convert_encryption_sk_string_to_encryption_pk_string(encryption_sk)`, with wasm's export of
that name as a parameter; wasm may call back into the glue, to make the error it returns. -/
def convertEncryptionSkStringToEncryptionPkString (hasEncodeInto : Bool) (malloc : Malloc)
    (realloc : Realloc)
    (wasmConvertEncryptionSkStringToEncryptionPkString :
      Nat → Nat → Nat → Glue → MemoryState → Glue × MemoryState)
    (free : WbindgenFree) (retptr : Nat) (encryptionSk : JsString) (g : Glue) (m : MemoryState) :
    Except Thrown JsString × Glue × MemoryState :=
  match passStringToWasm0 hasEncodeInto encryptionSk malloc (some realloc) m with
  | .error e => (.error (.error e), g, freeDeferred free none m)
  | .ok (ptr0, m) =>
    let (g, m) := wasmConvertEncryptionSkStringToEncryptionPkString retptr ptr0 m.wasmVectorLen g m
    takeStringResult free retptr g m

/-- A function returning `Result<String, JsValue>` with an error flagged in `r3` throws the value
of handle `r2`, releases that handle as any other, and frees nothing: wasm's deallocator gets 0 and
0, since nothing was deferred. -/
theorem takeStringResult_of_error {g : Glue} {handles : Handles} (idle : Idle g handles)
    (free : WbindgenFree) (retptr : Nat) {m : MemoryState}
    (flagged : m.memory.getInt32 retptr 3 ≠ 0) {idx : Nat} {v : JsValue}
    (entry : (idx, v) ∈ handles) (handle : m.memory.getInt32 retptr 2 = idx) :
    (takeStringResult free retptr g m).1 = .error (.value v) ∧
      Idle (takeStringResult free retptr g m).2.1 (handles.release idx) ∧
      (takeStringResult free retptr g m).2.2.memory = free 0 0 1 m.memory := by
  obtain ⟨taken, released⟩ := takeObjectAt_of_mem idle entry
  have result : takeStringResult free retptr g m =
      (.error (.value v), dropObject idx g, freeDeferred free none m) := by
    rw [takeStringResult, if_pos flagged, handle, taken]
  rw [result]
  exact ⟨rfl, released, rfl⟩

theorem takeStringResult_of_error_first :
    (takeStringResult (fun _ _ _ mem => mem) 16 ⟨initialHeap ++ [.object 0], .number 133, 128⟩
        ⟨⟨fun i => if i = 24 then 132 else if i = 28 then 1 else 0, 0⟩, none, 0⟩).1 =
        .error (.value (.object 0)) ∧
      Idle (takeStringResult (fun _ _ _ mem => mem) 16
        ⟨initialHeap ++ [.object 0], .number 133, 128⟩
        ⟨⟨fun i => if i = 24 then 132 else if i = 28 then 1 else 0, 0⟩, none, 0⟩).2.1
        (Handles.release [(132, .object 0)] 132) ∧
      (takeStringResult (fun _ _ _ mem => mem) 16 ⟨initialHeap ++ [.object 0], .number 133, 128⟩
        ⟨⟨fun i => if i = 24 then 132 else if i = 28 then 1 else 0, 0⟩, none, 0⟩).2.2.memory =
        (fun _ _ _ mem => mem : WbindgenFree) 0 0 1
          ⟨fun i => if i = 24 then 132 else if i = 28 then 1 else 0, 0⟩ :=
  takeStringResult_of_error idle_first_handle _ 16 (by decide) (List.mem_singleton_self _)
    (by decide)

theorem convertEncryptionSkStringToEncryptionPkString_eq (hasEncodeInto : Bool) (malloc : Malloc)
    {realloc : Realloc} (keeps : ReallocKeeps realloc)
    (wasmConvert : Nat → Nat → Nat → Glue → MemoryState → Glue × MemoryState) (free : WbindgenFree)
    (retptr : Nat) (encryptionSk : JsString) (g : Glue) (m : MemoryState) :
    ∃ ptr0 m₁, m₁.memory.read ptr0 m₁.wasmVectorLen = textEncode encryptionSk ∧
      convertEncryptionSkStringToEncryptionPkString hasEncodeInto malloc realloc wasmConvert free
          retptr encryptionSk g m =
        takeStringResult free retptr (wasmConvert retptr ptr0 m₁.wasmVectorLen g m₁).1
          (wasmConvert retptr ptr0 m₁.wasmVectorLen g m₁).2 := by
  obtain ⟨ptr0, m₁, passed, -, bytes, -⟩ :=
    passStringToWasm0_realloc hasEncodeInto encryptionSk malloc keeps m
  exact ⟨ptr0, m₁, bytes, by simp only [convertEncryptionSkStringToEncryptionPkString, passed]⟩

end ShinkaiWasmGlue
