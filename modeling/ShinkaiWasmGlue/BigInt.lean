import ShinkaiWasmGlue.Exports

/-!
64-bit integers across the boundary. wasm passes a `u64` to JS as an `i64`, which JS receives
as a signed `BigInt`; `__wbindgen_bigint_from_u64` takes it `BigInt.asUintN(64, arg0)` and
hands wasm a handle to it. `__wbindgen_bigint_get_as_i64` goes back: it stores a `BigInt` heap
value through a `BigInt64Array`, which keeps it modulo 2^64, in the second 8-byte word of
wasm's return slot at `arg0`, and in the first i32 whether the value was a `BigInt` at all.
A `u64` taken to JS and back arrives whole, and JS sees it as the non-negative number it is,
also from 2^63 up where its `i64` reading is negative.
-/

namespace ShinkaiWasmGlue

/-- An `i64` as JS receives it: the signed reading of the 64 bits `u`. -/
def toInt64 (u : Nat) : Int :=
  if u < 0x8000000000000000 then u else (u : Int) - 0x10000000000000000

/-- `BigInt.asUintN(64, n)`. -/
def asUintN64 (n : Int) : Int := n % 0x10000000000000000

/-- The `k` little-endian bytes of `v`. -/
def leBytes : Nat → Nat → List UInt8
  | 0, _ => []
  | k + 1, v => (v % 0x100).toUInt8 :: leBytes k (v / 0x100)

/-- The little-endian number that bytes read as. -/
def leValue (bytes : List UInt8) : Nat := bytes.foldr (fun byte acc => byte.toNat + 0x100 * acc) 0

/-- `getBigInt64Memory0()[arg0 / 8 + index] = value`: the eight bytes of `value` modulo 2^64;
an index that is not a whole number sets nothing. -/
def WasmMemory.setBigInt64 (mem : WasmMemory) (arg0 index : Nat) (value : Int) : WasmMemory :=
  if arg0 % 8 = 0 then
    mem.storeBytes mem.buffer (8 * (arg0 / 8 + index))
      (leBytes 8 (value % 0x10000000000000000).toNat)
  else mem

/-- The eight bytes at `addr`, as wasm's `i64.load` sees their bits. -/
def WasmMemory.readUint64 (mem : WasmMemory) (addr : Nat) : Nat := leValue (mem.read addr 8)

/-- `__wbindgen_bigint_from_u64(arg0)`. -/
def wbindgenBigintFromU64 (arg0 : Int) (g : Glue) : Option (Nat × Glue) :=
  addHeapObject (.bigint (asUintN64 arg0)) g

/-- `__wbindgen_bigint_get_as_i64(arg0, arg1)`: the memory after it. -/
def wbindgenBigintGetAsI64 (g : Glue) (arg0 arg1 : Nat) (mem : WasmMemory) : WasmMemory :=
  let ret := match getObject g arg1 with
    | .bigint v => some v
    | _ => none
  (mem.setBigInt64 arg0 1 (ret.getD 0)).setInt32 arg0 0 (if ret.isNone then 0 else 1)

@[simp] theorem length_leBytes (k v : Nat) : (leBytes k v).length = k := by
  induction k generalizing v with
  | zero => rfl
  | succ k ih => simp [leBytes, ih]

theorem leValue_leBytes (k v : Nat) : leValue (leBytes k v) = v % 0x100 ^ k := by
  induction k generalizing v with
  | zero => simp [leBytes, leValue, Nat.mod_one]
  | succ k ih =>
    have low : (v % 0x100).toUInt8.toNat = v % 0x100 := toUInt8_toNat (Nat.mod_lt _ (by decide))
    calc leValue (leBytes (k + 1) v) = v % 0x100 + 0x100 * leValue (leBytes k (v / 0x100)) := by
          rw [leBytes, leValue, List.foldr_cons, low]; rfl
      _ = v % 0x100 ^ (k + 1) := by rw [ih, pow_succ', Nat.mod_mul]

theorem asUintN64_toInt64 {u : Nat} (small : u < 0x10000000000000000) :
    asUintN64 (toInt64 u) = u := by
  unfold asUintN64 toInt64
  split <;> omega

section Slot
variable (mem : WasmMemory) {arg0 : Nat} (aligned : arg0 % 8 = 0)
include aligned

theorem WasmMemory.readUint64_setBigInt64 (index : Nat) (value : Int) :
    (mem.setBigInt64 arg0 index value).readUint64 (arg0 + 8 * index) =
      (value % 0x10000000000000000).toNat := by
  have addr : 8 * (arg0 / 8 + index) = arg0 + 8 * index := by omega
  have inRange : (value % 0x10000000000000000).toNat < 0x100 ^ 8 := by omega
  have stored := mem.read_storeBytes rfl (arg0 + 8 * index)
    (leBytes 8 (value % 0x10000000000000000).toNat)
  rw [length_leBytes] at stored
  rw [WasmMemory.setBigInt64, if_pos aligned, addr, WasmMemory.readUint64, stored,
    leValue_leBytes, Nat.mod_eq_of_lt inRange]

theorem wbindgenBigintGetAsI64_of_bigint (g : Glue) {arg1 : Nat} {v : Int}
    (big : getObject g arg1 = .bigint v) :
    (wbindgenBigintGetAsI64 g arg0 arg1 mem).readUint32 arg0 = 1 ∧
      (wbindgenBigintGetAsI64 g arg0 arg1 mem).readUint64 (arg0 + 8) =
        (v % 0x10000000000000000).toNat := by
  have words : arg0 % 4 = 0 := by omega
  simp only [wbindgenBigintGetAsI64, big, Option.isNone_some, Option.getD_some]
  refine ⟨by simpa using WasmMemory.readUint32_setInt32 _ words 0 1, ?_⟩
  rw [WasmMemory.readUint64, WasmMemory.read_setInt32_of_apart _ words 0 _ (by omega),
    ← WasmMemory.readUint64]
  exact mem.readUint64_setBigInt64 aligned 1 v

end Slot

/-- A `u64` from wasm, taken to JS and back, from any state between calls: JS holds it as the
non-negative `BigInt` it is, under a fresh handle that keeps the glue between calls, and
`__wbindgen_bigint_get_as_i64` on that handle gives wasm the flag 1 and the same 64 bits. -/
theorem bigint_round_trip {g : Glue} {handles : Handles} (idle : Idle g handles)
    {x : Nat} (valid : x < 0x10000000000000000) {arg0 : Nat} (aligned : arg0 % 8 = 0)
    (mem : WasmMemory) :
    ∃ idx g', wbindgenBigintFromU64 (toInt64 x) g = some (idx, g') ∧
      Idle g' ((idx, .bigint x) :: handles) ∧
      (wbindgenBigintGetAsI64 g' arg0 idx mem).readUint32 arg0 = 1 ∧
      (wbindgenBigintGetAsI64 g' arg0 idx mem).readUint64 (arg0 + 8) = x := by
  obtain ⟨free, rep⟩ := idle.represents
  obtain ⟨idx, g', free', added, rep'⟩ := rep.add (.bigint x)
  have big : getObject g' idx = .bigint x := rep'.stored _ (List.mem_cons_self _ _)
  have read := wbindgenBigintGetAsI64_of_bigint mem aligned g' big
  refine ⟨idx, g', by rw [wbindgenBigintFromU64, asUintN64_toInt64 valid]; exact added,
    idle.add added, read.1, ?_⟩
  rw [read.2]
  omega

theorem bigint_round_trip_high :
    ∃ idx g', wbindgenBigintFromU64 (toInt64 0x8000000000000000) initial = some (idx, g') ∧
      Idle g' ((idx, .bigint (0x8000000000000000 : Nat)) :: []) ∧
      (wbindgenBigintGetAsI64 g' 16 idx ⟨fun _ => 0, 0⟩).readUint32 16 = 1 ∧
      (wbindgenBigintGetAsI64 g' 16 idx ⟨fun _ => 0, 0⟩).readUint64 (16 + 8) =
        0x8000000000000000 :=
  bigint_round_trip .initial (by decide) (by decide) _

end ShinkaiWasmGlue
