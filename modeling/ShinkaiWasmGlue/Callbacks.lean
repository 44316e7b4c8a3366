import ShinkaiWasmGlue.Session

/-!
Heap calls made while a borrowing call runs. Inside an exported function's wasm call, wasm may
call the imports that hand out handles (`__wbindgen_object_clone_ref`, or any import returning
a JS value through `addHeapObject`) and those that take one back (`takeObject`,
`__wbindgen_object_drop_ref`), and JS code it calls may construct wrappers that borrow again,
in any order and at any depth. `BorrowStack` leaves the heap calls out of a call's body; here
they are in.

The two kinds of call share the array `heap` and its writes interleave. A ghost table of the
handles wasm holds is threaded beside the glue (`GlueOp.runTracked`), and wasm keeps to the
discipline of dropping only a live handle or a constant (`GlueOp.dropsHeld`). While every
nesting of borrows fits below `stack_pointer`, the run then goes through, the handles stay as
`Represents` says at every step inside the call, and the borrow stack runs exactly as in the
model without heap calls: `GlueOp.erase` drops the heap calls from a run, and the two runs agree
on `stack_pointer` and on every slot below 132 (`StackAgrees`).
-/

namespace ShinkaiWasmGlue

/-- A call into the glue made while wasm runs. -/
inductive GlueOp where
  /-- An exported function borrowing `args`; `body` are the calls made while its wasm call
  runs. -/
  | borrowing (args : List JsValue) (body : List GlueOp)
  /-- An import handing `obj` to wasm through `addHeapObject`. -/
  | add (obj : JsValue)
  /-- `__wbindgen_object_clone_ref(arg0)`. -/
  | cloneRef (arg0 : Nat)
  /-- `takeObject(idx)` or `__wbindgen_object_drop_ref(idx)`: both end in `dropObject(idx)`. -/
  | drop (idx : Nat)

mutual
/-- The glue's run; `none` when `addHeapObject` finds a `heap_next` that is no array index. -/
def GlueOp.run : GlueOp → Glue → Option Glue
  | .borrowing args body, g =>
    match borrowArgs args g with
    | .all g' => (GlueOp.runAll body g').map (releaseBorrowed args.length)
    | .threw g' _ => some (releaseBorrowed args.length g')
  | .add obj, g => (addHeapObject obj g).map Prod.snd
  | .cloneRef arg0, g => (wbindgenObjectCloneRef arg0 g).map Prod.snd
  | .drop idx, g => some (dropObject idx g)

def GlueOp.runAll : List GlueOp → Glue → Option Glue
  | [], g => some g
  | op :: rest, g => (op.run g).bind (GlueOp.runAll rest)
end

mutual
/-- The run with the handles wasm holds as ghost state: `none` also when wasm drops a handle it
does not hold. -/
def GlueOp.runTracked : GlueOp → Glue × Handles → Option (Glue × Handles)
  | .borrowing args body, (g, handles) =>
    match borrowArgs args g with
    | .all g' => (GlueOp.runAllTracked body (g', handles)).map
        fun (g'', handles') => (releaseBorrowed args.length g'', handles')
    | .threw g' _ => some (releaseBorrowed args.length g', handles)
  | .add obj, (g, handles) =>
    (addHeapObject obj g).map fun (idx, g') => (g', (idx, obj) :: handles)
  | .cloneRef arg0, (g, handles) =>
    (wbindgenObjectCloneRef arg0 g).map fun (idx, g') => (g', (idx, getObject g arg0) :: handles)
  | .drop idx, (g, handles) =>
    if idx < 132 ∨ idx ∈ handles.live then some (dropObject idx g, handles.release idx) else none

def GlueOp.runAllTracked : List GlueOp → Glue × Handles → Option (Glue × Handles)
  | [], s => some s
  | op :: rest, s => (op.runTracked s).bind (GlueOp.runAllTracked rest)
end

mutual
/-- Wasm drops only constants and handles it holds, along the tracked run from `s`. -/
def GlueOp.dropsHeld : GlueOp → Glue × Handles → Bool
  | .borrowing args body, (g, handles) =>
    match borrowArgs args g with
    | .all g' => GlueOp.dropsHeldAll body (g', handles)
    | .threw _ _ => true
  | .add _, _ => true
  | .cloneRef _, _ => true
  | .drop idx, (_, handles) => decide (idx < 132 ∨ idx ∈ handles.live)

def GlueOp.dropsHeldAll : List GlueOp → Glue × Handles → Bool
  | [], _ => true
  | op :: rest, s => op.dropsHeld s && match op.runTracked s with
    | some s' => GlueOp.dropsHeldAll rest s'
    | none => true
end

mutual
/-- The borrowing calls of a run, its heap calls left out. -/
def GlueOp.erase : GlueOp → List GlueCall
  | .borrowing args body => [.borrowing args (GlueOp.eraseAll body)]
  | _ => []

def GlueOp.eraseAll : List GlueOp → List GlueCall
  | [] => []
  | op :: rest => op.erase ++ GlueOp.eraseAll rest
end

theorem GlueCall.depthAll_append (front back : List GlueCall) :
    GlueCall.depthAll (front ++ back) =
      max (GlueCall.depthAll front) (GlueCall.depthAll back) := by
  induction front with
  | nil => rw [List.nil_append, GlueCall.depthAll, Nat.zero_max]
  | cons call rest ih =>
    rw [List.cons_append, GlueCall.depthAll, GlueCall.depthAll, ih, Nat.max_assoc]

/-! The steps of a tracked run, read back. -/

section Steps
variable {g g' : Glue} {handles handles' : Handles}

theorem GlueOp.runTracked_borrowing {args : List JsValue} {body : List GlueOp} {g₁ : Glue}
    (borrowed : borrowArgs args g = .all g₁)
    (tracked : (GlueOp.borrowing args body).runTracked (g, handles) = some (g', handles')) :
    ∃ g₂, GlueOp.runAllTracked body (g₁, handles) = some (g₂, handles') ∧
      g' = releaseBorrowed args.length g₂ := by
  simp only [GlueOp.runTracked, borrowed, Option.map_eq_some', Prod.exists, Prod.mk.injEq]
    at tracked
  obtain ⟨g₂, _, ran, rfl, rfl⟩ := tracked
  exact ⟨g₂, ran, rfl⟩

theorem GlueOp.runTracked_add {obj : JsValue}
    (tracked : (GlueOp.add obj).runTracked (g, handles) = some (g', handles')) :
    ∃ idx, addHeapObject obj g = some (idx, g') ∧ handles' = (idx, obj) :: handles := by
  simp only [GlueOp.runTracked, Option.map_eq_some', Prod.exists, Prod.mk.injEq] at tracked
  obtain ⟨idx, _, added, rfl, rfl⟩ := tracked
  exact ⟨idx, added, rfl⟩

theorem GlueOp.runTracked_cloneRef {arg0 : Nat}
    (tracked : (GlueOp.cloneRef arg0).runTracked (g, handles) = some (g', handles')) :
    ∃ idx, addHeapObject (getObject g arg0) g = some (idx, g') ∧
      handles' = (idx, getObject g arg0) :: handles := by
  simp only [GlueOp.runTracked, wbindgenObjectCloneRef, Option.map_eq_some', Prod.exists,
    Prod.mk.injEq] at tracked
  obtain ⟨idx, _, added, rfl, rfl⟩ := tracked
  exact ⟨idx, added, rfl⟩

theorem GlueOp.runTracked_drop {idx : Nat}
    (tracked : (GlueOp.drop idx).runTracked (g, handles) = some (g', handles')) :
    (idx < 132 ∨ idx ∈ handles.live) ∧ g' = dropObject idx g ∧ handles' = handles.release idx := by
  simp only [GlueOp.runTracked] at tracked
  split at tracked
  · cases tracked
    exact ⟨‹_›, rfl, rfl⟩
  · cases tracked

theorem GlueOp.runAllTracked_cons {op : GlueOp} {rest : List GlueOp}
    (tracked : GlueOp.runAllTracked (op :: rest) (g, handles) = some (g', handles')) :
    ∃ g₁ handles₁, op.runTracked (g, handles) = some (g₁, handles₁) ∧
      GlueOp.runAllTracked rest (g₁, handles₁) = some (g', handles') := by
  simp only [GlueOp.runAllTracked, Option.bind_eq_some, Prod.exists] at tracked
  exact tracked

end Steps

/-! The borrow stack of two runs. -/

/-- `g₀` and `g` agree on the borrow stack: the same `stack_pointer` and the same slots below
132. -/
def StackAgrees (g₀ g : Glue) : Prop :=
  g₀.stackPointer = g.stackPointer ∧ ∀ i < 132, slot g₀.heap i = slot g.heap i

namespace StackAgrees
variable {g₀ g g' : Glue}

theorem trans (first : StackAgrees g₀ g) (second : StackAgrees g g') : StackAgrees g₀ g' :=
  ⟨first.1.trans second.1, fun i small => (first.2 i small).trans (second.2 i small)⟩

theorem write (agree : StackAgrees g₀ g) (idx : Nat) (v : JsValue) (sp : Nat) :
    StackAgrees { g₀ with heap := writeSlot g₀.heap idx v, stackPointer := sp }
      { g with heap := writeSlot g.heap idx v, stackPointer := sp } := by
  refine ⟨rfl, fun i small => ?_⟩
  by_cases same : i = idx
  · subst same
    exact (slot_writeSlot_self _ _ _).trans (slot_writeSlot_self _ _ _).symm
  · simp only [slot_writeSlot_of_ne _ _ _ same]
    exact agree.2 i small

theorem borrow (agree : StackAgrees g₀ g) (args : List JsValue)
    (borrowed : borrowArgs args g = .all g') :
    ∃ g₀', borrowArgs args g₀ = .all g₀' ∧ StackAgrees g₀' g' := by
  induction args generalizing g₀ g with
  | nil => cases borrowed; exact ⟨g₀, rfl, agree⟩
  | cons arg rest ih =>
    by_cases last : g.stackPointer = 1
    · simp [borrowArgs, addBorrowedObject, last] at borrowed
    · rw [borrowArgs, addBorrowedObject_of_ne_one arg last] at borrowed
      rw [borrowArgs, addBorrowedObject_of_ne_one arg (agree.1.trans_ne last), agree.1]
      exact ih (agree.write _ _ _) borrowed

theorem release (agree : StackAgrees g₀ g) (k : Nat) :
    StackAgrees (releaseBorrowed k g₀) (releaseBorrowed k g) := by
  induction k generalizing g₀ g with
  | zero => exact agree
  | succ k ih =>
    rw [releaseBorrowed, releaseBorrowed, agree.1]
    exact ih (agree.write _ _ _)

end StackAgrees

/-! Inside a call: each kind of step keeps `Busy` and the agreement with the run without heap
calls. -/

section Inside
variable {g : Glue} {handles : Handles}

theorem Busy.borrow (busy : Busy g handles) (args : List JsValue)
    (fits : args.length < g.stackPointer) :
    ∃ g₁, borrowArgs args g = .all g₁ ∧ Busy g₁ handles ∧
      g₁.stackPointer = g.stackPointer - args.length := by
  obtain ⟨g₁, borrowed, pointer, writes⟩ := borrowArgs_all args g fits
  have room := busy.stackPointer
  have sameLength := borrowArgs_length args g fits (by have := busy.reserved; omega) borrowed
  exact ⟨g₁, borrowed,
    busy.frame writes.1 sameLength (fun i low => writes.2 i (.inr (by omega))) (by omega), pointer⟩

theorem Busy.release (busy : Busy g handles) (k : Nat) (room : g.stackPointer + k ≤ 128) :
    Busy (releaseBorrowed k g) handles :=
  have writes := releaseBorrowed_writes k g
  have sameLength := releaseBorrowed_length k g (by have := busy.reserved; omega)
  busy.frame writes.1 sameLength (fun i low => writes.2 i (.inr (by omega)))
    (by rw [releaseBorrowed_stackPointer]; exact room)

/-- What a tracked run from `g` to `g'` with the handles `handles'` gives: the plain run `plain`
ends in `g'`, `g'` is `Busy`, `stack_pointer` is where it was, and the borrow stack agrees with
`erased`, the end of the run without heap calls. -/
def TrackedSpec (plain : Option Glue) (erased g g' : Glue) (handles' : Handles) : Prop :=
  plain = some g' ∧ Busy g' handles' ∧ g'.stackPointer = g.stackPointer ∧ StackAgrees erased g'

variable {g₀ g₁ g' : Glue} {handles' : Handles}

theorem TrackedSpec.of_heap {plain : Option Glue} (agree : StackAgrees g₀ g)
    (ran : plain = some g') (busy : Busy g' handles')
    (samePointer : g'.stackPointer = g.stackPointer)
    (sameSlots : ∀ i < 132, slot g'.heap i = slot g.heap i) : TrackedSpec plain g₀ g g' handles' :=
  ⟨ran, busy, samePointer, agree.trans ⟨samePointer.symm, fun i small => (sameSlots i small).symm⟩⟩

theorem TrackedSpec.add (busy : Busy g handles) (agree : StackAgrees g₀ g) {obj : JsValue}
    {idx : Nat} (added : addHeapObject obj g = some (idx, g')) :
    TrackedSpec ((addHeapObject obj g).map Prod.snd) g₀ g g' ((idx, obj) :: handles) :=
  let ⟨busy', samePointer, sameSlots⟩ := busy.add added
  .of_heap agree (by rw [added]; rfl) busy' samePointer sameSlots

theorem TrackedSpec.borrowing {args : List JsValue} {g₂ : Glue} {plainBody : Option Glue}
    {erasedBody : Glue} (body : TrackedSpec plainBody erasedBody g₁ g₂ handles')
    (fits : args.length < g.stackPointer) (pointer : g₁.stackPointer = g.stackPointer - args.length)
    (room : g.stackPointer ≤ 128) :
    TrackedSpec (plainBody.map (releaseBorrowed args.length))
      (releaseBorrowed args.length erasedBody) g (releaseBorrowed args.length g₂) handles' := by
  obtain ⟨ran, busy, samePointer, agree⟩ := body
  have restored : (releaseBorrowed args.length g₂).stackPointer = g.stackPointer := by
    rw [releaseBorrowed_stackPointer]; omega
  exact ⟨by rw [ran]; rfl, busy.release _ (by omega), restored, agree.release _⟩

end Inside

mutual
theorem GlueOp.runTracked_spec : ∀ (op : GlueOp) (g₀ g : Glue) (handles : Handles) (g' : Glue)
    (handles' : Handles), Busy g handles → GlueCall.depthAll op.erase < g.stackPointer →
    StackAgrees g₀ g → op.runTracked (g, handles) = some (g', handles') →
    TrackedSpec (op.run g) (GlueCall.runAll op.erase g₀) g g' handles'
  | .borrowing args body, g₀, g, handles, g', handles', busy, fits, agree, tracked => by
    simp only [GlueOp.erase, GlueCall.depthAll, GlueCall.depth] at fits
    obtain ⟨g₁, borrowed, busy₁, pointer⟩ := busy.borrow args (by omega)
    obtain ⟨g₀₁, borrowed₀, agree₁⟩ := agree.borrow args borrowed
    obtain ⟨g₂, ran, rfl⟩ := GlueOp.runTracked_borrowing borrowed tracked
    have inner := GlueOp.runAllTracked_spec body g₀₁ g₁ handles g₂ handles' busy₁ (by omega)
      agree₁ ran
    simp only [GlueOp.erase, GlueCall.runAll, GlueCall.run_borrowing_all borrowed₀, GlueOp.run,
      borrowed]
    exact inner.borrowing (by omega) pointer busy.stackPointer
  | .add obj, g₀, g, handles, g', handles', busy, _, agree, tracked => by
    obtain ⟨idx, added, rfl⟩ := GlueOp.runTracked_add tracked
    exact .add busy agree added
  | .cloneRef arg0, g₀, g, handles, g', handles', busy, _, agree, tracked => by
    obtain ⟨idx, added, rfl⟩ := GlueOp.runTracked_cloneRef tracked
    exact .add busy agree added
  | .drop idx, g₀, g, handles, g', handles', busy, _, agree, tracked => by
    obtain ⟨allowed, rfl, rfl⟩ := GlueOp.runTracked_drop tracked
    exact .of_heap agree rfl (busy.drop allowed) (dropObject_stackPointer idx g)
      fun i small => slot_dropObject_of_lt idx g small

theorem GlueOp.runAllTracked_spec : ∀ (ops : List GlueOp) (g₀ g : Glue) (handles : Handles)
    (g' : Glue) (handles' : Handles), Busy g handles →
    GlueCall.depthAll (GlueOp.eraseAll ops) < g.stackPointer → StackAgrees g₀ g →
    GlueOp.runAllTracked ops (g, handles) = some (g', handles') →
    TrackedSpec (GlueOp.runAll ops g) (GlueCall.runAll (GlueOp.eraseAll ops) g₀) g g' handles'
  | [], g₀, g, handles, g', handles', busy, _, agree, tracked => by
    simp only [GlueOp.runAllTracked, Option.some.injEq, Prod.mk.injEq] at tracked
    obtain ⟨rfl, rfl⟩ := tracked
    exact ⟨rfl, busy, rfl, agree⟩
  | op :: rest, g₀, g, handles, g', handles', busy, fits, agree, tracked => by
    rw [GlueOp.eraseAll, GlueCall.depthAll_append] at fits
    obtain ⟨g₁, handles₁, first, second⟩ := GlueOp.runAllTracked_cons tracked
    obtain ⟨ran₁, busy₁, pointer₁, agree₁⟩ :=
      GlueOp.runTracked_spec op g₀ g handles g₁ handles₁ busy (by omega) agree first
    obtain ⟨ran, busy', pointer, agree'⟩ :=
      GlueOp.runAllTracked_spec rest _ g₁ handles₁ g' handles' busy₁ (by omega) agree₁ second
    refine ⟨by rw [GlueOp.runAll, ran₁, Option.some_bind, ran], busy', pointer.trans pointer₁, ?_⟩
    rw [GlueOp.eraseAll, GlueCall.runAll_append]
    exact agree'
end

/-! Under the discipline the tracked run goes through: a borrow that fits takes its slots, and
`addHeapObject` always finds the head of a represented free list. -/

theorem Busy.add_some {g : Glue} {handles : Handles} (busy : Busy g handles) (obj : JsValue) :
    ∃ idx g', addHeapObject obj g = some (idx, g') :=
  let ⟨_, rep⟩ := busy.represents
  let ⟨idx, g', _, added, _⟩ := rep.add obj
  ⟨idx, g', added⟩

mutual
theorem GlueOp.runTracked_of_dropsHeld : ∀ (op : GlueOp) (g : Glue) (handles : Handles),
    Busy g handles → GlueCall.depthAll op.erase < g.stackPointer →
    op.dropsHeld (g, handles) = true → ∃ s', op.runTracked (g, handles) = some s'
  | .borrowing args body, g, handles, busy, fits, held => by
    simp only [GlueOp.erase, GlueCall.depthAll, GlueCall.depth] at fits
    obtain ⟨g₁, borrowed, busy₁, pointer⟩ := busy.borrow args (by omega)
    rw [GlueOp.dropsHeld, borrowed] at held
    obtain ⟨⟨g₂, handles₂⟩, ran⟩ :=
      GlueOp.runAllTracked_of_dropsHeld body g₁ handles busy₁ (by omega) held
    simp only [GlueOp.runTracked, borrowed, ran, Option.map_some', Option.some.injEq, exists_eq']
  | .add obj, g, handles, busy, _, _ => by
    obtain ⟨idx, g', added⟩ := busy.add_some obj
    simp only [GlueOp.runTracked, added, Option.map_some', Option.some.injEq, exists_eq']
  | .cloneRef arg0, g, handles, busy, _, _ => by
    obtain ⟨idx, g', added⟩ := busy.add_some (getObject g arg0)
    simp only [GlueOp.runTracked, wbindgenObjectCloneRef, added, Option.map_some',
      Option.some.injEq, exists_eq']
  | .drop idx, g, handles, _, _, held => by
    rw [GlueOp.dropsHeld, decide_eq_true_eq] at held
    exact ⟨_, if_pos held⟩

theorem GlueOp.runAllTracked_of_dropsHeld : ∀ (ops : List GlueOp) (g : Glue) (handles : Handles),
    Busy g handles → GlueCall.depthAll (GlueOp.eraseAll ops) < g.stackPointer →
    GlueOp.dropsHeldAll ops (g, handles) = true →
    ∃ s', GlueOp.runAllTracked ops (g, handles) = some s'
  | [], g, handles, _, _, _ => ⟨_, rfl⟩
  | op :: rest, g, handles, busy, fits, held => by
    rw [GlueOp.eraseAll, GlueCall.depthAll_append] at fits
    rw [GlueOp.dropsHeldAll, Bool.and_eq_true] at held
    obtain ⟨⟨g₁, handles₁⟩, first⟩ :=
      GlueOp.runTracked_of_dropsHeld op g handles busy (by omega) held.1
    obtain ⟨-, busy₁, pointer₁, -⟩ :=
      GlueOp.runTracked_spec op g g handles g₁ handles₁ busy (by omega) ⟨rfl, fun _ _ => rfl⟩ first
    rw [first] at held
    obtain ⟨s', second⟩ :=
      GlueOp.runAllTracked_of_dropsHeld rest g₁ handles₁ busy₁ (by omega) held.2
    exact ⟨s', by rw [GlueOp.runAllTracked, first, Option.some_bind, second]⟩
end

/-- Heap calls and borrowing calls nested in one another while wasm runs, in any order: from
any state between calls, a call whose borrows nest at most 127 deep and in which wasm drops only
handles it holds and constants goes through and ends between calls again, with the free list and
the handles as `Represents` says, and with the borrow stack exactly as the same call without its
heap calls leaves it. -/
theorem GlueOp.run_of_idle {g : Glue} {handles : Handles} (idle : Idle g handles) (op : GlueOp)
    (fits : GlueCall.depthAll op.erase ≤ 127) (held : op.dropsHeld (g, handles) = true) :
    ∃ g' handles', op.runTracked (g, handles) = some (g', handles') ∧ op.run g = some g' ∧
      Idle g' handles' ∧ StackAgrees (GlueCall.runAll op.erase g) g' := by
  have pointer := idle.stackPointer
  obtain ⟨⟨g', handles'⟩, tracked⟩ :=
    GlueOp.runTracked_of_dropsHeld op g handles idle.busy (by omega) held
  obtain ⟨ran, busy, samePointer, agree⟩ := GlueOp.runTracked_spec op g g handles g' handles'
    idle.busy (by omega) ⟨rfl, fun _ _ => rfl⟩ tracked
  exact ⟨g', handles', tracked, ran, .of_busy busy (samePointer.trans pointer), agree⟩

set_option maxRecDepth 4000 in
theorem run_of_idle_add_drop :
    GlueCall.depthAll (GlueOp.borrowing [.null] [.add (.object 0), .drop 132]).erase ≤ 127 ∧
      (GlueOp.borrowing [.null] [.add (.object 0), .drop 132]).dropsHeld (initial, []) = true ∧
      ∃ g' handles', (GlueOp.borrowing [.null] [.add (.object 0), .drop 132]).runTracked
          (initial, []) = some (g', handles') ∧
        (GlueOp.borrowing [.null] [.add (.object 0), .drop 132]).run initial = some g' ∧
        Idle g' handles' ∧
        StackAgrees (GlueCall.runAll (GlueOp.borrowing [.null] [.add (.object 0), .drop 132]).erase
          initial) g' :=
  have fits : GlueCall.depthAll
      (GlueOp.borrowing [.null] [.add (.object 0), .drop 132]).erase ≤ 127 := by decide
  have held : (GlueOp.borrowing [.null] [.add (.object 0), .drop 132]).dropsHeld
      (initial, []) = true := rfl
  ⟨fits, held, GlueOp.run_of_idle Idle.initial _ fits held⟩

/-- The states the glue reaches, with the handles wasm holds, when calls run one after another
from the module's load: each a heap call, or an exported function with the heap calls and the
nested exported functions made while its wasm call runs, none nesting its borrows deeper than
127 and none dropping a handle wasm does not hold. -/
inductive NestedSession : Glue → Handles → Prop
  | initial : NestedSession initial []
  | call {g g' : Glue} {handles handles' : Handles} (op : GlueOp) : NestedSession g handles →
      GlueCall.depthAll op.erase ≤ 127 → op.runTracked (g, handles) = some (g', handles') →
      NestedSession g' handles'

theorem NestedSession.idle {g : Glue} {handles : Handles} (session : NestedSession g handles) :
    Idle g handles := by
  induction session with
  | initial => exact Idle.initial
  | call op _ fits tracked ih =>
    have pointer := ih.stackPointer
    obtain ⟨-, busy, samePointer, -⟩ := GlueOp.runTracked_spec op _ _ _ _ _ ih.busy (by omega)
      ⟨rfl, fun _ _ => rfl⟩ tracked
    exact .of_busy busy (samePointer.trans pointer)

/-- Any run of calls with callbacks nested in them: between calls `stack_pointer` is 128,
`heap[128..131]` still hold undefined, null, true and false, `addHeapObject` hands out a slot
from 132 up that no live handle holds, and `getObject` of a live handle gives back the value it
was handed for. -/
theorem nestedSession_keeps_handles {g : Glue} {handles : Handles}
    (session : NestedSession g handles) :
    g.stackPointer = 128 ∧
      (∀ i, 128 ≤ i → i < 132 → slot g.heap i = slot initial.heap i) ∧
      (∀ obj, ∃ idx g', addHeapObject obj g = some (idx, g') ∧ 132 ≤ idx ∧ idx ∉ handles.live) ∧
      ∀ entry ∈ handles, getObject g entry.1 = entry.2 :=
  session.idle.keeps_handles

set_option maxRecDepth 4000 in
theorem nestedSession_keeps_handles_after_call :
    let g := ⟨initialHeap ++ [.object 1], .number 133, 128⟩
    g.stackPointer = 128 ∧
      (∀ i, 128 ≤ i → i < 132 → slot g.heap i = slot initial.heap i) ∧
      (∀ obj, ∃ idx g', addHeapObject obj g = some (idx, g') ∧ 132 ≤ idx ∧
        idx ∉ Handles.live [(132, .object 1)]) ∧
      ∀ entry ∈ [(132, JsValue.object 1)], getObject g entry.1 = entry.2 :=
  nestedSession_keeps_handles (.call (.add (.object 1))
    (@NestedSession.call initial ⟨initialHeap ++ [.number 133], .number 132, 128⟩ [] []
      (.borrowing [.null] [.add (.object 0), .drop 132]) .initial (by decide) (by rfl))
    (by decide) (by rfl))

end ShinkaiWasmGlue
