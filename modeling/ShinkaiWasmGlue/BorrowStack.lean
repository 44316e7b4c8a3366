import ShinkaiWasmGlue.Heap

/-!
The borrow stack: the slots of `heap` below `stack_pointer` hold the JS values an exported
function lends to wasm for the length of one call. `addBorrowedObject` pushes one and throws
`out of js stack` when `stack_pointer` is 1; the function's `finally` block pops as many slots
as the function has borrowed arguments, whatever happened before it.

A call is a tree. An exported function borrows its arguments, and while its wasm call runs,
JS getters and iterators that wasm invokes to read those arguments may call exported functions
again. Whether a call ends by returning, by rethrowing a wasm error through `takeObject`, or by
an exception out of the wasm call, its `finally` block is the same; an exception of a nested
call only cuts the JS code around it short, which a shorter body models. The heap calls that
run in between (`FreeList`) touch neither `stack_pointer` nor the slots below 132, and are left
out here.
-/

namespace ShinkaiWasmGlue

/-- `addBorrowedObject(obj)`. -/
def addBorrowedObject (obj : JsValue) (g : Glue) : Except JsError (Nat × Glue) :=
  if g.stackPointer = 1 then .error (.error "out of js stack")
  else .ok (g.stackPointer - 1,
    { g with heap := writeSlot g.heap (g.stackPointer - 1) obj,
             stackPointer := g.stackPointer - 1 })

/-- How the argument list of a borrowing wasm call ends: every argument borrowed, or
`addBorrowedObject` threw, in the state it left. -/
inductive Borrowed where
  | all (g : Glue)
  | threw (g : Glue) (e : JsError)

/-- `addBorrowedObject(a₁), …, addBorrowedObject(aₖ)`, evaluated left to right as the arguments
of the wasm call; the first that throws ends the list. -/
def borrowArgs : List JsValue → Glue → Borrowed
  | [], g => .all g
  | arg :: rest, g =>
    match addBorrowedObject arg g with
    | .ok (_, g') => borrowArgs rest g'
    | .error e => .threw g e

/-- The `finally` block: `heap[stack_pointer++] = undefined`, once per borrowed argument. -/
def releaseBorrowed : Nat → Glue → Glue
  | 0, g => g
  | k + 1, g => releaseBorrowed k
      { g with heap := writeSlot g.heap g.stackPointer .undefined,
               stackPointer := g.stackPointer + 1 }

inductive GlueCall where
  /-- An exported function borrowing `args`; `body` are the calls into the glue made while its
  wasm call runs. -/
  | borrowing (args : List JsValue) (body : List GlueCall)

mutual
def GlueCall.run : GlueCall → Glue → Glue
  | .borrowing args body, g =>
    match borrowArgs args g with
    | .all g' => releaseBorrowed args.length (GlueCall.runAll body g')
    | .threw g' _ => releaseBorrowed args.length g'

def GlueCall.runAll : List GlueCall → Glue → Glue
  | [], g => g
  | call :: rest, g => GlueCall.runAll rest (call.run g)
end

/-! The exported functions that borrow, each with its own arguments. -/

/-- `new InboxNameWrapper(inbox_name_js)`. -/
def inboxNameWrapperNew (inboxNameJs : JsValue) : List GlueCall → GlueCall :=
  .borrowing [inboxNameJs]

/-- `new JobCreationWrapper(scope_js)`. -/
def jobCreationWrapperNew (scopeJs : JsValue) : List GlueCall → GlueCall :=
  .borrowing [scopeJs]

/-- `JobCreationWrapper.from_jsvalue(js_value)`. -/
def jobCreationWrapperFromJsvalue (jsValue : JsValue) : List GlueCall → GlueCall :=
  .borrowing [jsValue]

/-- `new JobMessageWrapper(job_id_js, content_js, files_inbox)`. -/
def jobMessageWrapperNew (jobIdJs contentJs filesInbox : JsValue) : List GlueCall → GlueCall :=
  .borrowing [jobIdJs, contentJs, filesInbox]

/-- `JobMessageWrapper.from_jsvalue(js_value)`. -/
def jobMessageWrapperFromJsvalue (jsValue : JsValue) : List GlueCall → GlueCall :=
  .borrowing [jsValue]

/-- `new JobScopeWrapper(buckets_js, documents_js)`. -/
def jobScopeWrapperNew (bucketsJs documentsJs : JsValue) : List GlueCall → GlueCall :=
  .borrowing [bucketsJs, documentsJs]

/-- `new SerializedAgentWrapper(serialized_agent_js)`. -/
def serializedAgentWrapperNew (serializedAgentJs : JsValue) : List GlueCall → GlueCall :=
  .borrowing [serializedAgentJs]

/-- `SerializedAgentWrapper.fromJsValue(j)`. -/
def serializedAgentWrapperFromJsValue (j : JsValue) : List GlueCall → GlueCall :=
  .borrowing [j]

/-- `new ShinkaiMessageWrapper(shinkai_message_js)`. -/
def shinkaiMessageWrapperNew (shinkaiMessageJs : JsValue) : List GlueCall → GlueCall :=
  .borrowing [shinkaiMessageJs]

/-- `ShinkaiMessageWrapper.fromJsValue(j)`. -/
def shinkaiMessageWrapperFromJsValue (j : JsValue) : List GlueCall → GlueCall :=
  .borrowing [j]

/-- `new ShinkaiNameWrapper(shinkai_name_js)`. -/
def shinkaiNameWrapperNew (shinkaiNameJs : JsValue) : List GlueCall → GlueCall :=
  .borrowing [shinkaiNameJs]

mutual
/-- How many slots of the borrow stack a call needs: its own arguments and the deepest of the
calls made inside it. -/
def GlueCall.depth : GlueCall → Nat
  | .borrowing args body => args.length + GlueCall.depthAll body

def GlueCall.depthAll : List GlueCall → Nat
  | [] => 0
  | call :: rest => max call.depth (GlueCall.depthAll rest)
end

/-- `g'` differs from `g` in `stack_pointer` and at most in the heap slots `lo ≤ i < hi`. -/
def WritesWithin (g g' : Glue) (lo hi : Nat) : Prop :=
  g'.heapNext = g.heapNext ∧ ∀ i, (i < lo ∨ hi ≤ i) → slot g'.heap i = slot g.heap i

section Frames
variable {g g' g'' : Glue} {lo hi : Nat}

theorem WritesWithin.refl (g : Glue) (lo hi : Nat) : WritesWithin g g lo hi :=
  ⟨rfl, fun _ _ => rfl⟩

theorem WritesWithin.trans (first : WritesWithin g g' lo hi) (second : WritesWithin g' g'' lo hi) :
    WritesWithin g g'' lo hi :=
  ⟨second.1.trans first.1, fun i outside => (second.2 i outside).trans (first.2 i outside)⟩

theorem WritesWithin.widen (w : WritesWithin g g' lo hi) {lo' hi' : Nat} (below : lo' ≤ lo)
    (above : hi ≤ hi') : WritesWithin g g' lo' hi' :=
  ⟨w.1, fun i outside => w.2 i (by omega)⟩

theorem writesWithin_writeSlot {idx : Nat} (v : JsValue) (sp : Nat) (low : lo ≤ idx)
    (high : idx < hi) :
    WritesWithin g { g with heap := writeSlot g.heap idx v, stackPointer := sp } lo hi :=
  ⟨rfl, fun i outside => slot_writeSlot_of_ne g.heap idx v (by omega)⟩

end Frames

theorem addBorrowedObject_of_ne_one (obj : JsValue) {g : Glue} (room : g.stackPointer ≠ 1) :
    addBorrowedObject obj g = .ok (g.stackPointer - 1,
      { g with heap := writeSlot g.heap (g.stackPointer - 1) obj
               stackPointer := g.stackPointer - 1 }) :=
  if_neg room

theorem releaseBorrowed_stackPointer (k : Nat) (g : Glue) :
    (releaseBorrowed k g).stackPointer = g.stackPointer + k := by
  induction k generalizing g with
  | zero => rfl
  | succ k ih => rw [releaseBorrowed, ih]; simp only; omega

theorem releaseBorrowed_writes (k : Nat) (g : Glue) :
    WritesWithin g (releaseBorrowed k g) g.stackPointer (g.stackPointer + k) := by
  induction k generalizing g with
  | zero => exact WritesWithin.refl g _ _
  | succ k ih =>
    exact (writesWithin_writeSlot _ _ le_rfl (by omega)).trans
      ((ih _).widen (by simp) (by simp; omega))

theorem slot_releaseBorrowed (k : Nat) (g : Glue) {i : Nat} (low : g.stackPointer ≤ i)
    (high : i < g.stackPointer + k) : slot (releaseBorrowed k g).heap i = .undefined := by
  induction k generalizing g with
  | zero => omega
  | succ k ih =>
    rw [releaseBorrowed]
    by_cases top : i = g.stackPointer
    · rw [(releaseBorrowed_writes k _).2 i (.inl (by simp; omega)), top]
      exact slot_writeSlot_self _ _ _
    · exact ih _ (by simp; omega) (by simp; omega)

theorem borrowArgs_all (args : List JsValue) (g : Glue) (fits : args.length < g.stackPointer) :
    ∃ g', borrowArgs args g = .all g' ∧ g'.stackPointer = g.stackPointer - args.length ∧
      WritesWithin g g' (g.stackPointer - args.length) g.stackPointer := by
  induction args generalizing g with
  | nil => exact ⟨g, rfl, rfl, WritesWithin.refl g _ _⟩
  | cons arg rest ih =>
    simp only [List.length_cons] at fits
    obtain ⟨g', borrowed, pointer, writes⟩ := ih { g with
      heap := writeSlot g.heap (g.stackPointer - 1) arg, stackPointer := g.stackPointer - 1 }
      (by simp only; omega)
    refine ⟨g', by rw [borrowArgs, addBorrowedObject_of_ne_one arg (by omega)]; exact borrowed,
      by simp [pointer]; omega, ?_⟩
    exact (writesWithin_writeSlot _ _ (by simp; omega) (by omega)).trans
      (writes.widen (by simp; omega) (by simp))

theorem borrowArgs_threw (args : List JsValue) (g : Glue) (nonzero : 1 ≤ g.stackPointer)
    (full : g.stackPointer ≤ args.length) :
    ∃ g' e, borrowArgs args g = .threw g' e ∧ g'.stackPointer = 1 ∧
      WritesWithin g g' 1 g.stackPointer := by
  induction args generalizing g with
  | nil => simp at full; omega
  | cons arg rest ih =>
    by_cases last : g.stackPointer = 1
    · exact ⟨g, .error "out of js stack", by simp [borrowArgs, addBorrowedObject, last], last,
        WritesWithin.refl g _ _⟩
    · simp only [List.length_cons] at full
      obtain ⟨g', e, borrowed, pointer, writes⟩ := ih { g with
        heap := writeSlot g.heap (g.stackPointer - 1) arg, stackPointer := g.stackPointer - 1 }
        (by simp only; omega) (by simp only; omega)
      refine ⟨g', e, by rw [borrowArgs, addBorrowedObject_of_ne_one arg last]; exact borrowed,
        pointer, ?_⟩
      exact (writesWithin_writeSlot _ _ (by omega) (by omega)).trans
        (writes.widen le_rfl (by simp))

theorem GlueCall.run_borrowing_all {args : List JsValue} {body : List GlueCall} {g g' : Glue}
    (borrowed : borrowArgs args g = .all g') :
    (GlueCall.borrowing args body).run g =
      releaseBorrowed args.length (GlueCall.runAll body g') := by
  rw [GlueCall.run, borrowed]

theorem GlueCall.run_borrowing_threw {args : List JsValue} {body : List GlueCall} {g g' : Glue}
    {e : JsError} (borrowed : borrowArgs args g = .threw g' e) :
    (GlueCall.borrowing args body).run g = releaseBorrowed args.length g' := by
  rw [GlueCall.run, borrowed]

theorem GlueCall.runAll_append (front back : List GlueCall) (g : Glue) :
    GlueCall.runAll (front ++ back) g = GlueCall.runAll back (GlueCall.runAll front g) := by
  induction front generalizing g with
  | nil => rfl
  | cons call rest ih => exact ih _

theorem GlueCall.run_of_full (args : List JsValue) (body : List GlueCall) {g : Glue}
    (nonzero : 1 ≤ g.stackPointer) (full : g.stackPointer ≤ args.length) :
    ((GlueCall.borrowing args body).run g).stackPointer = args.length + 1 := by
  obtain ⟨g', e, borrowed, pointer, -⟩ := borrowArgs_threw args g nonzero full
  rw [GlueCall.run_borrowing_threw borrowed, releaseBorrowed_stackPointer, pointer, Nat.add_comm]

mutual
theorem GlueCall.le_run_stackPointer : ∀ (call : GlueCall) (g : Glue),
    1 ≤ g.stackPointer → g.stackPointer ≤ (call.run g).stackPointer
  | .borrowing args body, g, nonzero => by
    by_cases fits : args.length < g.stackPointer
    · obtain ⟨g', borrowed, pointer, -⟩ := borrowArgs_all args g fits
      have inner := GlueCall.le_runAll_stackPointer body g' (by omega)
      rw [GlueCall.run_borrowing_all borrowed, releaseBorrowed_stackPointer]
      omega
    · have := GlueCall.run_of_full args body nonzero (by omega)
      omega

theorem GlueCall.le_runAll_stackPointer : ∀ (calls : List GlueCall) (g : Glue),
    1 ≤ g.stackPointer → g.stackPointer ≤ (GlueCall.runAll calls g).stackPointer
  | [], _, _ => le_rfl
  | call :: rest, g, nonzero => by
    have first := GlueCall.le_run_stackPointer call g nonzero
    exact first.trans (GlueCall.le_runAll_stackPointer rest _ (by omega))
end

mutual
/-- A call whose nesting fits below `stack_pointer` leaves it where it found it, and writes only
to the slots its borrows take. -/
theorem GlueCall.run_balanced : ∀ (call : GlueCall) (g : Glue), call.depth < g.stackPointer →
    (call.run g).stackPointer = g.stackPointer ∧
      WritesWithin g (call.run g) (g.stackPointer - call.depth) g.stackPointer
  | .borrowing args body, g, fits => by
    rw [GlueCall.depth] at fits ⊢
    obtain ⟨g', borrowed, pointer, borrowWrites⟩ := borrowArgs_all args g (by omega)
    obtain ⟨inner, innerWrites⟩ := GlueCall.runAll_balanced body g' (by omega)
    rw [GlueCall.run_borrowing_all borrowed, releaseBorrowed_stackPointer, inner, pointer]
    refine ⟨by omega, (borrowWrites.widen (by omega) le_rfl).trans
      ((innerWrites.widen (by omega) (by omega)).trans ?_)⟩
    exact (releaseBorrowed_writes _ _).widen (by omega) (by omega)

theorem GlueCall.runAll_balanced : ∀ (calls : List GlueCall) (g : Glue),
    GlueCall.depthAll calls < g.stackPointer →
    (GlueCall.runAll calls g).stackPointer = g.stackPointer ∧
      WritesWithin g (GlueCall.runAll calls g) (g.stackPointer - GlueCall.depthAll calls)
        g.stackPointer
  | [], g, _ => ⟨rfl, WritesWithin.refl g _ _⟩
  | call :: rest, g, fits => by
    rw [GlueCall.depthAll] at fits ⊢
    obtain ⟨first, firstWrites⟩ := GlueCall.run_balanced call g (by omega)
    obtain ⟨second, secondWrites⟩ := GlueCall.runAll_balanced rest (call.run g) (by omega)
    rw [first] at secondWrites
    exact ⟨second.trans first, (firstWrites.widen (by omega) le_rfl).trans
      (secondWrites.widen (by omega) le_rfl)⟩
end

mutual
/-- A call nested deeper than the stack leaves `stack_pointer` above where it found it. -/
theorem GlueCall.lt_run_stackPointer : ∀ (call : GlueCall) (g : Glue),
    1 ≤ g.stackPointer → g.stackPointer ≤ call.depth → g.stackPointer < (call.run g).stackPointer
  | .borrowing args body, g, nonzero, deep => by
    rw [GlueCall.depth] at deep
    by_cases fits : args.length < g.stackPointer
    · obtain ⟨g', borrowed, pointer, -⟩ := borrowArgs_all args g fits
      have inner := GlueCall.lt_runAll_stackPointer body g' (by omega) (by omega)
      rw [GlueCall.run_borrowing_all borrowed, releaseBorrowed_stackPointer]
      omega
    · have := GlueCall.run_of_full args body nonzero (by omega)
      omega

theorem GlueCall.lt_runAll_stackPointer : ∀ (calls : List GlueCall) (g : Glue),
    1 ≤ g.stackPointer → g.stackPointer ≤ GlueCall.depthAll calls →
    g.stackPointer < (GlueCall.runAll calls g).stackPointer
  | [], _, nonzero, deep => by rw [GlueCall.depthAll] at deep; omega
  | call :: rest, g, nonzero, deep => by
    rw [GlueCall.depthAll] at deep
    have first := GlueCall.le_run_stackPointer call g nonzero
    by_cases callDeep : g.stackPointer ≤ call.depth
    · have drift := GlueCall.lt_run_stackPointer call g nonzero callDeep
      exact drift.trans_le (GlueCall.le_runAll_stackPointer rest _ (by omega))
    · by_cases still : (call.run g).stackPointer ≤ GlueCall.depthAll rest
      · exact first.trans_lt (GlueCall.lt_runAll_stackPointer rest _ (by omega) still)
      · exact (show g.stackPointer < (call.run g).stackPointer by omega).trans_le
          (GlueCall.le_runAll_stackPointer rest _ (by omega))
end

/-- A call restores `stack_pointer` exactly when its nesting fits in the stack below it, and
otherwise leaves it strictly higher. -/
theorem GlueCall.run_restores_iff (call : GlueCall) {g : Glue} (nonzero : 1 ≤ g.stackPointer) :
    ((call.run g).stackPointer = g.stackPointer ↔ call.depth < g.stackPointer) ∧
      (g.stackPointer ≤ call.depth → g.stackPointer < (call.run g).stackPointer) := by
  have drift := call.lt_run_stackPointer g nonzero
  refine ⟨⟨fun restored => ?_, fun fits => (call.run_balanced g fits).1⟩, drift⟩
  by_contra deep
  have := drift (by omega)
  omega

theorem jobScopeWrapperNew_restores_iff :
    1 ≤ initial.stackPointer ∧
      ((((jobScopeWrapperNew .null .null []).run initial).stackPointer = initial.stackPointer ↔
        (jobScopeWrapperNew .null .null []).depth < initial.stackPointer) ∧
      (initial.stackPointer ≤ (jobScopeWrapperNew .null .null []).depth →
        initial.stackPointer < ((jobScopeWrapperNew .null .null []).run initial).stackPointer)) :=
  ⟨by decide, GlueCall.run_restores_iff _ (by decide)⟩

/-- From the initial state, a call whose nesting needs at most 127 slots of the borrow stack
returns `stack_pointer` to 128 and leaves the constants in `heap[128..131]` as they were. -/
theorem GlueCall.run_initial_of_depth_le (call : GlueCall) (fits : call.depth ≤ 127) :
    (call.run initial).stackPointer = 128 ∧
      ∀ i, 128 ≤ i → i < 132 → slot (call.run initial).heap i = slot initial.heap i := by
  obtain ⟨restored, writes⟩ := call.run_balanced initial (by simp [initial]; omega)
  exact ⟨restored, fun i high _ => writes.2 i (.inr high)⟩

theorem jobMessageWrapperNew_run_initial :
    (jobMessageWrapperNew .null .null .null []).depth ≤ 127 ∧
      ((jobMessageWrapperNew .null .null .null []).run initial).stackPointer = 128 ∧
      ∀ i, 128 ≤ i → i < 132 →
        slot ((jobMessageWrapperNew .null .null .null []).run initial).heap i =
          slot initial.heap i :=
  ⟨by decide, GlueCall.run_initial_of_depth_le _ (by decide)⟩

/-- `n` constructors of `InboxNameWrapper`, each one made by a getter that wasm reads while
deserializing the argument of the one outside it. -/
def inboxNesting (obj : JsValue) : Nat → List GlueCall
  | 0 => []
  | n + 1 => [inboxNameWrapperNew obj (inboxNesting obj n)]

/-- Nesting at least as deep as `stack_pointer`: the innermost borrow throws at slot 1, every
`finally` on the way out still pops its slot, and the stack ends one above where it started,
with undefined written over every slot from 1 to where it started. -/
theorem runAll_inboxNesting_of_le (obj : JsValue) (n : Nat) (g : Glue)
    (nonzero : 1 ≤ g.stackPointer) (deep : g.stackPointer ≤ n) :
    (GlueCall.runAll (inboxNesting obj n) g).stackPointer = g.stackPointer + 1 ∧
      ∀ i, 1 ≤ i → i ≤ g.stackPointer →
        slot (GlueCall.runAll (inboxNesting obj n) g).heap i = .undefined := by
  induction n generalizing g with
  | zero => omega
  | succ n ih =>
    show ((GlueCall.borrowing [obj] (inboxNesting obj n)).run g).stackPointer = _ ∧
      ∀ i, 1 ≤ i → i ≤ g.stackPointer →
        slot ((GlueCall.borrowing [obj] (inboxNesting obj n)).run g).heap i = _
    by_cases last : g.stackPointer = 1
    · obtain ⟨g', e, borrowed, pointer, -⟩ :=
        borrowArgs_threw [obj] g nonzero (show g.stackPointer ≤ 1 by omega)
      rw [GlueCall.run_borrowing_threw borrowed, releaseBorrowed_stackPointer, pointer]
      exact ⟨by simp [last], fun i low high =>
        slot_releaseBorrowed 1 g' (by omega) (by omega)⟩
    · obtain ⟨g', borrowed, pointer, -⟩ := borrowArgs_all [obj] g (show 1 < g.stackPointer by omega)
      have lowered : g'.stackPointer = g.stackPointer - 1 := pointer
      obtain ⟨inner, cleared⟩ := ih g' (by omega) (by omega)
      rw [GlueCall.run_borrowing_all borrowed, releaseBorrowed_stackPointer, inner, lowered]
      simp only [List.length_singleton]
      refine ⟨by omega, fun i low high => ?_⟩
      by_cases top : i = g.stackPointer
      · exact slot_releaseBorrowed 1 _ (by omega) (by omega)
      · rw [(releaseBorrowed_writes 1 _).2 i (.inl (by omega))]
        exact cleared i low (by omega)

/-- From the initial state, 128 nested `InboxNameWrapper` constructors: the outermost call is
entered with `stack_pointer` 128 and leaves it at 129. A second nesting, 129 deep, then leaves
it at 130 and writes undefined over `heap[129]`, which held null. -/
theorem borrow_overflow_unbalances_stack :
    (GlueCall.runAll (inboxNesting (.object 0) 128) initial).stackPointer = 129 ∧
    (GlueCall.runAll (inboxNesting (.object 0) 128 ++ inboxNesting (.object 0) 129)
      initial).stackPointer = 130 ∧
    slot initial.heap 129 = .null ∧
    slot (GlueCall.runAll (inboxNesting (.object 0) 128 ++ inboxNesting (.object 0) 129)
      initial).heap 129 = .undefined := by
  have entry : initial.stackPointer = 128 := rfl
  obtain ⟨first, -⟩ := runAll_inboxNesting_of_le (.object 0) 128 initial (by omega) (by omega)
  rw [entry] at first
  obtain ⟨second, cleared⟩ := runAll_inboxNesting_of_le (.object 0) 129
    (GlueCall.runAll (inboxNesting (.object 0) 128) initial) (by omega) (by omega)
  rw [first] at second cleared
  rw [GlueCall.runAll_append]
  exact ⟨first, second, rfl, cleared 129 (by omega) (by omega)⟩

/-- `k` nestings one after another, the one after `j` others as deep as `start + j`: each as deep
as the stack pointer it meets, when that starts at `start`. -/
def climbingNestings (obj : JsValue) (start : Nat) : Nat → List GlueCall
  | 0 => []
  | k + 1 => climbingNestings obj start k ++ inboxNesting obj (start + k)

theorem runAll_climbingNestings (obj : JsValue) (start : Nat) (nonzero : 1 ≤ start) (k : Nat)
    (g : Glue) (entry : g.stackPointer = start) :
    (GlueCall.runAll (climbingNestings obj start (k + 1)) g).stackPointer = start + k + 1 ∧
      ∀ i, 1 ≤ i → i ≤ start + k →
        slot (GlueCall.runAll (climbingNestings obj start (k + 1)) g).heap i = .undefined := by
  induction k with
  | zero =>
    obtain ⟨pointer, cleared⟩ := runAll_inboxNesting_of_le obj start g (by omega) (by omega)
    rw [entry] at pointer cleared
    simp only [climbingNestings, List.nil_append, Nat.add_zero]
    exact ⟨pointer, cleared⟩
  | succ k ih =>
    rw [climbingNestings, GlueCall.runAll_append]
    obtain ⟨climbed, -⟩ := ih
    obtain ⟨pointer, cleared⟩ := runAll_inboxNesting_of_le obj (start + (k + 1))
      (GlueCall.runAll (climbingNestings obj start (k + 1)) g) (by omega) (by omega)
    rw [climbed] at pointer cleared
    exact ⟨by omega, fun i low high => cleared i low (by omega)⟩

end ShinkaiWasmGlue
