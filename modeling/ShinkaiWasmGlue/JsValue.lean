import Mathlib.Data.List.Basic

/-!
JS values as the generated glue `shinkai_message_wasm_bg.js` handles them. Objects are
references into a realm (`Realm`), so an array can hold itself. Strings are sequences of
UTF-16 code units, lone surrogates included, as JS strings are. Numbers are integers here, a
number `n` standing for the double nearest to it: the glue stores only heap indices in numbers,
and nothing below depends on fractions, NaN or -0.
-/

namespace ShinkaiWasmGlue

/-- A JS string: its UTF-16 code units. -/
abbrev JsString := List UInt16

inductive JsValue where
  | undefined
  | null
  | boolean (b : Bool)
  | number (n : Int)
  | bigint (n : Int)
  | string (s : JsString)
  | symbol (description : Option JsString)
  | object (ref : Nat)
  deriving DecidableEq, Repr

/-- The array index a value names, when it is a non-negative integer. -/
def JsValue.asIndex : JsValue → Option Nat
  | .number (.ofNat n) => some n
  | _ => none

@[simp] theorem JsValue.asIndex_number (n : Nat) : (JsValue.number n).asIndex = some n := rfl

/-- What a glue function throws: an `Error` with a message, the engine's TypeError or
RangeError, or a value JS code it runs throws (`throw value` in a getter, say). -/
inductive JsError where
  | error (message : String)
  | typeError
  | rangeError
  | thrown (value : JsValue)
  deriving DecidableEq, Repr

end ShinkaiWasmGlue
