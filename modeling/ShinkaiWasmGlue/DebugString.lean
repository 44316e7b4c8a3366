import ShinkaiWasmGlue.NumberString

/-!
`debugString`, which `__wbindgen_debug_string` runs to give wasm's `Debug` formatting of a JS
value a text. Objects live in a realm, so an array can hold itself, directly or through other
arrays. Each call of `debugString` takes a frame of the JS call stack, and `frames` is how many
are left: with none, the engine throws a RangeError. Reading a property of an object runs what
the object defines for it (an accessor, a proxy trap, the `toString` a template literal calls),
so each read the code makes is kept with what it gives or throws. `JSON.stringify` is a
parameter, given the frames left, since the code takes its result or its exception as it comes.
Left out is a proxy whose `getPrototypeOf` trap throws when `instanceof Error` asks it.
-/

namespace ShinkaiWasmGlue

/-- What `debugString` can tell about an object, with what each read it makes gives or
throws. -/
inductive JsObject where
  /-- A callable object: what reading its `name` gives, `some` of it when that is a string. -/
  | function (name : Except JsError (Option JsString))
  /-- An array whose `length` and elements are data properties. -/
  | array (elements : List JsValue)
  /-- An array whose reads give `elements` and then throw at the next index, through an
  accessor or a proxy trap; reading `length` may be what throws. -/
  | arrayThrowing (elements : List JsValue) (thrown : JsError)
  /-- An object with `Error.prototype` on its prototype chain: the tag its internal slots give
  (`Error` for one made by `Error`), its `Symbol.toStringTag` when that is a string, and the
  strings the template literal makes of its `name`, `message` and `stack`, read and converted
  in that order, or the first exception of those (a Symbol, a throwing getter or `toString`). -/
  | error (builtinTag : JsString) (toStringTag : Option JsString)
      (parts : Except JsError (JsString × JsString × JsString))
  /-- Any other object: the tag its internal slots give (`Object`, `Date`, `RegExp`, ...), and
  its `Symbol.toStringTag` property when that is a string. -/
  | plain (builtinTag : JsString) (toStringTag : Option JsString)
  /-- An object on which finding the class name throws: `Array.isArray` of a revoked proxy, or
  a `Symbol.toStringTag` getter that throws. -/
  | throwing (thrown : JsError)

/-- The objects a JS value of kind `.object ref` refers to. -/
abbrev Realm := Nat → JsObject

/-- `JSON.stringify(val)` with `frames` frames left on the call stack: a string, undefined
(`none`), or what it throws. It runs the value's `toJSON` and getters and recurses through it,
so on a short stack it throws the engine's RangeError. -/
abbrev Stringify := Nat → JsValue → Except JsError (Option JsString)

/-- `Object.prototype.toString` of an object: `[object Tag]`. -/
def objectToString (builtinTag : JsString) (toStringTag : Option JsString) : JsString :=
  JsString.ofString "[object " ++ toStringTag.getD builtinTag ++ JsString.ofString "]"

/-- `([^\]]+)\]` at the start of `s`: the run before the first `]`, when it is not empty and a
`]` ends it. -/
def classNameRun (s : JsString) : Option JsString :=
  let run := s.takeWhile (· != 0x5D)
  if run ≠ [] ∧ run.length < s.length then some run else none

/-- `/\[object ([^\]]+)\]/.exec(s)`: the match and its capture at the leftmost position where
the pattern matches, or null (`none`). -/
def execClassPattern : JsString → Option (List JsString)
  | [] => none
  | s@(_ :: rest) =>
    match if (JsString.ofString "[object ").isPrefixOf s then classNameRun (s.drop 8) else none with
    | some run => some [JsString.ofString "[object " ++ run ++ [0x5D], run]
    | none => execClassPattern rest

/-- The part of `debugString` after `Array.isArray`, for a value whose
`Object.prototype.toString` is `tagged`: its class name, the JSON of a plain object, or
`name: message` and the stack of an Error. -/
def debugBuiltIn (stringify : Stringify) (frames : Nat) (val : JsValue) (tagged : JsString)
    (errorParts : Option (Except JsError (JsString × JsString × JsString))) :
    Except JsError JsString :=
  match execClassPattern tagged with
  | none => .error .typeError
  | some builtInMatches =>
    if h : 1 < builtInMatches.length then
      let className := builtInMatches[1]
      if className = JsString.ofString "Object" then
        match stringify frames val with
        | .ok json => .ok (JsString.ofString "Object(" ++
            json.getD (JsString.ofString "undefined") ++ JsString.ofString ")")
        | .error _ => .ok (JsString.ofString "Object")
      else
        match errorParts with
        | some parts => parts.map fun (name, message, stack) =>
          name ++ JsString.ofString ": " ++ message ++ JsString.ofString "\n" ++ stack
        | none => .ok className
    else .ok tagged

/-- `debugString(val)` with `frames` frames left on the call stack. -/
def debugString (realm : Realm) (stringify : Stringify) : Nat → JsValue → Except JsError JsString
  | 0, _ => .error .rangeError
  | _ + 1, .undefined => .ok (JsString.ofString "undefined")
  | _ + 1, .null => .ok (JsString.ofString "null")
  | _ + 1, .boolean b => .ok (JsString.ofString (toString b))
  | _ + 1, .number n => .ok (numberString n)
  | _ + 1, .string s => .ok (0x22 :: s ++ [0x22])
  | _ + 1, .symbol none => .ok (JsString.ofString "Symbol")
  | _ + 1, .symbol (some description) =>
    .ok (JsString.ofString "Symbol(" ++ description ++ JsString.ofString ")")
  | frames + 1, .bigint n =>
    debugBuiltIn stringify frames (.bigint n)
      (objectToString (JsString.ofString "Object") (some (JsString.ofString "BigInt"))) none
  | frames + 1, .object ref =>
    match realm ref with
    | .function (.ok (some name)) =>
      .ok (if name.length > 0 then JsString.ofString "Function(" ++ name ++ JsString.ofString ")"
        else JsString.ofString "Function")
    | .function (.ok none) => .ok (JsString.ofString "Function")
    | .function (.error thrown) => .error thrown
    | .array elements => do
      let parts ← elements.mapM (debugString realm stringify frames)
      return JsString.ofString "[" ++ (JsString.ofString ", ").intercalate parts ++
        JsString.ofString "]"
    | .arrayThrowing elements thrown => do
      let _ ← elements.mapM (debugString realm stringify frames)
      throw thrown
    | .error builtinTag toStringTag parts =>
      debugBuiltIn stringify frames (.object ref) (objectToString builtinTag toStringTag)
        (some parts)
    | .plain builtinTag toStringTag =>
      debugBuiltIn stringify frames (.object ref) (objectToString builtinTag toStringTag) none
    | .throwing thrown => .error thrown

section Lists
variable {α β ε : Type} {f : α → Except ε β}

end Lists

theorem execClassPattern_of_run {s run : JsString}
    (prefixed : (JsString.ofString "[object ").isPrefixOf s)
    (matched : classNameRun (s.drop 8) = some run) :
    execClassPattern s = some [JsString.ofString "[object " ++ run ++ [0x5D], run] := by
  cases s with
  | nil => cases prefixed
  | cons u rest => unfold execClassPattern; simp only [prefixed, matched, if_true]

theorem execClassPattern_empty_tag (builtinTag : JsString) :
    execClassPattern (objectToString builtinTag (some [])) = none := by
  simp only [objectToString, Option.getD_some]; decide

/-- The pattern reads the tag back from `Object.prototype.toString` when the tag has no `]`,
unless the tag is empty: then it matches nowhere. -/
theorem execClassPattern_objectToString (builtinTag : JsString) {tag : JsString}
    (noBracket : (0x5D : UInt16) ∉ tag) :
    execClassPattern (objectToString builtinTag (some tag)) =
      if tag = [] then none else some [objectToString builtinTag (some tag), tag] := by
  split
  · rename_i empty; subst empty; exact execClassPattern_empty_tag _
  · rename_i nonEmpty
    have run : (tag ++ [0x5D]).takeWhile (· != 0x5D) = tag := by
      rw [List.takeWhile_append_of_pos fun u mem => by
        simp only [bne_iff_ne, ne_eq]; rintro rfl; exact noBracket mem]
      simp
    have matched : classNameRun (tag ++ [0x5D]) = some tag := by
      simp [classNameRun, run, nonEmpty]
    simp only [objectToString, Option.getD_some]
    have eight : (JsString.ofString "[object ").length = 8 := rfl
    rw [execClassPattern_of_run (by simp)
      (by rw [List.append_assoc, ← eight, List.drop_left]; exact matched)]
    rfl

theorem execClassPattern_map :
    (0x5D : UInt16) ∉ JsString.ofString "Map" ∧
    execClassPattern
        (objectToString (JsString.ofString "Object") (some (JsString.ofString "Map"))) =
      if JsString.ofString "Map" = [] then none
      else some [objectToString (JsString.ofString "Object") (some (JsString.ofString "Map")),
        JsString.ofString "Map"] :=
  ⟨by decide, execClassPattern_objectToString _ (by decide)⟩

theorem debugBuiltIn_of_no_match (stringify : Stringify) (frames : Nat) (val : JsValue)
    {tagged : JsString} (noMatch : execClassPattern tagged = none)
    (errorParts : Option (Except JsError (JsString × JsString × JsString))) :
    debugBuiltIn stringify frames val tagged errorParts = .error .typeError := by
  rw [debugBuiltIn, noMatch]

theorem debugString_throws (stringify : Stringify) (frames : Nat) :
    debugString (fun _ => .array [.object 0]) stringify frames (.object 0) = .error .rangeError ∧
    debugString (fun _ => .plain (JsString.ofString "Object") (some [])) stringify (frames + 1)
      (.object 0) = .error .typeError := by
  constructor
  · induction frames with
    | zero => rfl
    | succ frames ih => simp only [debugString, List.mapM_cons, ih]; rfl
  · simp only [debugString]
    exact debugBuiltIn_of_no_match _ _ _ (execClassPattern_empty_tag _) _

end ShinkaiWasmGlue
