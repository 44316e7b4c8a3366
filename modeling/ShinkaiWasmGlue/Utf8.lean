import ShinkaiWasmGlue.Utf16

/-!
UTF-8 as `TextEncoder` and `TextDecoder` produce and read it. `utf8Bytes` is the Encoding
Standard's UTF-8 encoder for one scalar value, `textEncode` is
`TextEncoder.prototype.encode`, and `encodeInto` is `TextEncoder.prototype.encodeInto`, which
writes whole code points only, as many as fit. `decoderStep` is the Encoding Standard's UTF-8
decoder, one byte at a time. The glue's decoder is created with `fatal: true`, so an error is a
TypeError, and with `ignoreBOM: true`, so a leading U+FEFF is kept.
-/

namespace ShinkaiWasmGlue

/-- The UTF-8 encoder, for one scalar value. -/
def utf8Bytes (c : ScalarValue) : List UInt8 :=
  let n := c.val
  if n < 0x80 then [n.toUInt8]
  else if n < 0x800 then [(0xC0 + n / 0x40).toUInt8, (0x80 + n % 0x40).toUInt8]
  else if n < 0x10000 then
    [(0xE0 + n / 0x1000).toUInt8, (0x80 + n / 0x40 % 0x40).toUInt8, (0x80 + n % 0x40).toUInt8]
  else
    [(0xF0 + n / 0x40000).toUInt8, (0x80 + n / 0x1000 % 0x40).toUInt8,
      (0x80 + n / 0x40 % 0x40).toUInt8, (0x80 + n % 0x40).toUInt8]

/-- `TextEncoder.prototype.encode(s)`. -/
def textEncode (s : JsString) : List UInt8 := (toScalarValues s).flatMap utf8Bytes

/-- The loop of `encodeInto`: whole code points, while their bytes fit in the `room` left; the
code units read and the bytes written. -/
def encodeCodePoints : List (ScalarValue × Nat) → Nat → Nat × List UInt8
  | [], _ => (0, [])
  | (c, units) :: rest, room =>
    if (utf8Bytes c).length ≤ room then
      let tail := encodeCodePoints rest (room - (utf8Bytes c).length)
      (units + tail.1, utf8Bytes c ++ tail.2)
    else (0, [])

/-- `TextEncoder.prototype.encodeInto(s, view)` on a view of `room` bytes: `read`, and the bytes
written from the start of the view. -/
def encodeInto (s : JsString) (room : Nat) : Nat × List UInt8 :=
  encodeCodePoints (codePoints s) room

/-- The UTF-8 decoder's state: the code point so far, the bytes it still needs, and the bounds
the next byte must lie in. -/
structure DecoderState where
  codePoint : Nat
  bytesNeeded : Nat
  lowerBoundary : Nat
  upperBoundary : Nat
  deriving DecidableEq, Repr

def DecoderState.initial : DecoderState := ⟨0, 0, 0x80, 0xBF⟩

/-- The UTF-8 decoder's handler for one byte: an error, or the next state and the code point
the byte completes. -/
def decoderStep (st : DecoderState) (byte : Nat) : Option (DecoderState × Option Nat) :=
  if st.bytesNeeded = 0 then
    if byte ≤ 0x7F then some (st, some byte)
    else if 0xC2 ≤ byte ∧ byte ≤ 0xDF then some (⟨byte % 0x20, 1, 0x80, 0xBF⟩, none)
    else if 0xE0 ≤ byte ∧ byte ≤ 0xEF then
      some (⟨byte % 0x10, 2, if byte = 0xE0 then 0xA0 else 0x80,
        if byte = 0xED then 0x9F else 0xBF⟩, none)
    else if 0xF0 ≤ byte ∧ byte ≤ 0xF4 then
      some (⟨byte % 0x08, 3, if byte = 0xF0 then 0x90 else 0x80,
        if byte = 0xF4 then 0x8F else 0xBF⟩, none)
    else none
  else if byte < st.lowerBoundary ∨ st.upperBoundary < byte then none
  else if st.bytesNeeded = 1 then
    some (.initial, some (st.codePoint * 0x40 + byte % 0x40))
  else some (⟨st.codePoint * 0x40 + byte % 0x40, st.bytesNeeded - 1, 0x80, 0xBF⟩, none)

/-- The code points a byte sequence decodes to, or an error; the end of the input is an error
when a code point is unfinished. -/
def decodeFrom : DecoderState → List UInt8 → Option (List Nat)
  | st, [] => if st.bytesNeeded = 0 then some [] else none
  | st, b :: rest =>
    match decoderStep st b.toNat with
    | none => none
    | some (next, none) => decodeFrom next rest
    | some (next, some cp) => (decodeFrom next rest).map (cp :: ·)

/-- `new TextDecoder('utf-8', { ignoreBOM: true, fatal: true }).decode(bytes)`. -/
def textDecode (bytes : List UInt8) : Except JsError JsString :=
  match decodeFrom .initial bytes with
  | some cps => .ok (cps.flatMap codePointUnits)
  | none => .error .typeError

@[simp] theorem textEncode_nil : textEncode [] = [] := rfl

theorem textEncode_eq (s : JsString) :
    textEncode s = (codePoints s).flatMap fun point => utf8Bytes point.1 := by
  simp [textEncode, toScalarValues, List.flatMap_map]

theorem length_utf8Bytes_le (c : ScalarValue) : (utf8Bytes c).length ≤ 4 := by
  unfold utf8Bytes; dsimp only; split_ifs <;> simp

theorem length_utf8Bytes_le_of_lt {c : ScalarValue} (bmp : c.val < 0x10000) :
    (utf8Bytes c).length ≤ 3 := by
  unfold utf8Bytes; dsimp only; split_ifs <;> simp_all

theorem length_utf8Bytes_unitScalar (u : UInt16) : (utf8Bytes (unitScalar u)).length ≤ 3 := by
  apply length_utf8Bytes_le_of_lt
  unfold unitScalar
  split
  · decide
  · exact UInt16.toNat_lt u

theorem length_textEncode_le (s : JsString) : (textEncode s).length ≤ 3 * s.length := by
  rw [textEncode_eq]
  induction s using codePoints.induct with
  | case1 => simp [codePoints]
  | case2 u => simpa [codePoints] using length_utf8Bytes_unitScalar u
  | case3 u v rest pair ih =>
    have := length_utf8Bytes_le (pairScalar u v pair)
    rw [codePoints, dif_pos pair, List.flatMap_cons, List.length_append]
    simp only [List.length_cons]
    omega
  | case4 u v rest pair ih =>
    have := length_utf8Bytes_unitScalar u
    rw [codePoints, dif_neg pair, List.flatMap_cons, List.length_append]
    simp only [List.length_cons] at ih ⊢
    omega

theorem textEncode_cons_of_ascii {u : UInt16} (ascii : u.toNat < 0x80) (rest : JsString) :
    textEncode (u :: rest) = u.toNat.toUInt8 :: textEncode rest := by
  have single : ¬IsHighSurrogate u := by unfold IsHighSurrogate; omega
  have plain : ¬IsSurrogate u := by unfold IsSurrogate; omega
  rw [textEncode_eq, textEncode_eq, codePoints_cons_of_not_high single, List.flatMap_cons]
  simp [utf8Bytes, unitScalar_of_not_surrogate plain, ascii]

theorem encodeCodePoints_of_fits (points : List (ScalarValue × Nat)) (room : Nat)
    (fits : (points.flatMap fun point => utf8Bytes point.1).length ≤ room) :
    encodeCodePoints points room =
      ((points.map Prod.snd).sum, points.flatMap fun point => utf8Bytes point.1) := by
  induction points generalizing room with
  | nil => rfl
  | cons point rest ih =>
    obtain ⟨c, units⟩ := point
    simp only [List.flatMap_cons, List.length_append] at fits
    simp only [encodeCodePoints, show (utf8Bytes c).length ≤ room by omega, if_true,
      ih (room - (utf8Bytes c).length) (by omega), List.map_cons, List.sum_cons,
      List.flatMap_cons]

theorem encodeInto_of_fits (s : JsString) {room : Nat} (fits : (textEncode s).length ≤ room) :
    encodeInto s room = (s.length, textEncode s) := by
  rw [textEncode_eq] at fits ⊢
  rw [encodeInto, encodeCodePoints_of_fits _ _ fits, codePoints_units]

section Decoder
variable (rest : List UInt8)

theorem decodeFrom_ascii (b : UInt8) (ascii : b.toNat ≤ 0x7F) :
    decodeFrom .initial (b :: rest) = (decodeFrom .initial rest).map (b.toNat :: ·) := by
  simp [decodeFrom, decoderStep, DecoderState.initial, ascii]

theorem decodeFrom_lead2 (b : UInt8) (low : 0xC2 ≤ b.toNat) (high : b.toNat ≤ 0xDF) :
    decodeFrom .initial (b :: rest) = decodeFrom ⟨b.toNat % 0x20, 1, 0x80, 0xBF⟩ rest := by
  have : ¬b.toNat ≤ 0x7F := by omega
  simp [decodeFrom, decoderStep, DecoderState.initial, this, low, high]

theorem decodeFrom_lead3 (b : UInt8) (low : 0xE0 ≤ b.toNat) (high : b.toNat ≤ 0xEF) :
    decodeFrom .initial (b :: rest) = decodeFrom ⟨b.toNat % 0x10, 2,
      if b.toNat = 0xE0 then 0xA0 else 0x80, if b.toNat = 0xED then 0x9F else 0xBF⟩ rest := by
  have : ¬b.toNat ≤ 0x7F ∧ ¬(0xC2 ≤ b.toNat ∧ b.toNat ≤ 0xDF) := by omega
  simp [decodeFrom, decoderStep, DecoderState.initial, this, low, high]

theorem decodeFrom_lead4 (b : UInt8) (low : 0xF0 ≤ b.toNat) (high : b.toNat ≤ 0xF4) :
    decodeFrom .initial (b :: rest) = decodeFrom ⟨b.toNat % 0x08, 3,
      if b.toNat = 0xF0 then 0x90 else 0x80, if b.toNat = 0xF4 then 0x8F else 0xBF⟩ rest := by
  have : ¬b.toNat ≤ 0x7F ∧ ¬(0xC2 ≤ b.toNat ∧ b.toNat ≤ 0xDF) ∧
      ¬(0xE0 ≤ b.toNat ∧ b.toNat ≤ 0xEF) := by omega
  simp [decodeFrom, decoderStep, DecoderState.initial, this, low, high]

theorem decodeFrom_continue {cp k lower upper : Nat} (b : UInt8) (low : lower ≤ b.toNat)
    (high : b.toNat ≤ upper) :
    decodeFrom ⟨cp, k + 2, lower, upper⟩ (b :: rest) =
      decodeFrom ⟨cp * 0x40 + b.toNat % 0x40, k + 1, 0x80, 0xBF⟩ rest := by
  have : ¬(b.toNat < lower ∨ upper < b.toNat) := by omega
  simp [decodeFrom, decoderStep, this]

theorem decodeFrom_last {cp lower upper : Nat} (b : UInt8) (low : lower ≤ b.toNat)
    (high : b.toNat ≤ upper) :
    decodeFrom ⟨cp, 1, lower, upper⟩ (b :: rest) =
      (decodeFrom .initial rest).map ((cp * 0x40 + b.toNat % 0x40) :: ·) := by
  have : ¬(b.toNat < lower ∨ upper < b.toNat) := by omega
  simp [decodeFrom, decoderStep, this]

end Decoder

theorem toUInt8_toNat {n : Nat} (small : n < 0x100) : n.toUInt8.toNat = n :=
  UInt8.toNat_ofNat_of_lt small

theorem toNat_toUInt8 (b : UInt8) : b.toNat.toUInt8 = b :=
  UInt8.toNat.inj (toUInt8_toNat b.toNat_lt_size)

theorem continuation_mod {x : Nat} (small : x < 0x40) : (0x80 + x) % 0x40 = x := by omega

theorem digits_three (n : Nat) :
    (n / 0x1000 * 0x40 + n / 0x40 % 0x40) * 0x40 + n % 0x40 = n := by omega

theorem digits_four (n : Nat) :
    ((n / 0x40000 * 0x40 + n / 0x1000 % 0x40) * 0x40 + n / 0x40 % 0x40) * 0x40 + n % 0x40 = n := by
  omega

theorem decodeFrom_utf8Bytes_append (c : ScalarValue) (rest : List UInt8) :
    decodeFrom .initial (utf8Bytes c ++ rest) = (decodeFrom .initial rest).map (c.val :: ·) := by
  obtain ⟨n, valid⟩ := c
  have last := toUInt8_toNat (show 0x80 + n % 0x40 < 0x100 by omega)
  unfold utf8Bytes
  dsimp only
  split
  · have only := toUInt8_toNat (show n < 0x100 by omega)
    rw [List.cons_append, List.nil_append, decodeFrom_ascii _ _ (by omega), only]
  split
  · have lead := toUInt8_toNat (show 0xC0 + n / 0x40 < 0x100 by omega)
    rw [List.cons_append, decodeFrom_lead2 _ (0xC0 + n / 0x40).toUInt8 (by omega) (by omega),
      List.cons_append, List.nil_append,
      decodeFrom_last _ (0x80 + n % 0x40).toUInt8 (by omega) (by omega)]
    congr 1; funext l; rw [lead, last]; congr 1; omega
  split
  · have lead := toUInt8_toNat (show 0xE0 + n / 0x1000 < 0x100 by omega)
    have second := toUInt8_toNat (show 0x80 + n / 0x40 % 0x40 < 0x100 by omega)
    rw [List.cons_append, decodeFrom_lead3 _ (0xE0 + n / 0x1000).toUInt8 (by omega) (by omega),
      List.cons_append, decodeFrom_continue _ (0x80 + n / 0x40 % 0x40).toUInt8
        (by rw [lead, second]; split <;> omega) (by rw [lead, second]; split <;> omega),
      List.cons_append, List.nil_append,
      decodeFrom_last _ (0x80 + n % 0x40).toUInt8 (by omega) (by omega)]
    congr 1; funext l
    rw [lead, second, last, continuation_mod (Nat.mod_lt _ (by decide)),
      continuation_mod (Nat.mod_lt _ (by decide)),
      show (0xE0 + n / 0x1000) % 0x10 = n / 0x1000 by omega, digits_three]
  · have lead := toUInt8_toNat (show 0xF0 + n / 0x40000 < 0x100 by omega)
    have second := toUInt8_toNat (show 0x80 + n / 0x1000 % 0x40 < 0x100 by omega)
    have third := toUInt8_toNat (show 0x80 + n / 0x40 % 0x40 < 0x100 by omega)
    rw [List.cons_append, decodeFrom_lead4 _ (0xF0 + n / 0x40000).toUInt8 (by omega) (by omega),
      List.cons_append, decodeFrom_continue _ (0x80 + n / 0x1000 % 0x40).toUInt8
        (by rw [lead, second]; split <;> omega) (by rw [lead, second]; split <;> omega),
      List.cons_append, decodeFrom_continue _ (0x80 + n / 0x40 % 0x40).toUInt8
        (by omega) (by omega),
      List.cons_append, List.nil_append,
      decodeFrom_last _ (0x80 + n % 0x40).toUInt8 (by omega) (by omega)]
    congr 1; funext l
    rw [lead, second, third, last, continuation_mod (Nat.mod_lt _ (by decide)),
      continuation_mod (Nat.mod_lt _ (by decide)), continuation_mod (Nat.mod_lt _ (by decide)),
      show (0xF0 + n / 0x40000) % 0x08 = n / 0x40000 by omega, digits_four]

theorem decodeFrom_flatMap_utf8Bytes (cs : List ScalarValue) :
    decodeFrom .initial (cs.flatMap utf8Bytes) = some (cs.map ScalarValue.val) := by
  induction cs with
  | nil => rfl
  | cons c cs ih => rw [List.flatMap_cons, decodeFrom_utf8Bytes_append, ih]; rfl

/-- What `TextEncoder` encodes, `TextDecoder` gives back, for a string without lone surrogates. -/
theorem textDecode_textEncode {s : JsString} (wellFormed : isWellFormed s = true) :
    textDecode (textEncode s) = .ok s := by
  rw [textDecode, textEncode, decodeFrom_flatMap_utf8Bytes]
  dsimp only
  rw [List.flatMap_map]
  exact congrArg Except.ok (ofScalarValues_toScalarValues wellFormed)

section DecoderInversion
variable {cp lower upper : Nat} {bytes : List UInt8} {cps : List Nat}

theorem decodeFrom_last_inv (decoded : decodeFrom ⟨cp, 1, lower, upper⟩ bytes = some cps) :
    ∃ b rest tail, bytes = b :: rest ∧ lower ≤ b.toNat ∧ b.toNat ≤ upper ∧
      decodeFrom .initial rest = some tail ∧ cps = (cp * 0x40 + b.toNat % 0x40) :: tail := by
  cases bytes with
  | nil => simp [decodeFrom] at decoded
  | cons b rest =>
    by_cases inside : lower ≤ b.toNat ∧ b.toNat ≤ upper
    · rw [decodeFrom_last rest b inside.1 inside.2, Option.map_eq_some'] at decoded
      obtain ⟨tail, decodedRest, rfl⟩ := decoded
      exact ⟨b, rest, tail, rfl, inside.1, inside.2, decodedRest, rfl⟩
    · have outside : b.toNat < lower ∨ upper < b.toNat := by omega
      simp [decodeFrom, decoderStep, outside] at decoded

theorem decodeFrom_continue_inv {k : Nat}
    (decoded : decodeFrom ⟨cp, k + 2, lower, upper⟩ bytes = some cps) :
    ∃ b rest, bytes = b :: rest ∧ lower ≤ b.toNat ∧ b.toNat ≤ upper ∧
      decodeFrom ⟨cp * 0x40 + b.toNat % 0x40, k + 1, 0x80, 0xBF⟩ rest = some cps := by
  cases bytes with
  | nil => simp [decodeFrom] at decoded
  | cons b rest =>
    by_cases inside : lower ≤ b.toNat ∧ b.toNat ≤ upper
    · rw [decodeFrom_continue rest b inside.1 inside.2] at decoded
      exact ⟨b, rest, rfl, inside.1, inside.2, decoded⟩
    · have outside : b.toNat < lower ∨ upper < b.toNat := by omega
      simp [decodeFrom, decoderStep, outside] at decoded

section Bytes
variable (c : ScalarValue) (b1 b2 b3 b4 : UInt8)

theorem utf8Bytes_one (ascii : c.val < 0x80) (first : b1.toNat = c.val) : utf8Bytes c = [b1] := by
  simp only [utf8Bytes, if_pos ascii]
  rw [← first, toNat_toUInt8]

theorem utf8Bytes_two (low : 0x80 ≤ c.val) (high : c.val < 0x800)
    (first : b1.toNat = 0xC0 + c.val / 0x40) (second : b2.toNat = 0x80 + c.val % 0x40) :
    utf8Bytes c = [b1, b2] := by
  simp only [utf8Bytes, if_neg (show ¬c.val < 0x80 by omega), if_pos high, ← first, ← second,
    toNat_toUInt8]

theorem utf8Bytes_three (low : 0x800 ≤ c.val) (high : c.val < 0x10000)
    (first : b1.toNat = 0xE0 + c.val / 0x1000) (second : b2.toNat = 0x80 + c.val / 0x40 % 0x40)
    (third : b3.toNat = 0x80 + c.val % 0x40) : utf8Bytes c = [b1, b2, b3] := by
  simp only [utf8Bytes, if_neg (show ¬c.val < 0x80 by omega), if_neg (show ¬c.val < 0x800 by omega),
    if_pos high, ← first, ← second, ← third, toNat_toUInt8]

theorem utf8Bytes_four (low : 0x10000 ≤ c.val) (first : b1.toNat = 0xF0 + c.val / 0x40000)
    (second : b2.toNat = 0x80 + c.val / 0x1000 % 0x40)
    (third : b3.toNat = 0x80 + c.val / 0x40 % 0x40)
    (fourth : b4.toNat = 0x80 + c.val % 0x40) : utf8Bytes c = [b1, b2, b3, b4] := by
  simp only [utf8Bytes, if_neg (show ¬c.val < 0x80 by omega), if_neg (show ¬c.val < 0x800 by omega),
    if_neg (show ¬c.val < 0x10000 by omega), ← first, ← second, ← third, ← fourth, toNat_toUInt8]

end Bytes

section Accepted
variable {b1 b2 b3 b4 : UInt8} (cont3 : 0x80 ≤ b3.toNat ∧ b3.toNat ≤ 0xBF)
  (cont4 : 0x80 ≤ b4.toNat ∧ b4.toNat ≤ 0xBF)

theorem utf8Bytes_of_accepted_two (lead : 0xC2 ≤ b1.toNat ∧ b1.toNat ≤ 0xDF)
    (cont2 : 0x80 ≤ b2.toNat ∧ b2.toNat ≤ 0xBF) :
    ∃ c : ScalarValue, c.val = b1.toNat % 0x20 * 0x40 + b2.toNat % 0x40 ∧ utf8Bytes c = [b1, b2] :=
  have arith : 0x80 ≤ b1.toNat % 0x20 * 0x40 + b2.toNat % 0x40 ∧
      b1.toNat % 0x20 * 0x40 + b2.toNat % 0x40 < 0x800 ∧
      b1.toNat = 0xC0 + (b1.toNat % 0x20 * 0x40 + b2.toNat % 0x40) / 0x40 ∧
      b2.toNat = 0x80 + (b1.toNat % 0x20 * 0x40 + b2.toNat % 0x40) % 0x40 := by omega
  ⟨⟨_, by omega⟩, rfl, utf8Bytes_two _ b1 b2 arith.1 arith.2.1 arith.2.2.1 arith.2.2.2⟩

include cont3 in
theorem utf8Bytes_of_accepted_three (lead : 0xE0 ≤ b1.toNat ∧ b1.toNat ≤ 0xEF)
    (cont2 : 0x80 ≤ b2.toNat ∧ b2.toNat ≤ 0xBF ∧ (b1.toNat ≠ 0xE0 ∨ 0xA0 ≤ b2.toNat) ∧
      (b1.toNat ≠ 0xED ∨ b2.toNat ≤ 0x9F)) :
    ∃ c : ScalarValue, c.val = (b1.toNat % 0x10 * 0x40 + b2.toNat % 0x40) * 0x40 + b3.toNat % 0x40 ∧
      utf8Bytes c = [b1, b2, b3] := by
  generalize point : (b1.toNat % 0x10 * 0x40 + b2.toNat % 0x40) * 0x40 + b3.toNat % 0x40 = n
  have arith : (n < 0xD800 ∨ 0xDFFF < n ∧ n < 0x110000) ∧ 0x800 ≤ n ∧ n < 0x10000 ∧
      b1.toNat = 0xE0 + n / 0x1000 ∧ b2.toNat = 0x80 + n / 0x40 % 0x40 ∧
      b3.toNat = 0x80 + n % 0x40 := by omega
  exact ⟨⟨n, arith.1⟩, rfl, utf8Bytes_three _ b1 b2 b3 arith.2.1 arith.2.2.1 arith.2.2.2.1
    arith.2.2.2.2.1 arith.2.2.2.2.2⟩

include cont3 cont4 in
theorem utf8Bytes_of_accepted_four (lead : 0xF0 ≤ b1.toNat ∧ b1.toNat ≤ 0xF4)
    (cont2 : 0x80 ≤ b2.toNat ∧ b2.toNat ≤ 0xBF ∧ (b1.toNat ≠ 0xF0 ∨ 0x90 ≤ b2.toNat) ∧
      (b1.toNat ≠ 0xF4 ∨ b2.toNat ≤ 0x8F)) :
    ∃ c : ScalarValue,
      c.val = ((b1.toNat % 0x08 * 0x40 + b2.toNat % 0x40) * 0x40 + b3.toNat % 0x40) * 0x40 +
        b4.toNat % 0x40 ∧ utf8Bytes c = [b1, b2, b3, b4] := by
  generalize point : ((b1.toNat % 0x08 * 0x40 + b2.toNat % 0x40) * 0x40 + b3.toNat % 0x40) * 0x40 +
    b4.toNat % 0x40 = n
  have arith : (n < 0xD800 ∨ 0xDFFF < n ∧ n < 0x110000) ∧ 0x10000 ≤ n ∧
      b1.toNat = 0xF0 + n / 0x40000 ∧ b2.toNat = 0x80 + n / 0x1000 % 0x40 ∧
      b3.toNat = 0x80 + n / 0x40 % 0x40 ∧ b4.toNat = 0x80 + n % 0x40 := by omega
  exact ⟨⟨n, arith.1⟩, rfl, utf8Bytes_four _ b1 b2 b3 b4 arith.2.1 arith.2.2.1 arith.2.2.2.1
    arith.2.2.2.2.1 arith.2.2.2.2.2⟩

end Accepted

theorem decodeFrom_initial_inv {b : UInt8} {rest : List UInt8}
    (decoded : decodeFrom .initial (b :: rest) = some cps) :
    ∃ c suffix tail, b :: rest = utf8Bytes c ++ suffix ∧
      decodeFrom .initial suffix = some tail ∧ cps = c.val :: tail := by
  by_cases ascii : b.toNat ≤ 0x7F
  · rw [decodeFrom_ascii rest b ascii, Option.map_eq_some'] at decoded
    obtain ⟨tail, decodedRest, rfl⟩ := decoded
    refine ⟨⟨b.toNat, by omega⟩, rest, tail, ?_, decodedRest, rfl⟩
    rw [utf8Bytes_one _ b (show b.toNat < 0x80 by omega) rfl]; rfl
  by_cases two : 0xC2 ≤ b.toNat ∧ b.toNat ≤ 0xDF
  · rw [decodeFrom_lead2 rest b two.1 two.2] at decoded
    obtain ⟨b2, rest, tail, rfl, low2, high2, decodedRest, rfl⟩ := decodeFrom_last_inv decoded
    obtain ⟨c, point, bytes⟩ := utf8Bytes_of_accepted_two two ⟨low2, high2⟩
    exact ⟨c, rest, tail, by rw [bytes]; rfl, decodedRest, by rw [point]⟩
  by_cases three : 0xE0 ≤ b.toNat ∧ b.toNat ≤ 0xEF
  · rw [decodeFrom_lead3 rest b three.1 three.2] at decoded
    obtain ⟨b2, rest, rfl, low2, high2, decoded⟩ := decodeFrom_continue_inv decoded
    obtain ⟨b3, rest, tail, rfl, low3, high3, decodedRest, rfl⟩ := decodeFrom_last_inv decoded
    have second : 0x80 ≤ b2.toNat ∧ b2.toNat ≤ 0xBF ∧ (b.toNat ≠ 0xE0 ∨ 0xA0 ≤ b2.toNat) ∧
        (b.toNat ≠ 0xED ∨ b2.toNat ≤ 0x9F) := by
      split at low2 <;> split at high2 <;> omega
    obtain ⟨c, point, bytes⟩ := utf8Bytes_of_accepted_three ⟨low3, high3⟩ three second
    exact ⟨c, rest, tail, by rw [bytes]; rfl, decodedRest, by rw [point]⟩
  by_cases four : 0xF0 ≤ b.toNat ∧ b.toNat ≤ 0xF4
  · rw [decodeFrom_lead4 rest b four.1 four.2] at decoded
    obtain ⟨b2, rest, rfl, low2, high2, decoded⟩ := decodeFrom_continue_inv decoded
    obtain ⟨b3, rest, rfl, low3, high3, decoded⟩ := decodeFrom_continue_inv decoded
    obtain ⟨b4, rest, tail, rfl, low4, high4, decodedRest, rfl⟩ := decodeFrom_last_inv decoded
    have second : 0x80 ≤ b2.toNat ∧ b2.toNat ≤ 0xBF ∧ (b.toNat ≠ 0xF0 ∨ 0x90 ≤ b2.toNat) ∧
        (b.toNat ≠ 0xF4 ∨ b2.toNat ≤ 0x8F) := by
      split at low2 <;> split at high2 <;> omega
    obtain ⟨c, point, bytes⟩ :=
      utf8Bytes_of_accepted_four ⟨low3, high3⟩ ⟨low4, high4⟩ four second
    exact ⟨c, rest, tail, by rw [bytes]; rfl, decodedRest, by rw [point]⟩
  · simp [decodeFrom, decoderStep, DecoderState.initial, ascii, two, three, four] at decoded

end DecoderInversion

theorem length_utf8Bytes_pos (c : ScalarValue) : 0 < (utf8Bytes c).length := by
  unfold utf8Bytes; dsimp only; split_ifs <;> simp

/-- What the decoder accepts is UTF-8: the encoding of the scalar values it returns. -/
theorem decodeFrom_sound {bytes : List UInt8} {cps : List Nat}
    (decoded : decodeFrom .initial bytes = some cps) :
    ∃ cs : List ScalarValue, bytes = cs.flatMap utf8Bytes ∧ cps = cs.map ScalarValue.val := by
  obtain ⟨len, length⟩ : ∃ len, bytes.length = len := ⟨_, rfl⟩
  induction len using Nat.strong_induction_on generalizing bytes cps with
  | _ len ih =>
    cases bytes with
    | nil => exact ⟨[], rfl, by simpa [decodeFrom, DecoderState.initial, eq_comm] using decoded⟩
    | cons b rest =>
      obtain ⟨c, suffix, tail, split, decodedSuffix, rfl⟩ := decodeFrom_initial_inv decoded
      have shorter : suffix.length < len := by
        have := length_utf8Bytes_pos c
        rw [← length, split, List.length_append]; omega
      obtain ⟨cs, rfl, rfl⟩ := ih _ shorter decodedSuffix rfl
      exact ⟨c :: cs, split, rfl⟩

/-- The fatal decoder accepts exactly the UTF-8 of the strings without lone surrogates, and
gives back that string. -/
theorem textDecode_eq_ok_iff (bytes : List UInt8) (s : JsString) :
    textDecode bytes = .ok s ↔ bytes = textEncode s ∧ isWellFormed s = true := by
  constructor
  · intro decoded
    cases result : decodeFrom .initial bytes with
    | none => simp [textDecode, result] at decoded
    | some cps =>
      simp only [textDecode, result, Except.ok.injEq] at decoded
      obtain ⟨cs, rfl, rfl⟩ := decodeFrom_sound result
      have made : s = ofScalarValues cs := by rw [← decoded, List.flatMap_map]; rfl
      subst made
      exact ⟨by rw [textEncode, toScalarValues_ofScalarValues], isWellFormed_ofScalarValues cs⟩
  · rintro ⟨rfl, wellFormed⟩
    exact textDecode_textEncode wellFormed

end ShinkaiWasmGlue
