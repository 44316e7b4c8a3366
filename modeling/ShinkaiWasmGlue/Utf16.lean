import Mathlib.Algebra.Order.Ring.Nat
import ShinkaiWasmGlue.JsValue

/-!
UTF-16 code units, as JS strings hold them, and Unicode scalar values. `codePoints` is the
Encoding Standard's conversion of a JS string to a scalar value string, which both
`TextEncoder.prototype.encode` and `encodeInto` perform: a high surrogate followed by a low
one is one code point, and every other surrogate becomes U+FFFD. `ofScalarValues` is the
UTF-16 form `TextDecoder` hands back to JS. On a string without lone surrogates the two are
inverse.
-/

namespace ShinkaiWasmGlue

/-- A Unicode scalar value: a code point that is not a surrogate. -/
@[ext] structure ScalarValue where
  val : Nat
  valid : val < 0xD800 ∨ 0xDFFF < val ∧ val < 0x110000
  deriving DecidableEq

/-- U+FFFD REPLACEMENT CHARACTER. -/
def replacementCharacter : ScalarValue := ⟨0xFFFD, by decide⟩

def IsSurrogate (u : UInt16) : Prop := 0xD800 ≤ u.toNat ∧ u.toNat ≤ 0xDFFF

def IsHighSurrogate (u : UInt16) : Prop := 0xD800 ≤ u.toNat ∧ u.toNat ≤ 0xDBFF

def IsLowSurrogate (u : UInt16) : Prop := 0xDC00 ≤ u.toNat ∧ u.toNat ≤ 0xDFFF

instance (u : UInt16) : Decidable (IsSurrogate u) := inferInstanceAs (Decidable (_ ∧ _))
instance (u : UInt16) : Decidable (IsHighSurrogate u) := inferInstanceAs (Decidable (_ ∧ _))
instance (u : UInt16) : Decidable (IsLowSurrogate u) := inferInstanceAs (Decidable (_ ∧ _))

theorem UInt16.toNat_lt (u : UInt16) : u.toNat < 0x10000 := u.toNat_lt_size

/-- A code unit on its own: itself, unless it is a surrogate. -/
def unitScalar (u : UInt16) : ScalarValue :=
  if h : IsSurrogate u then replacementCharacter
  else ⟨u.toNat, by have := UInt16.toNat_lt u; unfold IsSurrogate at h; omega⟩

/-- The code point a surrogate pair stands for. -/
def pairScalar (hi lo : UInt16) (pair : IsHighSurrogate hi ∧ IsLowSurrogate lo) : ScalarValue :=
  ⟨0x10000 + (hi.toNat - 0xD800) * 0x400 + (lo.toNat - 0xDC00), by
    obtain ⟨⟨_, _⟩, _, _⟩ := pair; omega⟩

/-- The code points of a JS string, each with the number of code units it takes. -/
def codePoints : JsString → List (ScalarValue × Nat)
  | [] => []
  | [u] => [(unitScalar u, 1)]
  | u :: v :: rest =>
    if pair : IsHighSurrogate u ∧ IsLowSurrogate v then (pairScalar u v pair, 2) :: codePoints rest
    else (unitScalar u, 1) :: codePoints (v :: rest)

def toScalarValues (s : JsString) : List ScalarValue := (codePoints s).map Prod.fst

/-- The UTF-16 code units of a code point: itself below U+10000, a surrogate pair above. -/
def codePointUnits (n : Nat) : JsString :=
  if n < 0x10000 then [n.toUInt16]
  else [(0xD800 + (n - 0x10000) / 0x400).toUInt16, (0xDC00 + (n - 0x10000) % 0x400).toUInt16]

def scalarUnits (c : ScalarValue) : JsString := codePointUnits c.val

def ofScalarValues (cs : List ScalarValue) : JsString := cs.flatMap scalarUnits

/-- The JS string of a Lean string literal. -/
def JsString.ofString (s : String) : JsString :=
  ofScalarValues (s.data.map fun c => ⟨c.toNat, c.valid⟩)

/-- `String.prototype.isWellFormed`: no lone surrogate. -/
def isWellFormed : JsString → Bool
  | [] => true
  | [u] => !decide (IsSurrogate u)
  | u :: v :: rest =>
    if IsHighSurrogate u ∧ IsLowSurrogate v then isWellFormed rest
    else !decide (IsSurrogate u) && isWellFormed (v :: rest)

theorem codePoints_units (s : JsString) : ((codePoints s).map Prod.snd).sum = s.length := by
  induction s using codePoints.induct with
  | case1 => rfl
  | case2 u => rfl
  | case3 u v rest pair ih => simp [codePoints, pair, ih]; omega
  | case4 u v rest pair ih => simp only [codePoints, pair] at ih ⊢; simp [ih]; omega

theorem codePoints_cons_of_not_high {u : UInt16} (single : ¬IsHighSurrogate u) (rest : JsString) :
    codePoints (u :: rest) = (unitScalar u, 1) :: codePoints rest := by
  cases rest with
  | nil => rfl
  | cons v rest => simp [codePoints, single]

theorem unitScalar_of_not_surrogate {u : UInt16} (plain : ¬IsSurrogate u) :
    (unitScalar u).val = u.toNat := by
  simp [unitScalar, plain]

theorem toUInt16_toNat (u : UInt16) : u.toNat.toUInt16 = u :=
  UInt16.toNat.inj (UInt16.toNat_ofNat_of_lt (UInt16.toNat_lt u))

theorem codePoints_scalarUnits_append (c : ScalarValue) (rest : JsString) :
    codePoints (scalarUnits c ++ rest) = (c, (scalarUnits c).length) :: codePoints rest := by
  obtain ⟨n, valid⟩ := c
  unfold scalarUnits codePointUnits
  dsimp only
  split
  · rename_i bmp
    have unit : (n.toUInt16).toNat = n := UInt16.toNat_ofNat_of_lt bmp
    have plain : ¬IsSurrogate n.toUInt16 := by unfold IsSurrogate; omega
    have same : unitScalar n.toUInt16 = ⟨n, valid⟩ := ScalarValue.ext (by
      rw [unitScalar_of_not_surrogate plain, unit])
    cases rest with
    | nil => simp [codePoints, same]
    | cons v rest =>
      have single : ¬(IsHighSurrogate n.toUInt16 ∧ IsLowSurrogate v) := by
        unfold IsHighSurrogate; omega
      simp [codePoints, single, same]
  · rename_i astral
    have high : (0xD800 + (n - 0x10000) / 0x400).toUInt16.toNat = 0xD800 + (n - 0x10000) / 0x400 :=
      UInt16.toNat_ofNat_of_lt (show _ < 65536 by omega)
    have low : (0xDC00 + (n - 0x10000) % 0x400).toUInt16.toNat = 0xDC00 + (n - 0x10000) % 0x400 :=
      UInt16.toNat_ofNat_of_lt (show _ < 65536 by omega)
    have pair : IsHighSurrogate (0xD800 + (n - 0x10000) / 0x400).toUInt16 ∧
        IsLowSurrogate (0xDC00 + (n - 0x10000) % 0x400).toUInt16 := by
      unfold IsHighSurrogate IsLowSurrogate; rw [high, low]; omega
    simp only [List.cons_append, List.nil_append, codePoints, pair, dite_true, List.length_cons,
      List.length_nil, List.cons.injEq, Prod.mk.injEq, and_true]
    exact ⟨ScalarValue.ext (by simp only [pairScalar, high, low]; omega), rfl⟩

theorem toScalarValues_ofScalarValues (cs : List ScalarValue) :
    toScalarValues (ofScalarValues cs) = cs := by
  induction cs with
  | nil => rfl
  | cons c cs ih =>
    simp only [toScalarValues, ofScalarValues, List.flatMap_cons] at ih ⊢
    rw [codePoints_scalarUnits_append, List.map_cons, ih]

theorem scalarUnits_unitScalar {u : UInt16} (plain : ¬IsSurrogate u) :
    scalarUnits (unitScalar u) = [u] := by
  have bmp := UInt16.toNat_lt u
  simp [scalarUnits, codePointUnits, unitScalar_of_not_surrogate plain, bmp, toUInt16_toNat]

theorem scalarUnits_pairScalar {hi lo : UInt16} (pair : IsHighSurrogate hi ∧ IsLowSurrogate lo) :
    scalarUnits (pairScalar hi lo pair) = [hi, lo] := by
  obtain ⟨⟨_, _⟩, _, _⟩ := pair
  have astral : ¬(0x10000 + (hi.toNat - 0xD800) * 0x400 + (lo.toNat - 0xDC00) < 0x10000) := by
    omega
  simp only [scalarUnits, codePointUnits, pairScalar, astral, if_false, List.cons.injEq, and_true]
  constructor <;> apply UInt16.toNat.inj <;> rw [UInt16.toNat_ofNat_of_lt (show _ < 65536 by omega)]
    <;> omega

theorem isWellFormed_scalarUnits_append (c : ScalarValue) (rest : JsString) :
    isWellFormed (scalarUnits c ++ rest) = isWellFormed rest := by
  obtain ⟨n, valid⟩ := c
  unfold scalarUnits codePointUnits
  dsimp only
  split
  · rename_i bmp
    have plain : ¬IsSurrogate n.toUInt16 := by
      unfold IsSurrogate; rw [UInt16.toNat_ofNat_of_lt bmp]; omega
    cases rest with
    | nil => simp [isWellFormed, plain]
    | cons v rest =>
      have single : ¬(IsHighSurrogate n.toUInt16 ∧ IsLowSurrogate v) :=
        fun pair => plain ⟨pair.1.1, by have := pair.1.2; omega⟩
      simp [isWellFormed, single, plain]
  · rename_i astral
    have pair : IsHighSurrogate (0xD800 + (n - 0x10000) / 0x400).toUInt16 ∧
        IsLowSurrogate (0xDC00 + (n - 0x10000) % 0x400).toUInt16 := by
      unfold IsHighSurrogate IsLowSurrogate
      rw [UInt16.toNat_ofNat_of_lt (show _ < 65536 by omega),
        UInt16.toNat_ofNat_of_lt (show _ < 65536 by omega)]
      omega
    simp [isWellFormed, pair]

theorem isWellFormed_ofScalarValues (cs : List ScalarValue) :
    isWellFormed (ofScalarValues cs) = true := by
  induction cs with
  | nil => rfl
  | cons c cs ih =>
    rw [ofScalarValues, List.flatMap_cons, isWellFormed_scalarUnits_append]; exact ih

theorem ofScalarValues_toScalarValues {s : JsString} (wellFormed : isWellFormed s = true) :
    ofScalarValues (toScalarValues s) = s := by
  induction s using codePoints.induct with
  | case1 => rfl
  | case2 u =>
    simp only [isWellFormed, Bool.not_eq_true', decide_eq_false_iff_not] at wellFormed
    simp [toScalarValues, ofScalarValues, codePoints, scalarUnits_unitScalar wellFormed]
  | case3 u v rest pair ih =>
    simp only [isWellFormed, pair, and_self, ite_true] at wellFormed
    simpa [toScalarValues, ofScalarValues, codePoints, pair, scalarUnits_pairScalar pair] using
      ih wellFormed
  | case4 u v rest pair ih =>
    simp only [isWellFormed, pair, if_false, Bool.and_eq_true, Bool.not_eq_true',
      decide_eq_false_iff_not] at wellFormed
    have tail := ih wellFormed.2
    simp only [toScalarValues, ofScalarValues] at tail ⊢
    rw [codePoints, dif_neg pair, List.map_cons, List.flatMap_cons, tail,
      scalarUnits_unitScalar wellFormed.1]
    rfl

end ShinkaiWasmGlue
