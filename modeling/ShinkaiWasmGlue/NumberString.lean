import Mathlib.Data.Nat.Digits
import ShinkaiWasmGlue.Utf16

/-!
How JS prints a number: `${val}` of a Number is `Number::toString(val, 10)`. A model number `n`
stands for `𝔽(n)`, the double nearest to it, as the literal `n` would in JS. JS prints a double
that is an integer through the shortest significand `s` with `𝔽(s × 10^e) = 𝔽(n)`, the closest
to it of those and then the even one, as ECMA-262 recommends and engines do: in decimal while
`s × 10^e < 10^21`, and from there on as `d.ddde+N`. Below 2^53 in magnitude every integer is a
double and JS prints its decimal digits (`numberString_of_natAbs_lt`).
-/

namespace ShinkaiWasmGlue

/-- The number of binary digits of `m`, counting down `fuel`; `m` is fuel enough. -/
def bitLength : Nat → Nat → Nat
  | 0, _ => 0
  | fuel + 1, m => if m = 0 then 0 else bitLength fuel (m / 2) + 1

/-- `𝔽(m)`: `m` rounded to 53 significant bits, ties to an even significand, as the integer
it is; `none` where that is `+∞`. -/
def toDouble (m : Nat) : Option Nat :=
  let shift := bitLength m m - 53
  let q := m >>> shift
  let r := m - q <<< shift
  let rounded := if 1 <<< shift < 2 * r ∨ (2 * r = 1 <<< shift ∧ q % 2 = 1) then q + 1 else q
  if bitLength rounded rounded + shift ≤ 1024 then some (rounded <<< shift) else none

/-- Of `s × 10^e` and `t × 10^e` on either side of `x`, the closer significand; the even one
on a tie. -/
def nearer (x e s t : Nat) : Nat :=
  if x - s * 10 ^ e < t * 10 ^ e - x ∨ (x - s * 10 ^ e = t * 10 ^ e - x ∧ s % 2 = 0) then s else t

/-- The shortest significand and its exponent for the double `x`, trying exponents from `e`
down: at each, the multiples of `10^e` just below and above `x` that round to it. -/
def shortest (x : Nat) : Nat → Nat × Nat
  | 0 => (x, 0)
  | e + 1 =>
    let lo := x / 10 ^ (e + 1)
    let fits := fun s => 0 < s ∧ toDouble (s * 10 ^ (e + 1)) = some x
    if fits lo then
      if fits (lo + 1) then (nearer x (e + 1) lo (lo + 1), e + 1) else (lo, e + 1)
    else if fits (lo + 1) then (lo + 1, e + 1) else shortest x e

/-- `Number::toString` of a positive double `x` that is an integer. -/
def doubleString (x : Nat) : List Char :=
  let (s, e) := shortest x (Nat.toDigits 10 x).length
  let digits := Nat.toDigits 10 s
  if digits.length + e ≤ 21 then Nat.toDigits 10 (s * 10 ^ e)
  else digits.take 1 ++ (if digits.length = 1 then [] else '.' :: digits.drop 1) ++
    ['e', '+'] ++ Nat.toDigits 10 (digits.length + e - 1)

/-- `${val}` of the number `n` stands for. -/
def numberString (n : Int) : JsString :=
  JsString.ofString ⟨(if n < 0 then ['-'] else []) ++
    if n = 0 then ['0'] else match toDouble n.natAbs with
      | none => "Infinity".data
      | some x => doubleString x⟩

section BitLength

theorem lt_two_pow_bitLength : ∀ (fuel m : Nat), m ≤ fuel → m < 2 ^ bitLength fuel m
  | 0, m, small => by simp only [bitLength]; omega
  | fuel + 1, m, small => by
    by_cases zero : m = 0
    · simp [bitLength, zero]
    · have half := lt_two_pow_bitLength fuel (m / 2) (by omega)
      rw [bitLength, if_neg zero, Nat.pow_succ]
      omega

theorem two_pow_bitLength_le : ∀ (fuel m : Nat), 0 < m → 2 ^ bitLength fuel m ≤ 2 * m
  | 0, m, pos => by simp only [bitLength]; omega
  | fuel + 1, m, pos => by
    by_cases one : m = 1
    · subst one; cases fuel <;> simp [bitLength]
    · have half := two_pow_bitLength_le fuel (m / 2) (by omega)
      rw [bitLength, if_neg (by omega), Nat.pow_succ]
      omega

theorem bitLength_le : ∀ (fuel : Nat) {m k : Nat}, m < 2 ^ k → bitLength fuel m ≤ k
  | 0, _, _, _ => Nat.zero_le _
  | fuel + 1, m, k, small => by
    by_cases zero : m = 0
    · simp [bitLength, zero]
    · cases k with
      | zero => omega
      | succ k =>
        rw [Nat.pow_succ] at small
        rw [bitLength, if_neg zero]
        exact Nat.succ_le_succ (bitLength_le fuel (by omega))

end BitLength

theorem toDouble_of_lt {m : Nat} (small : m < 2 ^ 53) : toDouble m = some m := by
  have bits : bitLength m m - 53 = 0 := Nat.sub_eq_zero_of_le (bitLength_le m small)
  have few : bitLength m m ≤ 1024 := (bitLength_le m small).trans (by decide)
  simp [toDouble, bits, few]

/-- A double below 2^53 is the rounding of itself only. -/
theorem eq_of_toDouble {m x : Nat} (rounded : toDouble m = some x) (small : x < 2 ^ 53) :
    m = x := by
  by_cases exact : m < 2 ^ 53
  · rw [toDouble_of_lt exact] at rounded
    exact Option.some.inj rounded
  · have pos : 0 < m := by omega
    have long : 53 < bitLength m m := by
      have := lt_two_pow_bitLength m m le_rfl
      by_contra short
      exact exact (this.trans_le (Nat.pow_le_pow_right (by decide) (by omega)))
    obtain ⟨shift, bits⟩ : ∃ shift, bitLength m m = shift + 54 :=
      ⟨_, (Nat.sub_add_cancel long).symm⟩
    have high : 2 ^ 53 * 2 ^ shift ≤ m := by
      have := two_pow_bitLength_le m m pos
      rw [bits, show shift + 54 = (53 + shift) + 1 by omega, Nat.pow_succ, Nat.pow_add] at this
      omega
    have top : 2 ^ 52 ≤ m >>> (shift + 1) := by
      rw [Nat.shiftRight_eq_div_pow, Nat.le_div_iff_mul_le (Nat.two_pow_pos _), Nat.pow_succ]
      calc 2 ^ 52 * (2 ^ shift * 2) = 2 ^ 53 * 2 ^ shift := by ring
        _ ≤ m := high
    have big : ∀ q, m >>> (shift + 1) ≤ q → 2 ^ 53 ≤ q <<< (shift + 1) := fun q above => by
      rw [Nat.shiftLeft_eq]
      calc 2 ^ 53 = 2 ^ 52 * 2 ^ 1 := by norm_num
        _ ≤ q * 2 ^ (shift + 1) :=
          Nat.mul_le_mul (top.trans above) (Nat.pow_le_pow_right (by decide) (by omega))
    simp only [toDouble, bits, show shift + 54 - 53 = shift + 1 by omega] at rounded
    split_ifs at rounded <;> cases rounded <;> exact absurd small (not_lt.mpr (big _ (by omega)))

theorem shortest_rounds (x : Nat) : ∀ e,
    (shortest x e).1 * 10 ^ (shortest x e).2 = x ∨
      toDouble ((shortest x e).1 * 10 ^ (shortest x e).2) = some x
  | 0 => .inl (by simp [shortest])
  | e + 1 => by
    simp only [shortest]
    split_ifs with low high high
    · unfold nearer; split_ifs
      · exact .inr low.2
      · exact .inr high.2
    · exact .inr low.2
    · exact .inr high.2
    · exact shortest_rounds x e

theorem doubleString_of_lt {x : Nat} (pos : 0 < x) (small : x < 2 ^ 53) :
    doubleString x = Nat.toDigits 10 x := by
  have exact := (shortest_rounds x (Nat.toDigits 10 x).length).elim id
    fun rounded => eq_of_toDouble rounded small
  unfold doubleString
  generalize shortest x (Nat.toDigits 10 x).length = picked at exact
  obtain ⟨s, e⟩ := picked
  dsimp only at exact ⊢
  have few : e < 16 := by
    have : 10 ^ e ≤ x := exact ▸ Nat.le_mul_of_pos_left _ (Nat.pos_of_ne_zero fun zero => by
      rw [zero, Nat.zero_mul] at exact; omega)
    exact (Nat.pow_lt_pow_iff_right (by decide)).mp (this.trans_lt (small.trans (by decide)))
  have below : s * 10 ^ e < 10 ^ (16 - e) * 10 ^ e := by
    rw [← Nat.pow_add, Nat.sub_add_cancel few.le]
    omega
  have digits := Nat.toDigitsCore_length 10 (by decide) (s + 1) s (16 - e)
    (Nat.lt_of_mul_lt_mul_right below) (by omega)
  have fits : (Nat.toDigits 10 s).length + e ≤ 21 := by
    have : (Nat.toDigits 10 s).length ≤ 16 - e := digits
    omega
  simp only [if_pos fits, exact]

/-- Below 2^53 in magnitude JS prints an integer in decimal, as Lean does. -/
theorem numberString_of_natAbs_lt {n : Int} (small : n.natAbs < 2 ^ 53) :
    numberString n = JsString.ofString (toString n) := by
  cases n with
  | ofNat m =>
    cases m with
    | zero => rfl
    | succ m =>
      rw [Int.ofNat_eq_coe, Int.natAbs_ofNat] at small
      have pos : (m + 1 : Int) ≠ 0 := by omega
      simp only [numberString, Int.ofNat_eq_coe, Int.natAbs_ofNat, toDouble_of_lt small,
        doubleString_of_lt (Nat.succ_pos m) small, if_neg pos]
      rfl
  | negSucc m =>
    rw [Int.natAbs_negSucc] at small
    simp only [numberString, Int.natAbs_negSucc, toDouble_of_lt small,
      doubleString_of_lt (Nat.succ_pos m) small, if_pos (Int.negSucc_lt_zero m),
      if_neg (Int.negSucc_ne_zero m)]
    rfl

example : numberString (-42) = JsString.ofString "-42" := by decide

-- From 10^21 up JS switches to the exponent form.
example : numberString (10 ^ 21) = JsString.ofString "1e+21" := by decide

end ShinkaiWasmGlue
