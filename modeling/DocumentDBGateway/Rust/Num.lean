import Mathlib.Data.List.Basic
import Mathlib.Tactic.Ring
import Mathlib.Data.Nat.Digits

/-! Rust's integer text conversions as the gateway meets them: `from_str_radix` (behind
`TraceId::from_hex`, `SpanId::from_hex`, `u8::from_str_radix` and `u64::from_str`), the
zero-padded `{:0w$x}` formatting of ids and flags, and the `bool`/`f64` parsers, `f64::clamp`
and `Duration::as_secs_f64` that the configuration and metrics code call. -/

namespace DocumentDBGateway.Rust

/-- The digit `char::to_digit` reads in `c`: `0-9`, then `a-z` or `A-Z` from ten on; any other
character reads as 36, past every radix. -/
def digitValue (c : Char) : Nat :=
  let n := c.toNat
  if 48 ≤ n ∧ n ≤ 57 then n - 48
  else if 97 ≤ n ∧ n ≤ 122 then n - 87
  else if 65 ≤ n ∧ n ≤ 90 then n - 55
  else 36

/-- `char::to_digit` for a radix of at most 36. -/
def toDigit (radix : Nat) (c : Char) : Option Nat :=
  if digitValue c < radix then some (digitValue c) else none

/-- The digit loop of `from_str_radix`: each digit multiplies the value so far by the radix and
adds itself, and leaving the type's range is an overflow error. -/
def accumulate (radix bits : Nat) : List Char → Fin (2 ^ bits) → Option (Fin (2 ^ bits))
  | [], acc => some acc
  | c :: cs, acc =>
      (toDigit radix c).bind fun d =>
        if fits : acc.val * radix + d < 2 ^ bits then accumulate radix bits cs ⟨_, fits⟩ else none

/-- `from_str_radix` of an unsigned integer type of `bits` bits: an optional `+`, then at least
one digit; a `-` is an invalid digit for an unsigned type. -/
def fromStrRadix (radix bits : Nat) (src : List Char) : Option (Fin (2 ^ bits)) :=
  match src with
  | [] | ['+'] | ['-'] => none
  | '+' :: digits => accumulate radix bits digits ⟨0, Nat.two_pow_pos bits⟩
  | digits => accumulate radix bits digits ⟨0, Nat.two_pow_pos bits⟩

def digitFold (radix acc : Nat) (s : List Char) : Nat :=
  s.foldl (fun value c => value * radix + (toDigit radix c).getD 0) acc

def AllDigits (radix : Nat) (s : List Char) : Prop := ∀ c ∈ s, (toDigit radix c).isSome

def lowerHexDigits : List Char := "0123456789abcdef".data

def hexPad : Nat → Nat → List Char
  | 0, _ => []
  | width + 1, n => hexPad width (n / 16) ++ [Nat.digitChar (n % 16)]

/-- Rust's `{:0width$x}` of an unsigned integer: its lower-case hex digits (the digit loop of
`core::fmt` is `Nat.toDigits 16`), zero-padded on the left to `width`. -/
def fmtLowerHex (width n : Nat) : List Char :=
  List.replicate (width - (Nat.toDigits 16 n).length) '0' ++ Nat.toDigits 16 n

section Digits

theorem toDigit_digitChar : ∀ d, d < 16 → toDigit 16 (Nat.digitChar d) = some d := by decide

theorem digitChar_mem_lowerHexDigits : ∀ d, d < 16 → Nat.digitChar d ∈ lowerHexDigits := by decide

theorem lowerHexDigits_spec : ∀ c ∈ lowerHexDigits,
    (toDigit 16 c).isSome ∧ (toDigit 16 c).getD 0 < 16 ∧ Nat.digitChar ((toDigit 16 c).getD 0) = c := by
  decide

@[simp] theorem digitFold_nil (radix acc : Nat) : digitFold radix acc [] = acc := rfl

@[simp] theorem digitFold_cons (radix acc : Nat) (c : Char) (s : List Char) :
    digitFold radix acc (c :: s) = digitFold radix (acc * radix + (toDigit radix c).getD 0) s := rfl

theorem digitFold_append (radix acc : Nat) (s t : List Char) :
    digitFold radix acc (s ++ t) = digitFold radix (digitFold radix acc s) t :=
  List.foldl_append _ _ _ _

theorem le_digitFold {radix : Nat} (positive : 0 < radix) (acc : Nat) (s : List Char) :
    acc ≤ digitFold radix acc s := by
  induction s generalizing acc with
  | nil => exact le_refl acc
  | cons c cs ih =>
      exact le_trans (Nat.le_mul_of_pos_right acc positive) (le_trans (Nat.le_add_right _ _) (ih _))

end Digits

section Accumulate

variable {radix bits : Nat}

theorem accumulate_eq_some_iff (positive : 0 < radix) (s : List Char) (acc v : Fin (2 ^ bits)) :
    accumulate radix bits s acc = some v ↔ AllDigits radix s ∧ digitFold radix acc.val s = v.val := by
  induction s generalizing acc with
  | nil => simp [accumulate, AllDigits, Fin.ext_iff]
  | cons c cs ih =>
      cases digit : toDigit radix c with
      | none => simp [accumulate, AllDigits, digit]
      | some d =>
          by_cases fits : acc.val * radix + d < 2 ^ bits
          · simp [accumulate, AllDigits, digit, fits, ih]
          · have big := le_digitFold positive (acc.val * radix + d) cs
            have bound := v.isLt
            simp [accumulate, AllDigits, digit, fits]
            omega

theorem fromStrRadix_of_digits {s : List Char} (small : radix ≤ 36) (digits : AllDigits radix s)
    (nonempty : s ≠ []) :
    fromStrRadix radix bits s = accumulate radix bits s ⟨0, Nat.two_pow_pos bits⟩ := by
  have plus : toDigit radix '+' = none := by simp [toDigit, digitValue]; omega
  have minus : toDigit radix '-' = none := by simp [toDigit, digitValue]; omega
  obtain ⟨c, rest, rfl⟩ := List.exists_cons_of_ne_nil nonempty
  have digit := digits c (by simp)
  unfold fromStrRadix
  split <;> simp_all

theorem fromStrRadix_eq_some_iff (positive : 0 < radix) (small : radix ≤ 36) (src : List Char)
    (v : Fin (2 ^ bits)) :
    fromStrRadix radix bits src = some v ↔
      ∃ digits, digits ≠ [] ∧ (src = digits ∨ src = '+' :: digits) ∧ AllDigits radix digits ∧
        digitFold radix 0 digits = v.val := by
  constructor
  · intro parsed
    unfold fromStrRadix at parsed
    split at parsed
    · cases parsed
    · cases parsed
    · cases parsed
    · rename_i digits notPlus
      obtain ⟨all, value⟩ := (accumulate_eq_some_iff positive _ _ _).mp parsed
      exact ⟨digits, fun empty => notPlus (by rw [empty]), .inr rfl, all, value⟩
    · rename_i notEmpty _ _ _
      obtain ⟨all, value⟩ := (accumulate_eq_some_iff positive _ _ _).mp parsed
      exact ⟨src, notEmpty, .inl rfl, all, value⟩
  · rintro ⟨digits, nonempty, shape, all, value⟩
    have accepted := (accumulate_eq_some_iff positive digits ⟨0, Nat.two_pow_pos bits⟩ v).mpr ⟨all, value⟩
    rcases shape with rfl | rfl
    · rw [fromStrRadix_of_digits small all nonempty, accepted]
    · obtain ⟨d, ds, rfl⟩ := List.exists_cons_of_ne_nil nonempty
      simpa [fromStrRadix] using accepted

end Accumulate

section Hex

@[simp] theorem length_hexPad (width n : Nat) : (hexPad width n).length = width := by
  induction width generalizing n with
  | zero => rfl
  | succ width ih => simp [hexPad, ih]

theorem hexPad_mem (width n : Nat) : ∀ c ∈ hexPad width n, c ∈ lowerHexDigits := by
  induction width generalizing n with
  | zero => simp [hexPad]
  | succ width ih =>
      intro c present
      rcases List.mem_append.mp present with inner | last
      · exact ih _ c inner
      · rw [List.mem_singleton.mp last]
        exact digitChar_mem_lowerHexDigits _ (Nat.mod_lt _ (by decide))

theorem allDigits_of_lowerHex {s : List Char} (hex : ∀ c ∈ s, c ∈ lowerHexDigits) :
    AllDigits 16 s := fun c present => (lowerHexDigits_spec c (hex c present)).1

theorem digitFold_hexPad (acc width n : Nat) :
    digitFold 16 acc (hexPad width n) = acc * 16 ^ width + n % 16 ^ width := by
  induction width generalizing n with
  | zero => simp [hexPad, Nat.mod_one]
  | succ width ih =>
      have digit := toDigit_digitChar (n % 16) (Nat.mod_lt _ (by decide))
      have split : n % (16 * 16 ^ width) = n % 16 + 16 * (n / 16 % 16 ^ width) := Nat.mod_mul
      rw [hexPad, digitFold_append, ih, digitFold_cons, digitFold_nil, digit, Option.getD_some,
        pow_succ', split]
      ring

theorem hexPad_digitFold {s : List Char} (hex : ∀ c ∈ s, c ∈ lowerHexDigits) :
    hexPad s.length (digitFold 16 0 s) = s := by
  induction s using List.reverseRecOn with
  | nil => rfl
  | append_singleton front c ih =>
      obtain ⟨_, small, back⟩ := lowerHexDigits_spec c (hex c (by simp))
      have value : digitFold 16 0 (front ++ [c]) = digitFold 16 0 front * 16 + (toDigit 16 c).getD 0 :=
        digitFold_append _ _ _ _
      have high : (digitFold 16 0 front * 16 + (toDigit 16 c).getD 0) / 16 = digitFold 16 0 front := by
        omega
      have low : (digitFold 16 0 front * 16 + (toDigit 16 c).getD 0) % 16 = (toDigit 16 c).getD 0 := by
        omega
      rw [List.length_append, List.length_singleton, hexPad, value, high, low, back,
        ih fun d present => hex d (by simp [present])]

theorem hexPad_zero (width : Nat) : hexPad width 0 = List.replicate width '0' := by
  induction width with
  | zero => rfl
  | succ width ih => rw [hexPad, ih, List.replicate_succ']; rfl

theorem digitFold_lt_of_lowerHex {s : List Char} (hex : ∀ c ∈ s, c ∈ lowerHexDigits) :
    digitFold 16 0 s < 16 ^ s.length := by
  have same := congrArg (digitFold 16 0) (hexPad_digitFold hex)
  rw [digitFold_hexPad, Nat.zero_mul, Nat.zero_add] at same
  rw [← same]
  exact Nat.mod_lt _ (Nat.pos_pow_of_pos _ (by decide))

theorem fromStrRadix_lowerHex {bits : Nat} {s : List Char} (hex : ∀ c ∈ s, c ∈ lowerHexDigits)
    (nonempty : s ≠ []) (fits : digitFold 16 0 s < 2 ^ bits) :
    fromStrRadix 16 bits s = some ⟨_, fits⟩ := by
  rw [fromStrRadix_of_digits (by decide) (allDigits_of_lowerHex hex) nonempty]
  exact (accumulate_eq_some_iff (by decide) s _ _).mpr ⟨allDigits_of_lowerHex hex, rfl⟩

theorem dash_not_mem_lowerHexDigits : '-' ∉ lowerHexDigits := by decide

end Hex

section Format

theorem toDigitsCore_acc (base : Nat) : ∀ (fuel n : Nat) (ds : List Char),
    Nat.toDigitsCore base fuel n ds = Nat.toDigitsCore base fuel n [] ++ ds
  | 0, _, _ => rfl
  | fuel + 1, n, ds => by
      simp only [Nat.toDigitsCore]
      split
      · rfl
      · rw [toDigitsCore_acc base fuel _ (_ :: ds), toDigitsCore_acc base fuel _ [_]]
        simp

theorem toDigitsCore_fuel {base : Nat} (two : 2 ≤ base) : ∀ (fuel other n : Nat) (ds : List Char),
    n < fuel → n < other → Nat.toDigitsCore base fuel n ds = Nat.toDigitsCore base other n ds
  | 0, _, _, _, small, _ => absurd small (Nat.not_lt_zero _)
  | _, 0, _, _, _, small => absurd small (Nat.not_lt_zero _)
  | fuel + 1, other + 1, n, ds, first, second => by
      simp only [Nat.toDigitsCore]
      split
      · rfl
      · rename_i nonzero
        have positive : 0 < n := Nat.pos_of_ne_zero fun zero => nonzero (by simp [zero])
        have shrink : n / base < n := Nat.div_lt_self positive (by omega)
        exact toDigitsCore_fuel two fuel other _ _ (by omega) (by omega)

theorem toDigits_of_lt {n : Nat} (small : n < 16) : Nat.toDigits 16 n = [Nat.digitChar n] := by
  simp [Nat.toDigits, Nat.toDigitsCore, Nat.div_eq_of_lt small, Nat.mod_eq_of_lt small]

theorem toDigits_of_ge {n : Nat} (large : 16 ≤ n) :
    Nat.toDigits 16 n = Nat.toDigits 16 (n / 16) ++ [Nat.digitChar (n % 16)] := by
  have nonzero : n / 16 ≠ 0 := by omega
  have shrink : n / 16 < n := Nat.div_lt_self (by omega) (by decide)
  rw [Nat.toDigits, Nat.toDigitsCore, if_neg nonzero, toDigitsCore_acc,
    toDigitsCore_fuel (by decide) n (n / 16 + 1) _ _ shrink (by omega)]
  rfl

theorem fmtLowerHex_eq_hexPad {width n : Nat} (wide : 0 < width) (fits : n < 16 ^ width) :
    fmtLowerHex width n = hexPad width n := by
  induction n using Nat.strong_induction_on generalizing width with
  | _ n ih =>
      obtain ⟨k, rfl⟩ : ∃ k, width = k + 1 := ⟨width - 1, by omega⟩
      by_cases large : 16 ≤ n
      · have positive : 0 < k := by
          rcases Nat.eq_zero_or_pos k with rfl | h
          · simp at fits; omega
          · exact h
        have below : n / 16 < 16 ^ k := by
          rw [Nat.div_lt_iff_lt_mul (by decide)]
          simpa [pow_succ] using fits
        have inner := ih (n / 16) (Nat.div_lt_self (by omega) (by decide)) positive below
        unfold fmtLowerHex at inner ⊢
        rw [toDigits_of_ge large, hexPad, ← inner, List.length_append, List.length_singleton]
        simp only [List.append_assoc]
        congr 2
        omega
      · have small : n < 16 := by omega
        rw [fmtLowerHex, toDigits_of_lt small, hexPad, Nat.div_eq_of_lt small, hexPad_zero,
          Nat.mod_eq_of_lt small]
        rfl

end Format

/-- `bool::from_str`. -/
def boolFromStr (s : List Char) : Option Bool :=
  if s = "true".data then some true else if s = "false".data then some false else none

/-- `u64::from_str`, and `usize::from_str` on a 64-bit target: `from_str_radix` in base ten. -/
def u64FromStr (s : List Char) : Option UInt64 :=
  (fromStrRadix 10 64 s).map fun v => UInt64.ofNat v.val

def decimalValue (digits : List Char) : Nat :=
  digits.foldl (fun acc c => acc * 10 + (c.toNat - 48)) 0

theorem toDigit_ten (c : Char) : toDigit 10 c = if c.isDigit then some (c.toNat - 48) else none := by
  have digit : c.isDigit = decide (48 ≤ c.toNat ∧ c.toNat ≤ 57) := by
    simp [Char.isDigit, UInt32.le_def, BitVec.le_def, show c.val.toBitVec.toNat = c.toNat from rfl,
      show (48 : UInt32).toBitVec.toNat = 48 from rfl, show (57 : UInt32).toBitVec.toNat = 57 from rfl]
  by_cases range : 48 ≤ c.toNat ∧ c.toNat ≤ 57
  · have value : digitValue c = c.toNat - 48 := by simp only [digitValue, if_pos range]
    rw [toDigit, value, if_pos (by omega), digit, decide_eq_true range, if_pos rfl]
  · have value : 10 ≤ digitValue c := by simp only [digitValue, if_neg range]; split_ifs <;> omega
    rw [toDigit, if_neg (Nat.not_lt.mpr value), digit, decide_eq_false range]
    rfl

theorem digitFold_ten {digits : List Char} (decimal : digits.all Char.isDigit) (acc : Nat) :
    digitFold 10 acc digits = digits.foldl (fun value c => value * 10 + (c.toNat - 48)) acc := by
  induction digits generalizing acc with
  | nil => rfl
  | cons c cs ih =>
    simp only [List.all_cons, Bool.and_eq_true] at decimal
    simp only [digitFold, List.foldl_cons] at ih ⊢
    rw [toDigit_ten, if_pos decimal.1, Option.getD_some, ih decimal.2]

def exponentPart : List Char → Option Int
  | [] => some 0
  | e :: rest =>
      let (negative, digits) := match rest with
        | '+' :: ds => (false, ds)
        | '-' :: ds => (true, ds)
        | ds => (false, ds)
      if (e = 'e' ∨ e = 'E') ∧ digits ≠ [] ∧ digits.all Char.isDigit = true then
        some (if negative then -(decimalValue digits : Int) else decimalValue digits)
      else none

def roundHalfEven (n d : Nat) : Nat :=
  if d < 2 * (n % d) ∨ 2 * (n % d) = d ∧ n / d % 2 = 1 then n / d + 1 else n / d

def scaledAt (num den : Nat) (k : Int) : Nat × Nat :=
  (num * 2 ^ (-k).toNat, den * 2 ^ k.toNat)

/-- The `f64` nearest to `m * 10 ^ e`, ties to even, as `f64::from_str` rounds: the exact
quotient scaled to 53 significant bits, or to steps of `2 ^ -1074` below the normal range, is
rounded once, and the significand times the power of two is then exact, or infinite past the
largest finite value. Values of at least `2 ^ 1024`, or below `2 ^ -1075`, are settled from
bounds first. -/
def decimalToF64 (m : Nat) (e : Int) : Float :=
  let low : Int := (m.log2 : Int) + (if e < 0 then 4 * e else 3 * e)
  let high : Int := (m.log2 : Int) + 1 + (if e < 0 then 3 * e else 4 * e)
  if m = 0 ∨ high ≤ -1075 then 0
  else if 1024 ≤ low then 1 / 0
  else
    let num := m * 10 ^ e.toNat
    let den := 10 ^ (-e).toNat
    let top : Int := (num.log2 : Int) - den.log2 - 52
    let k := if (scaledAt num den top).1 / (scaledAt num den top).2 < 2 ^ 52 then top - 1 else top
    let k := max k (-1074)
    Float.ofBinaryScientific (roundHalfEven (scaledAt num den k).1 (scaledAt num den k).2) k

def decimalFloat (body : List Char) : Option Float :=
  let (whole, afterWhole) := body.span Char.isDigit
  let (fraction, afterFraction) := match afterWhole with
    | '.' :: rest => rest.span Char.isDigit
    | rest => ([], rest)
  if whole = [] ∧ fraction = [] then none
  else (exponentPart afterFraction).map fun (e : Int) =>
    decimalToF64 (decimalValue (whole ++ fraction)) (e - fraction.length)

/-- `f64::from_str`: an optional sign, then `inf`, `infinity` or `nan` in any case, or decimal
digits with an optional fraction (at least one digit in all) and exponent. -/
def f64FromStr (src : List Char) : Option Float :=
  let (negative, body) := match src with
    | '+' :: rest => (false, rest)
    | '-' :: rest => (true, rest)
    | rest => (false, rest)
  let special := body.map Char.toLower
  let magnitude :=
    if special = "inf".data ∨ special = "infinity".data then some (1 / 0)
    else if special = "nan".data then some (0 / 0)
    else decimalFloat body
  magnitude.map fun x => if negative then -x else x

/-- `f64::clamp` (its `min <= max` assertion holds for every call the gateway makes). -/
def clamp (x min max : Float) : Float :=
  let x := if x < min then min else x
  if x > max then max else x

/-- `Duration::from_nanos(nanos).as_secs_f64()`. -/
def durationSecsF64 (nanos : Nat) : Float :=
  Float.ofNat (nanos / 1000000000) + Float.ofNat (nanos % 1000000000) / 1000000000.0

end DocumentDBGateway.Rust
