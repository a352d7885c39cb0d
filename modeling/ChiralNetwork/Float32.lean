import Mathlib.Data.Int.Defs

/-!
The `f32` of `RelayInfo::health_score`, as its 32-bit pattern, and the part of
IEEE 754 the registry uses: decoding to a value, the comparisons `<`, `>`,
`<=`, `>=`, `partial_cmp`, and `f32::clamp`. A finite value is an integer
multiple of the smallest subnormal `2^-149`; every comparison with NaN is false,
and `partial_cmp` with NaN is `None`.
-/

set_option autoImplicit false
set_option relaxedAutoImplicit false

namespace ChiralNetwork.Float32

/-- What a bit pattern stands for; `fin v` is `v * 2^-149`. -/
inductive Val
  | negInf
  | fin (v : Int)
  | posInf
  | nan
  deriving DecidableEq, Repr

/-- `<` on values; false whenever NaN is involved. -/
def Val.lt : Val → Val → Bool
  | .fin a, .fin b => decide (a < b)
  | .negInf, .fin _ | .negInf, .posInf | .fin _, .posInf => true
  | _, _ => false

def Val.isNan : Val → Bool
  | .nan => true
  | _ => false

theorem Val.lt_irrefl (a : Val) : a.lt a = false := by
  cases a <;> simp [Val.lt]

theorem Val.isNan_of_lt_nan {a : Val} (h : a.isNan = true) (b : Val) :
    a.lt b = false ∧ b.lt a = false := by
  cases a <;> cases b <;> simp_all [Val.lt, Val.isNan]

/-- An `f32`, as the bits `f32::to_bits` returns. -/
structure F32 where
  bits : UInt32
  deriving DecidableEq, Repr

namespace F32

def sign (x : F32) : Bool := x.bits >>> 31 == 1

def exponent (x : F32) : Nat := ((x.bits >>> 23) &&& 0xff).toNat

def fraction (x : F32) : Nat := (x.bits &&& 0x7fffff).toNat

/-- The IEEE 754 binary32 decoding. -/
def val (x : F32) : Val :=
  if x.exponent = 255 then
    if x.fraction = 0 then (if x.sign then .negInf else .posInf) else .nan
  else
    let magnitude : Nat :=
      if x.exponent = 0 then x.fraction else (0x800000 + x.fraction) <<< (x.exponent - 1)
    .fin (if x.sign then -(magnitude : Int) else magnitude)

/-- `0.0_f32`. -/
def zero : F32 := ⟨0x00000000⟩

/-- `1.0_f32`. -/
def one : F32 := ⟨0x3f800000⟩

/-- `f32::NAN`. -/
def nan : F32 := ⟨0x7fc00000⟩

def isNan (x : F32) : Bool := x.val.isNan

def lt (x y : F32) : Bool := x.val.lt y.val

def gt (x y : F32) : Bool := y.lt x

/-- `<=`: less or equal, so false with NaN. -/
def le (x y : F32) : Bool := !x.isNan && !y.isNan && !y.lt x

/-- `>=`. -/
def ge (x y : F32) : Bool := y.le x

/-- `f32::partial_cmp`. -/
def partialCmp (x y : F32) : Option Ordering :=
  if x.isNan || y.isNan then none
  else if x.lt y then some .lt
  else if y.lt x then some .gt
  else some .eq

/-- `f32::clamp`; its `assert!(min <= max)` is the hypothesis. -/
def clamp (x lo hi : F32) (_ : lo.le hi = true) : F32 :=
  let x := if x.lt lo then lo else x
  if x.gt hi then hi else x

example : zero.val = .fin 0 ∧ one.val = .fin (1 <<< 149) ∧ nan.val = .nan := by decide

@[simp] theorem lt_def (x y : F32) : x.lt y = x.val.lt y.val := rfl

@[simp] theorem isNan_def (x : F32) : x.isNan = x.val.isNan := rfl

theorem clamp_between (x lo hi : F32) (h : lo.le hi = true) (hx : x.isNan = false) :
    lo.le (clamp x lo hi h) = true ∧ (clamp x lo hi h).le hi = true := by
  simp only [le, Bool.and_eq_true, Bool.not_eq_true', isNan_def, lt_def] at h ⊢
  obtain ⟨⟨lo_num, hi_num⟩, hi_lo⟩ := h
  simp only [isNan_def] at hx
  unfold clamp gt
  by_cases below : x.val.lt lo.val <;> by_cases above : hi.val.lt x.val <;>
    simp_all [Val.lt_irrefl]

theorem clamp_nan (x lo hi : F32) (h : lo.le hi = true) (hx : x.isNan = true) :
    clamp x lo hi h = x := by
  simp only [isNan_def] at hx
  have := Val.isNan_of_lt_nan hx
  simp [clamp, gt, (this lo.val).1, (this hi.val).2]

end F32

end ChiralNetwork.Float32
