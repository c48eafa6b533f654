import LineMachine.Number.Binary64

/-!
# `LineMachine.Number.Extended`: floating point numbers with infinities

* `Extended` is a finite number, an infinity, or no number.
* `Extended.ofDecimal` is the number nearest to a decimal.
* `Extended.toText` writes it without an exponent.
-/

set_option autoImplicit false

namespace LineMachine

/-- A floating point number, an infinity, or no number. -/
inductive Extended where
  | finite (x : Binary64)
  | infinite (negative : Bool)
  | notANumber
deriving Repr, DecidableEq, Inhabited

namespace Extended

/-- The number nearest to `digits * 10 ^ e`, infinity beyond the greatest. The
power is computed only where the result is neither zero nor infinite. -/
def ofDecimal (negative : Bool) (digits : Nat) (e : Int) : Extended :=
  let size : Int := (toString digits).length + e
  if digits = 0 || size < -400 then .finite (Binary64.zero negative)
  else if 400 < size then .infinite negative
  else
    let (up, down) := Binary64.tenPower e
    match Binary64.round? negative (digits * up) down with
    | some x => .finite x
    | none => .infinite negative

/-- Whether the number is zero. -/
def isZero : Extended → Bool
  | .finite x => x.mantissa = 0
  | _ => false

/-- The number in decimal, with as few digits as identify it. -/
def toText : Extended → String
  | .finite x => x.toText
  | .infinite true => "-inf"
  | .infinite false => "inf"
  | .notANumber => "NaN"

end Extended

end LineMachine
