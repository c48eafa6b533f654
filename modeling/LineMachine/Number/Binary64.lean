/-!
# `LineMachine.Number.Binary64`: floating point numbers and their text

A finite number of 64 bits is an integer of at most 53 bits times a power of
two. All arithmetic here is exact arithmetic on integers.

* `Binary64` is such a number with its sign.
* `Binary64.round?` is the number nearest to a quotient; of two, the one with
  an even integer.
* `Binary64.shortest` is the shortest decimal that `round?` brings back to
  the number, the nearest of these.
* `Binary64.toText` writes it without an exponent.
-/

set_option autoImplicit false

namespace LineMachine

/-- The number `mantissa * 2 ^ exponent`, or its negative. -/
structure Binary64 where
  negative : Bool
  mantissa : Nat
  exponent : Int
deriving Repr, DecidableEq, Inhabited

namespace Binary64

/-- The least exponent. -/
def leastExponent : Int := -1074

/-- The greatest exponent. -/
def greatestExponent : Int := 971

/-- The least integer of more than 53 bits. -/
def significandLimit : Nat := 0x20000000000000

/-- Zero. -/
def zero (negative : Bool) : Binary64 := ⟨negative, 0, leastExponent⟩

/-- The nearest integer to a quotient, the even one of two. -/
def roundDiv (num den : Nat) : Nat :=
  let q := num / den
  let twice := 2 * (num % den)
  if twice < den then q
  else if den < twice then q + 1
  else if q % 2 = 0 then q else q + 1

/-- `2 ^ e` as a quotient. -/
def twoPower (e : Int) : Nat × Nat := (Nat.pow 2 e.toNat, Nat.pow 2 (-e).toNat)

/-- `10 ^ e` as a quotient. -/
def tenPower (e : Int) : Nat × Nat := (Nat.pow 10 e.toNat, Nat.pow 10 (-e).toNat)

/-- The number nearest to `num / den`, or `none` when that is too great. -/
def round? (negative : Bool) (num den : Nat) : Option Binary64 :=
  if num = 0 then some (zero negative)
  else
    let scaled (e : Int) : Nat × Nat :=
      let (up, down) := twoPower e
      (num * down, den * up)
    let guess : Int := (Nat.log2 num : Int) - (Nat.log2 den : Int) - 53
    let (n, d) := scaled guess
    let exact := if n / d < significandLimit then guess else guess + 1
    let e := max exact leastExponent
    let (n, d) := scaled e
    let m := roundDiv n d
    let (m, e) := if m = significandLimit then (significandLimit / 2, e + 1) else (m, e)
    if greatestExponent < e then none else some ⟨negative, m, e⟩

/-- The absolute value as a quotient. -/
def magnitude (x : Binary64) : Nat × Nat :=
  let (up, down) := twoPower x.exponent
  (x.mantissa * up, down)

/-- The coarsest decimal grid, from `10 ^ g` on downwards, with a point that
rounds to the number: the point nearest to it and the grid. -/
def coarsest (x : Binary64) : Nat → Int → Nat × Int
  | 0, g => (x.mantissa, g)
  | steps + 1, g =>
    let (up, down) := twoPower (x.exponent - 2)
    let (tenUp, tenDown) := tenPower g
    let unit := up * tenDown
    let grid := down * tenUp
    let value := 4 * x.mantissa * unit
    let below := if x.mantissa = significandLimit / 2 ∧ leastExponent < x.exponent then 1 else 2
    let low := (4 * x.mantissa - below) * unit
    let high := (4 * x.mantissa + 2) * unit
    let inside (c : Nat) : Bool :=
      0 < c && (if x.mantissa % 2 = 0 then low ≤ c * grid && c * grid ≤ high
        else low < c * grid && c * grid < high)
    let c := value / grid
    let nearC := value - c * grid
    let nearNext := (c + 1) * grid - value
    match inside c, inside (c + 1) with
    | true, true => (if nearC < nearNext || (nearC = nearNext && c % 2 = 0) then c else c + 1, g)
    | true, false => (c, g)
    | false, true => (c + 1, g)
    | false, false => coarsest x steps (g - 1)

/-- The shortest decimal `c * 10 ^ g` that rounds to the number. -/
def shortest (x : Binary64) : Nat × Int :=
  if x.mantissa = 0 then (0, 0)
  else
    let log2 : Int := (Nat.log2 x.mantissa : Int) + x.exponent
    coarsest x 30 (log2 * 30103 / 100000 + 2)

/-- The decimal text of `c * 10 ^ g`, without an exponent. -/
def positional (c : Nat) (g : Int) : String :=
  let digits := toString c
  if 0 ≤ g then digits ++ String.ofList (List.replicate g.toNat '0')
  else
    let places := (-g).toNat
    let padded := String.ofList (List.replicate (places + 1 - digits.length) '0') ++ digits
    let whole := padded.length - places
    (padded.take whole).toString ++ "." ++ (padded.drop whole).toString

/-- The number in decimal, with as few digits as identify it. -/
def toText (x : Binary64) : String :=
  let (c, g) := x.shortest
  let text := if c = 0 then "0" else positional c g
  if x.negative then "-" ++ text else text

/-- The number in decimal, with a decimal point in any case. -/
def toPointText (x : Binary64) : String :=
  let text := x.toText
  if text.contains '.' then text else text ++ ".0"

end Binary64

end LineMachine
