/-!
Binary floating-point numbers of double precision, read from decimal text and written back.

A finite double is a signed integer times a power of two (`Double.dyadic?`), so it equals an
integer exactly when that product does (`Double.equalsInt`). Reading rounds a decimal to the
nearest double (`Double.ofDecimal`); a decimal exponent far outside the range of doubles goes
straight to zero or infinity, since the rounding would give the same. Writing (`Double.repr`)
gives the fewest significant digits that read back to the same double, the nearer of two
candidates when both do; the digits stand positionally when the decimal point falls from four
places before them to sixteen places into them, and with an exponent otherwise.
-/

namespace ParserCombinators

namespace Double

def infinity : Float := 1 / 0

def notANumber : Float := 0 / 0

/-- Whether the sign bit of a double is set; true also for the negative zero. -/
def signBit (x : Float) : Bool :=
  x.toBits.toNat / Nat.pow 2 63 % 2 == 1

/-- The exact value of a finite double as an integer times a power of two, or nothing for an
infinity or a value that is not a number. -/
def dyadic? (x : Float) : Option (Int × Int) :=
  let bits : Nat := x.toBits.toNat
  let biased : Nat := bits / Nat.pow 2 52 % Nat.pow 2 11
  let fraction : Nat := bits % Nat.pow 2 52
  if biased = Nat.pow 2 11 - 1 then none
  else
    let (m, e) : Nat × Int :=
      if biased = 0 then (fraction, -1074) else (fraction + Nat.pow 2 52, (biased : Int) - 1075)
    some (if signBit x then -(m : Int) else m, e)

def equalsInt (x : Float) (n : Int) : Bool :=
  match dyadic? x with
  | some (m, e) =>
    if 0 ≤ e then m * Int.pow 2 e.toNat == n else m == n * Int.pow 2 (-e).toNat
  | none => false

def digitCount (n : Nat) : Nat :=
  (Nat.toDigits 10 n).length

/-- The double nearest to `digits × 10 ^ exponent`, negated when `negative`. -/
def ofDecimal (negative : Bool) (digits : Nat) (exponent : Int) : Float :=
  let top := exponent + digitCount digits
  let magnitude : Float :=
    if digits = 0 then 0
    else if 310 < top then infinity
    else if top < -330 then 0
    else if 0 ≤ exponent then Float.ofScientific digits false exponent.toNat
    else Float.ofScientific digits true (-exponent).toNat
  if negative then -magnitude else magnitude

def exactDecimal (m : Nat) (e : Int) : Nat × Int :=
  if 0 ≤ e then (m * Nat.pow 2 e.toNat, 0) else (m * Nat.pow 5 (-e).toNat, e)

def trimZeros (digits : Nat) (exponent : Int) (fuel : Nat) : Nat × Int :=
  match fuel with
  | 0 => (digits, exponent)
  | fuel + 1 =>
    if digits ≠ 0 ∧ digits % 10 = 0 then trimZeros (digits / 10) (exponent + 1) fuel
    else (digits, exponent)

def readsBack (x : Float) (digits : Nat) (exponent : Int) : Bool :=
  (ofDecimal false digits exponent).toBits == x.toBits

/-- The digits of the positive double `x = digits × 10 ^ exponent` (exactly) rounded down and up
to `precision` significant digits, keeping those that read back as `x`: the nearer of two, and
of two equally near the one ending in an even digit. -/
def candidates (x : Float) (digits : Nat) (exponent : Int) (precision : Nat) :
    Option (Nat × Int) :=
  let cut := digitCount digits - precision
  let unit := Nat.pow 10 cut
  let low := digits / unit
  let rest := digits % unit
  let lowOk := 0 < low ∧ readsBack x low (exponent + cut)
  let highOk := 0 < rest ∧ readsBack x (low + 1) (exponent + cut)
  if lowOk ∧ highOk then
    if rest * 2 < unit ∨ (rest * 2 = unit ∧ low % 2 = 0) then some (low, exponent + cut)
    else some (low + 1, exponent + cut)
  else if lowOk then some (low, exponent + cut)
  else if highOk then some (low + 1, exponent + cut)
  else none

def shortestFrom (x : Float) (digits : Nat) (exponent : Int) : List Nat → Nat × Int
  | [] => (digits, exponent)
  | p :: ps =>
    if digitCount digits ≤ p then (digits, exponent)
    else
      match candidates x digits exponent p with
      | some found => found
      | none => shortestFrom x digits exponent ps

/-- The shortest decimal digits and power of ten that read back as a positive finite double
with the exact value `m × 2 ^ e`, without trailing zeros. -/
def shortest (x : Float) (m : Nat) (e : Int) : Nat × Int :=
  let (digits, exponent) := exactDecimal m e
  let (d, z) := shortestFrom x digits exponent (List.range' 1 17)
  trimZeros d z (digitCount d)

/-- Two decimal digits at least, with a sign: the exponent of a number in scientific layout. -/
def exponentText (n : Int) : String :=
  let body := toString n.natAbs
  (if n < 0 then "-" else "+") ++ (if body.length < 2 then "0" ++ body else body)

def layout (digits : String) (point : Int) : String :=
  let cs := digits.toList
  if point ≤ -4 ∨ 16 < point then
    let mantissa := match cs with
      | [] => "0"
      | [d] => String.singleton d
      | d :: more => String.singleton d ++ "." ++ String.ofList more
    mantissa ++ "e" ++ exponentText (point - 1)
  else if point ≤ 0 then "0." ++ String.ofList (List.replicate point.natAbs '0') ++ digits
  else if cs.length ≤ point.toNat then
    digits ++ String.ofList (List.replicate (point.toNat - cs.length) '0') ++ ".0"
  else String.ofList (cs.take point.toNat) ++ "." ++ String.ofList (cs.drop point.toNat)

/-- The text of a double: shortest digits, `inf`, `-inf` or `nan`. -/
def repr (x : Float) : String :=
  let sign := if signBit x then "-" else ""
  match dyadic? x with
  | none => if x.isNaN then "nan" else sign ++ "inf"
  | some (m, e) =>
    if m = 0 then sign ++ "0.0"
    else
      let (d, z) := shortest (if signBit x then -x else x) m.natAbs e
      let text := toString d
      sign ++ layout text (z + text.length)

end Double

end ParserCombinators
