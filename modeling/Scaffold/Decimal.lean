import Scaffold.Text.Split

namespace Scaffold

structure Decimal where
  negative : Bool
  digits : Nat
  exponent : Int
  deriving DecidableEq, Repr

structure Binary where
  significand : Nat
  exponent : Int
  deriving DecidableEq, Repr

namespace Decimal

private def isSign (c : Char) : Bool := c = '+' || c = '-'

private def digitsValue (cs : List Char) : Nat := cs.foldl (fun n c => n * 10 + (c.toNat - 48)) 0

def exponentOf? : List Char → Option Int
  | [] => some 0
  | c :: cs =>
    let negative := cs.head? = some '-'
    let digits := if cs.head?.any isSign then cs.drop 1 else cs
    if (c = 'e' || c = 'E') && !digits.isEmpty && digits.all Char.isDigit then
      some (if negative then -(digitsValue digits : Int) else digitsValue digits)
    else none

def ofText? (text : List Char) : Option Decimal :=
  let unsigned := if text.head?.any isSign then text.drop 1 else text
  let whole := unsigned.takeWhile Char.isDigit
  let rest := unsigned.drop whole.length
  let fraction := if rest.head? = some '.' then (rest.drop 1).takeWhile Char.isDigit else []
  let rest := if rest.head? = some '.' then rest.drop (1 + fraction.length) else rest
  if whole.isEmpty && fraction.isEmpty then none
  else (exponentOf? rest).map fun e =>
    ⟨text.head? = some '-', digitsValue (whole ++ fraction), e - fraction.length⟩

/-- Beyond these powers of ten a number is too large or too small to count. -/
def horizon : Int := 400

end Decimal

namespace Binary

def leastExponent : Int := -1074

def greatestExponent : Int := 971

/-- A quotient rounded to the nearest whole number, and to the even one of two. -/
def roundQuotient (num den : Nat) : Nat :=
  let q := num / den
  let twice := 2 * (num % den)
  if den < twice || (twice = den && q % 2 = 1) then q + 1 else q

def scaled (num den : Nat) (e : Int) : Nat × Nat :=
  if 0 ≤ e then (num * Nat.pow 2 e.toNat, den) else (num, den * Nat.pow 2 (-e).toNat)

def roundedAt? (num den : Nat) (e : Int) : Option Binary :=
  let e := max e leastExponent
  let (n, d) := scaled num den (-e)
  let m := roundQuotient n d
  if m < Nat.pow 2 53 then some ⟨m, e⟩ else none

/-- The nearest number with a power of two that is as small as fifty-three bits allow. There is none for
what is too large. -/
def nearest? (num den : Nat) : Option Binary :=
  let least : Int := (num.log2 : Int) - den.log2 - 53
  ([least, least + 1, least + 2].findSome? (roundedAt? num den)).filter
    fun b => b.exponent ≤ greatestExponent

def ofDecimal? (d : Decimal) : Option Binary :=
  let magnitude : Int := (toString d.digits).length + d.exponent
  if d.digits = 0 || magnitude < -Decimal.horizon then some ⟨0, leastExponent⟩
  else if Decimal.horizon < magnitude then none
  else if 0 ≤ d.exponent then nearest? (d.digits * Nat.pow 10 d.exponent.toNat) 1
  else nearest? d.digits (Nat.pow 10 (-d.exponent).toNat)

/-- What is rounded to a binary number, as quotients with one denominator. The bounds are so if the
number is even. -/
structure Neighbourhood where
  low : Nat
  value : Nat
  high : Nat
  den : Nat
  closed : Bool

def neighbourhood (b : Binary) : Neighbourhood :=
  let gap := if b.significand = Nat.pow 2 52 && leastExponent < b.exponent then 1 else 2
  let numerator (n : Nat) := (scaled n 4 b.exponent).1
  ⟨numerator (4 * b.significand - gap), numerator (4 * b.significand), numerator (4 * b.significand + 2),
    (scaled 1 4 b.exponent).2, b.significand % 2 = 0⟩

/-- The multiple of a power of ten that is nearest to a number, of those that are rounded to it. -/
def shortestAt? (n : Neighbourhood) (e : Int) : Option Nat :=
  let (num, unit) : Nat × Nat :=
    if 0 ≤ e then (1, n.den * Nat.pow 10 e.toNat) else (Nat.pow 10 (-e).toNat, n.den)
  let below := n.value * num / unit
  let fits (c : Nat) : Bool :=
    c ≠ 0 && (if n.closed then n.low * num ≤ c * unit && c * unit ≤ n.high * num
      else n.low * num < c * unit && c * unit < n.high * num)
  match fits below, fits (below + 1) with
  | true, true =>
    if 2 * (n.value * num - below * unit) ≤ unit then some below else some (below + 1)
  | true, false => some below
  | false, true => some (below + 1)
  | false, false => none

/-- The decimal number with the fewest digits that is rounded to a binary one. -/
def shortest (b : Binary) : Decimal :=
  if b.significand = 0 then ⟨false, 0, 0⟩
  else
    let found := (List.range 660).findSome? fun (i : Nat) =>
      let e : Int := 310 - i
      (shortestAt? b.neighbourhood e).map fun c => ⟨false, c, e⟩
    found.getD ⟨false, 0, 0⟩

end Binary

namespace Decimal

def render (d : Decimal) : String :=
  let digits := (toString d.digits).toList
  let sign := if d.negative then "-" else ""
  if 0 ≤ d.exponent then
    sign ++ String.ofList (digits ++ List.replicate (if d.digits = 0 then 0 else d.exponent.toNat) '0') ++ ".0"
  else
    let places := (-d.exponent).toNat
    let padded := List.replicate (places + 1 - digits.length) '0' ++ digits
    sign ++ String.ofList (padded.take (padded.length - places)) ++ "." ++
      String.ofList (padded.drop (padded.length - places))

def shortestText? (d : Decimal) : Option String :=
  (Binary.ofDecimal? d).map fun b => { b.shortest with negative := d.negative }.render

end Decimal

end Scaffold
