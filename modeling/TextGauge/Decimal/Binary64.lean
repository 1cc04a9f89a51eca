/-!
# Binary floating-point numbers in exact arithmetic

A **binary64** number is an infinity, a NaN, or `± m · 2^q` with `m < 2^53` and `q ≥ -1074`.
Nothing here computes with machine floats: rounding a quotient of naturals to the nearest
binary64 number (`Binary64.ofRatio`, a half to the even significand) and finding the shortest
decimal that reads back (`Binary64.digits`) are done on `Nat`.

A written form is a matter of **style** (`Binary64.Style`): which of two equally near decimals is
taken, and which numbers are written with an exponent. A number without one has `.0` after it if
it is whole.
-/

namespace TextGauge

/-- A binary64 number; `finite negative m q` is `± m · 2^q`. -/
inductive Binary64
  | nan
  | infinite (negative : Bool)
  | finite (negative : Bool) (m : Nat) (q : Int)
  deriving DecidableEq, Repr

namespace Binary64

/-- The numerator of `base^e` as a quotient of naturals: 1 for a negative exponent. -/
def powNum (base : Nat) (e : Int) : Nat :=
  base.pow e.toNat

/-- The denominator of `base^e` as a quotient of naturals: 1 for an exponent that is not
negative. -/
def powDen (base : Nat) (e : Int) : Nat :=
  base.pow (-e).toNat

/-! ### Rounding a quotient -/

/-- The quotient `num / den` rounded to the nearest natural, a half to the even one. -/
def divNearest (num den : Nat) : Nat :=
  let q := num / den
  let r := num % den
  if 2 * r < den then q
  else if 2 * r = den ∧ q % 2 = 0 then q
  else q + 1

/-- The exponent of the last place of a positive quotient `num / den`: 53 binary digits, fewer
below the smallest normal number. -/
def lastPlace (num den : Nat) : Int :=
  let estimate : Int := (Nat.log2 num : Int) - (Nat.log2 den : Int) - 53
  let scaled := (num * powDen 2 estimate) / (den * powNum 2 estimate)
  max (if scaled < Nat.pow 2 53 then estimate else estimate + 1) (-1074)

/-- The binary64 number nearest to `± num / den`; of two equally near the one with the even
significand. Beyond the largest finite number it is an infinity. -/
def ofRatio (negative : Bool) (num den : Nat) : Binary64 :=
  if num = 0 then .finite negative 0 (-1074)
  else
    let q := lastPlace num den
    let m := divNearest (num * powDen 2 q) (den * powNum 2 q)
    let (m, q) := if m = Nat.pow 2 53 then (Nat.pow 2 52, q + 1) else (m, q)
    if q > 971 then .infinite negative else .finite negative m q

/-- The binary64 number nearest to `± digits · 10^e`. Exponents far outside the range of the
format are settled by the number of digits alone. -/
def ofDecimal (negative : Bool) (digits : Nat) (e : Int) : Binary64 :=
  let size : Int := (Nat.toDigits 10 digits).length + e
  if digits = 0 ∨ size < -400 then .finite negative 0 (-1074)
  else if size > 400 then .infinite negative
  else ofRatio negative (digits * powNum 10 e) (powDen 10 e)

/-! ### Scaling by powers of ten -/

/-- Whether the number is an infinity. -/
def isInfinite : Binary64 → Bool
  | infinite _ => true
  | _ => false

/-- Whether the number is a zero of either sign. -/
def isZero : Binary64 → Bool
  | finite _ m _ => m = 0
  | _ => false

/-- The other sign. -/
def neg : Binary64 → Binary64
  | nan => nan
  | infinite negative => infinite (!negative)
  | finite negative m q => finite (!negative) m q

/-- The product of two numbers, rounded. -/
def mul : Binary64 → Binary64 → Binary64
  | finite n m q, finite n' m' q' =>
    ofRatio (n != n') (m * m' * powNum 2 (q + q')) (powDen 2 (q + q'))
  | _, _ => nan

/-- The quotient of two numbers, rounded; the divisor is not zero. -/
def div : Binary64 → Binary64 → Binary64
  | finite n m q, finite n' m' q' =>
    ofRatio (n != n') (m * powNum 2 (q - q')) (m' * powDen 2 (q - q'))
  | _, _ => nan

/-! ### The shortest decimal -/

/-- Whether `c · 10^e` lies among the reals that round to `m · 2^q`: between the midpoints to
the two neighbours, ends included when `m` is even. Below a power of two the lower neighbour is
half as far away. -/
def covers (m : Nat) (q : Int) (c : Nat) (e : Int) : Bool :=
  let half := if m = Nat.pow 2 52 ∧ q > -1074 then 1 else 2
  let point := 4 * c * powNum 10 e * powDen 2 q
  let unit := powNum 2 q * powDen 10 e
  let low := (4 * m - half) * unit
  let high := (4 * m + 2) * unit
  if m % 2 = 0 then low ≤ point ∧ point ≤ high else low < point ∧ point < high

/-- The number of digits of the whole part of `num / den`; where that part is 0, minus the
number of zeros after the point. -/
def magnitude (num den : Nat) : Int :=
  if num / den > 0 then (Nat.toDigits 10 (num / den)).length
  else 1 - (Nat.toDigits 10 (den / num)).length

/-- Which of two decimals with the same number of digits is taken where both are equally near. -/
inductive Tie
  /-- The larger one. -/
  | up
  /-- The one with an even last digit. -/
  | even
  deriving DecidableEq, Repr

/-- The neighbours of `num / den` on the grid of multiples of `10^e`: the one below, and whether
the one above is preferred to it, being nearer or winning the tie. -/
def gridBelow (tie : Tie) (num den : Nat) (e : Int) : Nat × Bool :=
  let num := num * powDen 10 e
  let den := den * powNum 10 e
  let below := num / den
  let rest := 2 * (num % den)
  (below, rest > den ∨ (rest = den ∧ (tie = .up ∨ below % 2 = 1)))

/-- The decimal `c · 10^e` with the fewest digits that rounds to `m · 2^q`, looked for from
`places` digits on; of two such the preferred one. A carry into a further digit happens at one
digit only, where it gives the next power of ten. -/
def shortestFrom (tie : Tie) (m : Nat) (q : Int) (size : Int) : Nat → Nat → Nat × Int
  | 0, places =>
    let e := size - places
    ((gridBelow tie (m * powNum 2 q) (powDen 2 q) e).1, e)
  | tries + 1, places =>
    let e := size - places
    let (below, abovePreferred) := gridBelow tie (m * powNum 2 q) (powDen 2 q) e
    let lowHit := covers m q below e
    let highHit := covers m q (below + 1) e
    if highHit ∧ (abovePreferred ∨ ¬lowHit) then
      if below + 1 = 10 then (1, e + 1) else (below + 1, e)
    else if lowHit then (below, e)
    else shortestFrom tie m q size tries (places + 1)

/-- The shortest decimal of a positive finite number, as digits and an exponent of ten. -/
def digits (tie : Tie) (m : Nat) (q : Int) : Nat × Int :=
  shortestFrom tie m q (magnitude (m * powNum 2 q) (powDen 2 q)) 17 1

/-! ### Written forms -/

/-- `c · 10^e` written positionally, with `.0` after a whole number. -/
def positional (c : Nat) (e : Int) : List Char :=
  let ds := Nat.toDigits 10 c
  if e ≥ 0 then ds ++ List.replicate e.toNat '0' ++ ['.', '0']
  else
    let places := (-e).toNat
    let ds := List.replicate (places + 1 - ds.length) '0' ++ ds
    ds.take (ds.length - places) ++ '.' :: ds.drop (ds.length - places)

/-- `c · 10^e` written with one digit before the point, none after it if there are no more, and the
exponent of ten of the first digit, with its sign. -/
def scientific (c : Nat) (e : Int) : List Char :=
  let ds := Nat.toDigits 10 c
  let exponent := e + ds.length - 1
  ds.take 1 ++ (if ds.length > 1 then '.' :: ds.drop 1 else [])
    ++ 'e' :: (if exponent < 0 then '-' else '+') :: Nat.toDigits 10 exponent.natAbs

/-- How numbers are written. -/
structure Style where
  /-- Which of two shortest decimals is taken where both are equally near. -/
  tie : Tie
  /-- The least and the greatest exponent of the first digit with which a number is written
  positionally; without them every number is. -/
  positional : Option (Int × Int)
  deriving DecidableEq, Repr

/-- Whether `c · 10^e` is written positionally. -/
def Style.isPositional (style : Style) (c : Nat) (e : Int) : Bool :=
  match style.positional with
  | none => true
  | some (least, greatest) =>
    let exponent := e + (Nat.toDigits 10 c).length - 1
    least ≤ exponent && exponent ≤ greatest

/-- The written form of a number: `1.5`, `2.0`, `-0.0`, `1e+16`, `NaN`, `inf`, `-inf`. -/
def text (style : Style) : Binary64 → String
  | nan => "NaN"
  | infinite negative => if negative then "-inf" else "inf"
  | finite negative m q =>
    let body :=
      if m = 0 then ['0', '.', '0']
      else
        let (c, e) := digits style.tie m q
        if style.isPositional c e then positional c e else scientific c e
    String.ofList (if negative then '-' :: body else body)

end Binary64

end TextGauge
