/-!
The shortest decimal that reads back as a given binary number. A finite double
is a fraction; the reals that round to it form an interval, and the fewest
digits that reach into this interval are written.
-/

namespace SignOn.Decimal

/-- A positive number as a fraction, with the interval of reals that round to
it. All four share one denominator. -/
structure Interval where
  value : Nat
  low : Nat
  high : Nat
  denominator : Nat
  /-- Whether the two ends round to the number too. -/
  closed : Bool

/-- The number `4 * m * 2 ^ q`, with neighbours a unit of `m` away; the one
below is half as far when `narrow` holds. -/
def interval (m : Nat) (q : Int) (narrow : Bool) : Interval :=
  let scale := 1 <<< q.toNat
  { value := 4 * m * scale
    low := (if narrow then 4 * m - 1 else 4 * m - 2) * scale
    high := (4 * m + 2) * scale
    denominator := 1 <<< (-q).toNat
    closed := decide (m % 2 = 0) }

/-- The interval of the magnitude of a finite double, from its 64 bits. -/
def ofBits (bits : Nat) : Interval :=
  let mantissa : Nat := bits % (1 <<< 52)
  let exponent : Nat := (bits >>> 52) % (1 <<< 11)
  if exponent = 0 then interval mantissa (-1076) false
  else interval ((1 <<< 52) + mantissa) ((exponent : Int) - 1077) (mantissa = 0 && exponent > 1)

/-- Digits with the power of ten of the first. -/
structure Digits where
  digits : List Char
  exponent : Int

/-- `x / denominator` against `c * 10 ^ k`, brought to whole numbers. -/
def onGrid (x denominator : Nat) (c : Nat) (k : Int) : Nat × Nat :=
  (x * Nat.pow 10 (-k).toNat, c * Nat.pow 10 k.toNat * denominator)

/-- Whether `c * 10 ^ k` lies in the interval. -/
def Interval.holds (i : Interval) (c : Nat) (k : Int) : Bool :=
  let (low, x) := onGrid i.low i.denominator c k
  let (high, _) := onGrid i.high i.denominator c k
  if i.closed then low ≤ x && x ≤ high else low < x && x < high

/-- The multiples of `10 ^ k` next to the value: below or at it, and above. -/
def Interval.floor (i : Interval) (k : Int) : Nat :=
  i.value * Nat.pow 10 (-k).toNat / (Nat.pow 10 k.toNat * i.denominator)

/-- The nearer neighbour on the grid of `10 ^ k` that lies in the interval; of
two at the same distance the even one. -/
def Interval.nearest? (i : Interval) (k : Int) : Option Nat :=
  let c := i.floor k
  let (x, below) := onGrid i.value i.denominator c k
  let (_, above) := onGrid i.value i.denominator (c + 1) k
  match i.holds c k, i.holds (c + 1) k with
  | false, false => none
  | true, false => some c
  | false, true => some (c + 1)
  | true, true =>
    if x - below < above - x then some c
    else if above - x < x - below then some (c + 1)
    else some (if c % 2 = 0 then c else c + 1)

/-- The power of ten of the first digit. -/
def Interval.exponent (i : Interval) : Int :=
  let below := (List.range 633).takeWhile fun (j : Nat) =>
    let (x, y) := onGrid i.value i.denominator 1 ((j : Int) - 323)
    x ≥ y
  (below.length : Int) - 324

/-- The first grid, from one digit to seventeen, with a neighbour in the interval. -/
def Interval.shortest (i : Interval) : Digits :=
  let e := i.exponent
  let hit := (List.range 17).findSome? fun (n : Nat) =>
    (i.nearest? (e - n)).map fun c => (c, e - (n : Int))
  match hit with
  | none => ⟨['0'], 0⟩
  | some (c, k) =>
    let ds := Nat.toDigits 10 c
    ⟨(ds.reverse.dropWhile (· == '0')).reverse, k + ds.length - 1⟩

/-- Positional with at least one place from `10 ^ -5` to below `10 ^ 16`, and
otherwise one digit, the rest after a point, and a signed exponent. -/
def Digits.describe (d : Digits) : String :=
  let zeros := fun n : Nat => List.replicate n '0'
  let n : Int := d.digits.length
  String.ofList <|
    if d.exponent < -5 || d.exponent > 15 then
      let tail := d.digits.drop 1
      d.digits.take 1 ++ (if tail.isEmpty then [] else '.' :: tail) ++
        ['e', if d.exponent < 0 then '-' else '+'] ++ Nat.toDigits 10 d.exponent.natAbs
    else if d.exponent < 0 then
      ['0', '.'] ++ zeros (-d.exponent - 1).toNat ++ d.digits
    else if n ≤ d.exponent + 1 then
      d.digits ++ zeros (d.exponent + 1 - n).toNat ++ ['.', '0']
    else
      d.digits.take (d.exponent + 1).toNat ++ ['.'] ++ d.digits.drop (d.exponent + 1).toNat

/-- The text of a finite double. -/
def describe (x : Float) : String :=
  let bits := x.toBits.toNat
  let sign := if bits ≥ 1 <<< 63 then "-" else ""
  if bits % (1 <<< 63) = 0 then sign ++ "0.0"
  else sign ++ (ofBits (bits % (1 <<< 63))).shortest.describe

end SignOn.Decimal
