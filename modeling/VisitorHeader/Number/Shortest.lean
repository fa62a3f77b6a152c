import VisitorHeader.Number.Binary64

namespace VisitorHeader.Binary64

/-- The reals that round to `m * 2 ^ q` lie between `low` and `high`, in units of `2 ^ (q - 2)`;
the ends belong to them when `m` is even. -/
structure Interval where
  low : Nat
  high : Nat
  closed : Bool

def interval (m : Nat) (q : Int) : Interval where
  low := if m = Nat.pow 2 52 ∧ leastExponent < q then 4 * m - 1 else 4 * m - 2
  high := 4 * m + 2
  closed := m % 2 == 0

def onGrid? (m : Nat) (q k : Int) : Option (Nat × Int) :=
  let unit := Nat.pow 2 (q - 2).toNat * Nat.pow 10 (-k).toNat
  let step := Nat.pow 2 (2 - q).toNat * Nat.pow 10 k.toNat
  let i := interval m q
  let hits (d : Nat) : Bool :=
    if i.closed then i.low * unit ≤ d * step && d * step ≤ i.high * unit
    else i.low * unit < d * step && d * step < i.high * unit
  let below := 4 * m * unit / step
  let upperNearer := step < 2 * (4 * m * unit % step)
  let (near, far) := if upperNearer then (below + 1, below) else (below, below + 1)
  if hits near then some (near, k) else if hits far then some (far, k) else none

/-- The fewest decimal digits that read back as `m * 2 ^ q`, and of those the nearest. -/
def shortest (m : Nat) (q : Int) : Nat × Int :=
  ((List.range 660).findSome? fun i : Nat => onGrid? m q (310 - (i : Int))).getD (0, 0)

def positional (digits : Nat) (exponent : Int) : String :=
  let ds := Nat.toDigits 10 digits
  if 0 ≤ exponent then .ofList (ds ++ List.replicate exponent.toNat '0')
  else
    let places := (-exponent).toNat
    let padded := List.replicate (places + 1 - ds.length) '0' ++ ds
    .ofList (padded.take (padded.length - places) ++ '.' :: padded.drop (padded.length - places))

def text : Binary64 → String
  | nan => "NaN"
  | infinite negative => if negative then "-inf" else "inf"
  | finite negative m q =>
    let magnitude := if m = 0 then "0" else positional (shortest m q).1 (shortest m q).2
    if negative then "-" ++ magnitude else magnitude

def textWithPoint (x : Binary64) : String :=
  match x with
  | finite .. => if x.text.toList.contains '.' then x.text else x.text ++ ".0"
  | _ => x.text

end VisitorHeader.Binary64
