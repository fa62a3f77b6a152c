import VisitorHeader.Number.Digits
import VisitorHeader.Toml.Text

namespace VisitorHeader.Toml

def digitRun (isDigit : Char → Bool) : List Char → List Char × List Char
  | '_' :: c :: r =>
    if isDigit c then
      let (ds, rest) := digitRun isDigit r
      (c :: ds, rest)
    else ([], '_' :: c :: r)
  | c :: r =>
    if isDigit c then
      let (ds, rest) := digitRun isDigit r
      (c :: ds, rest)
    else ([], c :: r)
  | [] => ([], [])

def digits? (isDigit : Char → Bool) : List Char → Option (List Char × List Char)
  | c :: r => if isDigit c then some ((digitRun isDigit (c :: r))) else none
  | [] => none

def sign (cs : List Char) : Bool × List Char :=
  match cs with
  | '-' :: r => (true, r)
  | '+' :: r => (false, r)
  | r => (false, r)

def integer64? (n : Int) : Option Value :=
  if Digits.fitsWord n then some (.integer n) else none

/-- A number too great for a double is refused; one too small is the infinity below. -/
def float? (negative : Bool) (digits : Nat) (exponent : Int) : Option Value :=
  match Binary64.ofDecimal negative digits exponent with
  | .infinite false => none
  | x => some (.float x)

def exponent? : List Char → Option (Int × List Char)
  | c :: r =>
    if c == 'e' || c == 'E' then do
      let (negative, r) := sign r
      let (ds, r) ← digits? Char.isDigit r
      return (Digits.signed negative (Digits.value ds), r)
    else some (0, c :: r)
  | [] => some (0, [])

def wholePart? : List Char → Option (List Char × List Char)
  | '0' :: r => some (['0'], r)
  | r => digits? Char.isDigit r

def decimal? (negative : Bool) (cs : List Char) : Option (Value × List Char) := do
  let (whole, r) ← wholePart? cs
  match r with
  | '.' :: r =>
    let (fraction, r) ← digits? Char.isDigit r
    let (exponent, r) ← exponent? r
    let v ← float? negative (Digits.value (whole ++ fraction)) (exponent - fraction.length)
    return (v, r)
  | c :: _ =>
    if c == 'e' || c == 'E' then
      let (exponent, r) ← exponent? r
      let v ← float? negative (Digits.value whole) exponent
      return (v, r)
    else
      let v ← integer64? (Digits.signed negative (Digits.value whole))
      return (v, r)
  | [] =>
    let v ← integer64? (Digits.signed negative (Digits.value whole))
    return (v, r)

def radixDigit (radix : Nat) (c : Char) : Bool :=
  match hexDigit? c with
  | some d => d < radix
  | none => false

def radixValue (radix : Nat) (ds : List Char) : Nat :=
  ds.foldl (fun n c => radix * n + (hexDigit? c).getD 0) 0

def inRadix? (radix : Nat) (cs : List Char) : Option (Value × List Char) := do
  let (ds, r) ← digits? (radixDigit radix) cs
  let v ← integer64? (radixValue radix ds)
  return (v, r)

def number? (cs : List Char) : Option (Value × List Char) :=
  match cs with
  | '0' :: 'x' :: r => inRadix? 16 r
  | '0' :: 'o' :: r => inRadix? 8 r
  | '0' :: 'b' :: r => inRadix? 2 r
  | _ =>
    let (negative, r) := sign cs
    match r with
    | 'i' :: 'n' :: 'f' :: r => some (.float (.infinite negative), r)
    | 'n' :: 'a' :: 'n' :: r => some (.float .nan, r)
    | r => decimal? negative r

def fixedDigits? (count : Nat) (cs : List Char) : Option (Nat × List Char) :=
  let ds := cs.take count
  if ds.length = count ∧ ds.all Char.isDigit then some (Digits.value ds, cs.drop count) else none

def char? (c : Char) : List Char → Option (List Char)
  | [] => none
  | d :: r => if d == c then some r else none

def date? (cs : List Char) : Option (Date × List Char) := do
  let (year, r) ← fixedDigits? 4 cs
  let r ← char? '-' r
  let (month, r) ← fixedDigits? 2 r
  let r ← char? '-' r
  let (day, r) ← fixedDigits? 2 r
  if Date.valid ⟨year, month, day⟩ then some (⟨year, month, day⟩, r) else none

/-- The fraction of a second, to the nanosecond; digits behind are dropped. -/
def nanosecond (cs : List Char) : Nat × List Char :=
  match cs with
  | '.' :: r =>
    let ds := r.takeWhile Char.isDigit
    if ds.isEmpty then (0, cs)
    else
      let kept := ds.take 9
      (Digits.value kept * Nat.pow 10 (9 - kept.length), r.dropWhile Char.isDigit)
  | _ => (0, cs)

def time? (cs : List Char) : Option (Time × List Char) := do
  let (hour, r) ← fixedDigits? 2 cs
  let r ← char? ':' r
  let (minute, r) ← fixedDigits? 2 r
  let r ← char? ':' r
  let (second, r) ← fixedDigits? 2 r
  let (fraction, r) := nanosecond r
  let t : Time := ⟨hour, minute, second, fraction⟩
  if t.valid then some (t, r) else none

def offsetMinutes? (negative : Bool) (cs : List Char) : Option (Offset × List Char) := do
  let (hour, r) ← fixedDigits? 2 cs
  let r ← char? ':' r
  let (minute, r) ← fixedDigits? 2 r
  if hour ≤ 23 ∧ minute ≤ 59 then
    some (.minutes (Digits.signed negative (60 * hour + minute)), r)
  else none

def offset? (cs : List Char) : Option (Option Offset × List Char) :=
  match cs with
  | 'Z' :: r => some (some .utc, r)
  | 'z' :: r => some (some .utc, r)
  | '+' :: r => (offsetMinutes? false r).map fun (o, r) => (some o, r)
  | '-' :: r => (offsetMinutes? true r).map fun (o, r) => (some o, r)
  | cs => some (none, cs)

def startsTime (cs : List Char) : Bool :=
  match cs with
  | c :: r => (c == 'T' || c == 't' || c == ' ') &&
    ((do let (_, r) ← fixedDigits? 2 r; char? ':' r) : Option (List Char)).isSome
  | [] => false

def dateTime? (cs : List Char) : Option (DateTime × List Char) :=
  match date? cs with
  | some (date, r) =>
    if startsTime r then do
      let (time, r) ← time? r.tail
      let (offset, r) ← offset? r
      return (⟨some date, some time, offset⟩, r)
    else some (⟨some date, none, none⟩, r)
  | none => (time? cs).map fun (time, r) => (⟨none, some time, none⟩, r)

def scalar? (cs : List Char) : Option (Value × List Char) :=
  match cs with
  | 't' :: 'r' :: 'u' :: 'e' :: r => some (.boolean true, r)
  | 'f' :: 'a' :: 'l' :: 's' :: 'e' :: r => some (.boolean false, r)
  | c :: _ =>
    if c == quote || c == apostrophe then (string? cs).map fun (s, r) => (.string s, r)
    else
      match dateTime? cs with
      | some (d, r) => some (.dateTime d, r)
      | none => number? cs
  | [] => none

end VisitorHeader.Toml
