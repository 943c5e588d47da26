import PolicyAttachment.Decimal.Double

namespace PolicyAttachment.Decimal

def floorLog10 (n d : Nat) : Int :=
  let k : Int := (width n : Int) - width d
  if Nat.pow 10 (-k).toNat * n ≥ Nat.pow 10 k.toNat * d then k else k - 1

/-- The positive reals that round to one double, over a common denominator. -/
structure Interval where
  low : Nat
  value : Nat
  high : Nat
  denominator : Nat
  closed : Bool

def Interval.ofBinary (b : Binary) : Interval :=
  let e := b.exponent - 2
  let s := 1 <<< e.toNat
  let below := if b.mantissa = hiddenBit ∧ b.exponent > -1074 then 1 else 2
  ⟨(4 * b.mantissa - below) * s, 4 * b.mantissa * s, (4 * b.mantissa + 2) * s, 1 <<< (-e).toNat,
    b.mantissa % 2 = 0⟩

def Interval.onGrid? (i : Interval) (p : Int) : Option Nat :=
  let unit := Nat.pow 10 p.toNat * i.denominator
  let scale := Nat.pow 10 (-p).toNat
  let value := i.value * scale
  let inside (n : Nat) : Bool :=
    let x := n * unit
    if i.closed then i.low * scale ≤ x && x ≤ i.high * scale
    else i.low * scale < x && x < i.high * scale
  let n := value / unit
  match inside n, inside (n + 1) with
  | true, true => some (roundHalfEven value unit)
  | true, false => some n
  | false, true => some (n + 1)
  | false, false => none

def stripZeros : Nat → Nat → Int → Nat × Int
  | 0, n, e => (n, e)
  | k + 1, n, e => if n % 10 = 0 then stripZeros k (n / 10) (e + 1) else (n, e)

def shortest (b : Binary) : Nat × Int :=
  let i := Interval.ofBinary b
  let top := floorLog10 i.value i.denominator
  let grids := (List.range 17).map fun k : Nat => top - (k : Int)
  match grids.findSome? fun p => (i.onGrid? p).map fun n => (n, p) with
  | some (n, p) => stripZeros 20 n p
  | none => (0, 0)

structure Layout where
  positional : Option (Int × Int)
  plus : Bool

def zeros (n : Nat) : List Char := List.replicate n '0'

def Layout.text (l : Layout) (n : Nat) (e : Int) : List Char :=
  let ds := Nat.toDigits 10 n
  let point := (ds.length : Int) + e
  if (l.positional.map fun r => r.1 < point && point ≤ r.2).getD true then
    if point ≤ 0 then '0' :: '.' :: zeros (-point).toNat ++ ds
    else if e ≥ 0 then ds ++ zeros e.toNat ++ ['.', '0']
    else ds.take point.toNat ++ '.' :: ds.drop point.toNat
  else
    let x := point - 1
    let fraction := if ds.length > 1 then '.' :: ds.drop 1 else []
    let sign := if x < 0 then ['-'] else if l.plus then ['+'] else []
    ds.take 1 ++ fraction ++ 'e' :: sign ++ Nat.toDigits 10 x.natAbs

def Layout.render (l : Layout) (bits : UInt64) : String :=
  let b := Binary.ofBits bits
  let magnitude :=
    if b.mantissa = 0 then ['0', '.', '0']
    else
      let (n, e) := shortest b
      l.text n e
  String.ofList (if b.negative then '-' :: magnitude else magnitude)

end PolicyAttachment.Decimal
