namespace PolicyAttachment.Decimal

structure Literal where
  negative : Bool
  digits : Nat
  exponent : Int
deriving DecidableEq, Repr

def width (n : Nat) : Nat := (Nat.toDigits 10 n).length

def roundHalfEven (n d : Nat) : Nat :=
  let q := n / d
  match compare (2 * (n % d)) d with
  | .lt => q
  | .eq => q + q % 2
  | .gt => q + 1

def floorLog2 (n d : Nat) : Int :=
  let e : Int := n.log2 - d.log2
  if n <<< (-e).toNat ≥ d <<< e.toNat then e else e - 1

def hiddenBit : Nat := 0x10000000000000

def signBit : Nat := 0x8000000000000000

def infinityBits : Nat := 0x7FF0000000000000

def nearestBits? (n d : Nat) : Option Nat :=
  let q := max (floorLog2 n d - 52) (-1074)
  let m := roundHalfEven (n <<< (-q).toNat) (d <<< q.toNat)
  let bits := (q + 1074).toNat * hiddenBit + m
  if bits < infinityBits then some bits else none

/-- The double nearest to a decimal, unless that is infinite. Exponents far outside the range of
doubles are settled by the number of digits alone. -/
def Literal.toDouble? (l : Literal) : Option UInt64 :=
  let sign := if l.negative then signBit else 0
  let size := (width l.digits : Int) + l.exponent
  if l.digits = 0 ∨ size < -330 then some (UInt64.ofNat sign)
  else if size > 310 then none
  else
    (nearestBits? (l.digits * Nat.pow 10 l.exponent.toNat) (Nat.pow 10 (-l.exponent).toNat)).map
      fun bits => UInt64.ofNat (sign + bits)

structure Binary where
  negative : Bool
  mantissa : Nat
  exponent : Int
deriving DecidableEq, Repr

def Binary.ofBits (bits : UInt64) : Binary :=
  let b := bits.toNat
  let e : Nat := b / hiddenBit % 0x800
  let f : Nat := b % hiddenBit
  if e = 0 then ⟨decide (b ≥ signBit), f, -1074⟩
  else ⟨decide (b ≥ signBit), hiddenBit + f, (e : Int) - 1075⟩

def Literal.parse? (s : List Char) : Option Literal :=
  let signed (s : List Char) : Bool × List Char :=
    match s with
    | '-' :: r => (true, r)
    | '+' :: r => (false, r)
    | r => (false, r)
  let number (s : List Char) : Nat := s.foldl (fun n c => 10 * n + (c.toNat - '0'.toNat)) 0
  let (negative, s) := signed s
  let whole := s.takeWhile Char.isDigit
  let s := s.dropWhile Char.isDigit
  let (fraction, s) :=
    match s with
    | '.' :: r => (r.takeWhile Char.isDigit, r.dropWhile Char.isDigit)
    | r => ([], r)
  let digits := whole ++ fraction
  let shift : Int := -(fraction.length : Int)
  if digits.isEmpty then none
  else
    match s with
    | [] => some ⟨negative, number digits, shift⟩
    | c :: r =>
      let (down, r) := signed r
      if (c = 'e' ∨ c = 'E') ∧ r ≠ [] ∧ r.all Char.isDigit then
        let e : Int := number r
        some ⟨negative, number digits, shift + if down then -e else e⟩
      else none

end PolicyAttachment.Decimal
