import PolicyAttachment.Document
import PolicyAttachment.Text.Digits
import PolicyAttachment.Yaml.Node

namespace PolicyAttachment.Yaml

def isNull (s : String) : Bool := s = "null" || s = "Null" || s = "NULL" || s = "~"

def bool? (s : String) : Option Bool :=
  if s = "true" ∨ s = "True" ∨ s = "TRUE" then some true
  else if s = "false" ∨ s = "False" ∨ s = "FALSE" then some false
  else none

def basedNatural? : List Char → Option Nat
  | '0' :: 'x' :: r => Text.natural? 16 r
  | '0' :: 'o' :: r => Text.natural? 8 r
  | '0' :: 'b' :: r => Text.natural? 2 r
  | s => Text.natural? 10 s

def signed : List Char → Bool × List Char
  | '-' :: r => (true, r)
  | '+' :: r => (false, r)
  | r => (false, r)

def isPadded (s : String) : Bool :=
  match (signed s.toList).2 with
  | '0' :: d :: r => (d :: r).all Char.isDigit
  | _ => false

def integer? (s : String) : Option Int :=
  if isPadded s then none
  else do
    let (negative, digits) := signed s.toList
    let n ← basedNatural? digits
    let i : Int := if negative then -n else n
    if -0x80000000000000000000000000000000 ≤ i ∧ i ≤ 0xFFFFFFFFFFFFFFFFFFFFFFFFFFFFFFFF then some i
    else none

def integerValue? (i : Int) : Option Document :=
  if Number.least ≤ i ∧ i ≤ Number.greatest then some (.ofInt i) else none

def isInfinite (s : String) : Bool := s = ".inf" || s = ".Inf" || s = ".INF"

def float? (s : String) : Option Document :=
  let magnitude := String.ofList (signed s.toList).2
  if isInfinite magnitude ∨ s = ".nan" ∨ s = ".NaN" ∨ s = ".NAN" then some .null
  else do
    let bits ← (← Decimal.Literal.parse? s.toList).toDouble?
    some (.number (.double bits))

def plainValue? (s : String) : Option Document :=
  if s.isEmpty ∨ isNull s then some .null
  else
    match bool? s, integer? s with
    | some b, _ => some (.bool b)
    | none, some i => integerValue? i
    | none, none => some ((if isPadded s then none else float? s).getD (.string s))

def Scalar.value? (s : Scalar) : Option Document :=
  match s.tag with
  | none => if s.plain then plainValue? s.text else some (.string s.text)
  | some t =>
    if t.isLocal then none
    else if t = .core "bool" then (bool? s.text).map .bool
    else if t = .core "int" then (integer? s.text).bind integerValue?
    else if t = .core "float" then float? s.text
    else if t = .core "null" then if isNull s.text then some .null else none
    else if t.isMarked ∧ s.plain then plainValue? s.text
    else some (.string s.text)

end PolicyAttachment.Yaml
