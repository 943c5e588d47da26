import PolicyAttachment.Yaml.Cursor
import PolicyAttachment.Yaml.Scalar

namespace PolicyAttachment.Yaml

def numberLayout : Decimal.Layout := ⟨some (-5, 16), false⟩

def numberText : Number → String
  | .integer i => toString i
  | .double bits => numberLayout.render bits

def isPrintable (c : Char) : Bool :=
  let n := c.toNat
  n = 0x0A || (0x20 ≤ n && n ≤ 0x7E) || (0xA0 ≤ n && n ≠ 0xFEFF && n ≠ 0xFFFE && n ≠ 0xFFFF)

def hasPair (p q : Char → Bool) : List Char → Bool
  | a :: b :: r => (p a && q b) || hasPair p q (b :: r)
  | _ => false

def isSpace (c : Char) : Bool := c = ' '

def startsWithIndicator : List Char → Bool
  | [] => false
  | c :: r =>
    "#,[]\x7b\x7d&*!|>'\"%@`".toList.contains c || ("?:-".toList.contains c && atGap r)

def holdsIndicator : List Char → Bool
  | [] => false
  | a :: r =>
    match r with
    | [] => false
    | b :: r' => (b = ':' && atGap r') || (b = '#' && isGap a) || holdsIndicator r

def looksLikeMark (s : List Char) : Bool := s.take 3 = ['-', '-', '-'] || s.take 3 = ['.', '.', '.']

def isMultiline (s : List Char) : Bool := s.any isBreak

def needsEscapes (s : List Char) : Bool := s.any (!isPrintable ·) || hasPair isSpace isBreak s

def plainAllowed (s : List Char) : Bool :=
  let outer (c : Char) := isSpace c || isBreak c
  !(s.head?.any outer || s.getLast?.any outer || needsEscapes s || isMultiline s ||
    startsWithIndicator s || holdsIndicator s || looksLikeMark s)

def singleAllowed (s : List Char) : Bool := !(needsEscapes s || hasPair isBreak isSpace s)

def literalAllowed (s : List Char) : Bool := !(needsEscapes s || s.getLast?.any isSpace)

inductive Style where
  | plain
  | single
  | double
  | literal
deriving DecidableEq, Repr

def styleOf (s : String) : Style :=
  let cs := s.toList
  if cs.contains '\n' then if literalAllowed cs then .literal else .double
  else if plainValue? s = some (.string s) ∧ !isPadded s ∧ plainAllowed cs then .plain
  else if singleAllowed cs then .single
  else .double

def hexDigits (width n : Nat) : List Char :=
  (List.range width).reverse.map fun k => (Nat.digitChar (n / Nat.pow 16 k % 16)).toUpper

def escape (c : Char) : List Char :=
  match c with
  | '\x00' => ['\\', '0']
  | '\x07' => ['\\', 'a']
  | '\x08' => ['\\', 'b']
  | '\t' => ['\\', 't']
  | '\n' => ['\\', 'n']
  | '\x0B' => ['\\', 'v']
  | '\x0C' => ['\\', 'f']
  | '\r' => ['\\', 'r']
  | '\x1B' => ['\\', 'e']
  | '"' => ['\\', '"']
  | '\\' => ['\\', '\\']
  | '\x85' => ['\\', 'N']
  | '\u2028' => ['\\', 'L']
  | '\u2029' => ['\\', 'P']
  | c =>
    let n := c.toNat
    if n ≤ 0xFF then '\\' :: 'x' :: hexDigits 2 n
    else if n ≤ 0xFFFF then '\\' :: 'u' :: hexDigits 4 n
    else '\\' :: 'U' :: hexDigits 8 n

def doubleQuoted (s : List Char) : List Char :=
  let write (c : Char) := if !isPrintable c || isBreak c || c = '"' || c = '\\' then escape c else [c]
  '"' :: s.flatMap write ++ ['"']

def spaces (n : Nat) : List Char := List.replicate n ' '

def indented (indent : Nat) (write : Char → List Char) (broken : Bool) : List Char → List Char
  | [] => []
  | c :: r =>
    if isBreak c then c :: indented indent write true r
    else (if broken then spaces indent else []) ++ write c ++ indented indent write false r

def singleQuoted (indent : Nat) (s : List Char) : List Char :=
  let write (c : Char) := if c = '\'' then ['\'', '\''] else [c]
  let ending := if s.getLast?.any isBreak then spaces indent else []
  '\'' :: indented indent write false s ++ ending ++ ['\'']

def literalMarks (s : List Char) : List Char :=
  let chomping :=
    match s.reverse with
    | [] => ['-']
    | [c] => if isBreak c then ['+'] else ['-']
    | c :: d :: _ => if !isBreak c then ['-'] else if isBreak d then ['+'] else []
  (if s.head?.any fun c => isSpace c || isBreak c then ['2'] else []) ++ chomping

def literal (indent : Nat) (s : List Char) : List Char :=
  '|' :: literalMarks s ++ '\n' :: indented indent (fun c => [c]) true s

def textIn (n : Nat) (s : String) : List Char :=
  match styleOf s with
  | .plain => s.toList
  | .single => singleQuoted (n + 2) s.toList
  | .double => doubleQuoted s.toList
  | .literal => literal (n + 2) s.toList

def endLine (s : List Char) : List Char := if s.getLast?.any isBreak then s else s ++ ['\n']

def isSimpleKey (key : String) : Bool := !isMultiline key.toList && key.utf8ByteSize ≤ 128

def aligned (n : Nat) (entries : List (List Char)) : List Char := (spaces n).intercalate entries

def leaf (n : Nat) : Document → List Char
  | .null => "null".toList
  | .bool b => if b then "true".toList else "false".toList
  | .number x => (numberText x).toList
  | .string s => textIn n s
  | .array _ => "[]".toList
  | .object _ => "\x7b\x7d".toList

mutual

def afterMark (n : Nat) : Document → List Char
  | .array (d :: ds) => ' ' :: aligned (n + 2) (itemLines (n + 2) (d :: ds))
  | .object (f :: fs) => ' ' :: aligned (n + 2) (fieldLines (n + 2) (f :: fs))
  | d => ' ' :: endLine (leaf n d)

def afterKey (n : Nat) : Document → List Char
  | .array (d :: ds) => '\n' :: spaces n ++ aligned n (itemLines n (d :: ds))
  | .object (f :: fs) => '\n' :: spaces (n + 2) ++ aligned (n + 2) (fieldLines (n + 2) (f :: fs))
  | d => ' ' :: endLine (leaf n d)

def itemLines (n : Nat) : List Document → List (List Char)
  | [] => []
  | d :: ds => ('-' :: afterMark n d) :: itemLines n ds

def fieldLines (n : Nat) : List (String × Document) → List (List Char)
  | [] => []
  | (key, d) :: fs =>
    (if isSimpleKey key then textIn n key ++ ':' :: afterKey n d
      else '?' :: ' ' :: endLine (textIn n key) ++ spaces n ++ ':' :: afterMark n d) ::
      fieldLines n fs

end

def render (d : Document) : String :=
  String.ofList <|
    match d with
    | .array (d :: ds) => aligned 0 (itemLines 0 (d :: ds))
    | .object (f :: fs) => aligned 0 (fieldLines 0 (f :: fs))
    | d => endLine (leaf 0 d)

end PolicyAttachment.Yaml
