import PolicyAttachment.Yaml.Token.Mark
import PolicyAttachment.Yaml.Token.Scalar

namespace PolicyAttachment.Yaml

structure KeyStart where
  number : Nat
  index : Nat
  line : Nat
  column : Nat
  required : Bool
deriving DecidableEq, Repr

def KeyStart.isPast (k : KeyStart) (c : Cursor) : Bool :=
  k.line < c.line || k.index + 1024 < c.index

structure Lexer where
  cursor : Cursor
  cut : Bool := false
  indent : Int := -1
  outerIndents : List Int := []
  key : Option KeyStart := none
  outerKeys : List (Option KeyStart) := []
  keyAllowed : Bool := true
  held : List Token := []
  released : Nat := 0
  ended : Bool := false
deriving Inhabited

namespace Lexer

def isShort (l : Lexer) (n : Nat) : Bool := l.cut && (l.cursor.rest.drop n).isEmpty

def inFlow (l : Lexer) : Bool := !l.outerKeys.isEmpty

def push (l : Lexer) (t : Token) : Lexer := { l with held := l.held ++ [t] }

def nextNumber (l : Lexer) : Nat := l.released + l.held.length

def insertAt (l : Lexer) (number : Nat) (t : Token) : Lexer :=
  let (before, after) := l.held.splitAt (number - l.released)
  { l with held := before ++ t :: after }

def dropKey? (l : Lexer) : Option Lexer :=
  if l.key.any (·.required) then none else some { l with key := none }

def noteKey? (l : Lexer) : Option Lexer :=
  if l.keyAllowed then do
    let c := l.cursor
    let required := !l.inFlow && l.indent = c.column
    let l ← l.dropKey?
    some { l with key := some ⟨l.nextNumber, c.index, c.line, c.column, required⟩ }
  else some l

def forgetPast? (c : Cursor) : Option KeyStart → Option (Option KeyStart)
  | none => some none
  | some k => if k.isPast c then (if k.required then none else some none) else some (some k)

def forgetKeys? (l : Lexer) : Option Lexer := do
  let outerKeys ← l.outerKeys.mapM (forgetPast? l.cursor)
  let key ← forgetPast? l.cursor l.key
  some { l with key, outerKeys }

def openBlock (l : Lexer) (column : Nat) (t : Token) (number : Nat) : Lexer :=
  if l.inFlow ∨ column ≤ l.indent then l
  else { l.insertAt number t with indent := column, outerIndents := l.indent :: l.outerIndents }

def closeBlocks (column : Int) (indent : Int) (held : List Token) :
    List Int → Int × List Int × List Token
  | [] => (indent, [], held)
  | outer :: outers =>
    if column < indent then closeBlocks column outer (held ++ [.blockEnd]) outers
    else (indent, outer :: outers, held)

def closeTo (l : Lexer) (column : Int) : Lexer :=
  if l.inFlow then l
  else
    let (indent, outerIndents, held) := closeBlocks column l.indent l.held l.outerIndents
    { l with indent, outerIndents, held }

def mark (l : Lexer) (t : Token) (n : Nat) : Lexer := { l.push t with cursor := l.cursor.skip n }

def take (l : Lexer) (r : Option (Token × Cursor)) : Option Lexer :=
  r.map fun (t, cursor) => { l.push t with cursor, keyAllowed := false }

def endStream? (l : Lexer) : Option Lexer := do
  let c := l.cursor
  let cursor := if c.column = 0 then c else { c with line := c.line + 1, column := 0 }
  let l ← ({ l with cursor }.closeTo (-1)).dropKey?
  some { l.push .streamEnd with keyAllowed := false, ended := true }

def takeDirective? (l : Lexer) : Option Lexer := do
  let l ← (l.closeTo (-1)).dropKey?
  let l ← l.take (directive? l.cursor)
  if l.isShort 0 then none else some l

def takeDocumentMarker? (l : Lexer) (t : Token) : Option Lexer := do
  let l ← (l.closeTo (-1)).dropKey?
  some { l.mark t 3 with keyAllowed := false }

def openFlow? (l : Lexer) (t : Token) : Option Lexer := do
  let l ← l.noteKey?
  some { l.mark t 1 with key := none, outerKeys := l.key :: l.outerKeys, keyAllowed := true }

def closeFlow? (l : Lexer) (t : Token) : Option Lexer := do
  let l ← l.dropKey?
  let l := { l.mark t 1 with keyAllowed := false }
  match l.outerKeys with
  | key :: outerKeys => some { l with key, outerKeys }
  | [] => some l

def takeComma? (l : Lexer) : Option Lexer := do
  let l ← l.dropKey?
  some { l.mark .comma 1 with keyAllowed := true }

def openHere? (l : Lexer) (t : Token) : Option Lexer :=
  if l.inFlow then some l
  else if l.keyAllowed then some (l.openBlock l.cursor.column t l.nextNumber)
  else none

def takeItem? (l : Lexer) : Option Lexer := do
  let l ← (← l.openHere? .blockSequence).dropKey?
  some { l.mark .item 1 with keyAllowed := true }

def takeKey? (l : Lexer) : Option Lexer := do
  let l ← (← l.openHere? .blockMapping).dropKey?
  some { l.mark .key 1 with keyAllowed := !l.inFlow }

def takeValue? (l : Lexer) : Option Lexer :=
  match l.key with
  | some k =>
    let l := (l.insertAt k.number .key).openBlock k.column .blockMapping k.number
    some { l.mark .value 1 with key := none, keyAllowed := false }
  | none => do
    let l ← l.openHere? .blockMapping
    some { l.mark .value 1 with keyAllowed := !l.inFlow }

def takeAlias? (l : Lexer) : Option Lexer := do
  let l ← l.noteKey?
  l.take ((anchorName? l.cursor).map fun (name, c) => (.aliased name, c))

def takeAnchor? (l : Lexer) : Option Lexer := do
  let l ← l.noteKey?
  l.take ((anchorName? l.cursor).map fun (name, c) => (.anchor name, c))

def takeTag? (l : Lexer) : Option Lexer := do
  let l ← l.noteKey?
  l.take (tag? l.inFlow l.cursor)

def takeQuoted? (l : Lexer) (double : Bool) : Option Lexer := do
  let l ← l.noteKey?
  l.take ((quoted? double l.cursor).map fun (s, c) => (.scalar false (String.ofList s), c))

def takeBlock? (l : Lexer) (literal : Bool) : Option Lexer := do
  let l ← l.dropKey?
  let (s, cursor) ← block? literal l.indent l.cursor
  some { l.push (.scalar false (String.ofList s)) with cursor, keyAllowed := true }

def takePlain? (l : Lexer) : Option Lexer := do
  let l ← l.noteKey?
  let p ← plain? l.inFlow (l.indent + 1).toNat l.cursor
  some { l.push (.scalar true (String.ofList p.text)) with cursor := p.cursor, keyAllowed := p.broken }

def indicators : List Char := "-?:,[]\x7b\x7d#&*!|>'\"%@`".toList

def startsPlain (flow : Bool) (x : Char) (r : List Char) : Bool :=
  !(isGap x || indicators.contains x) || (x = '-' && !r.head?.any isBlank) ||
    (!flow && (x = '?' || x = ':') && !atGap r)

def passGaps (flow : Bool) (keyAllowed : Bool) (c : Cursor) : Bool × Cursor :=
  let c₁ := if c.column = 0 ∧ c.sees '\uFEFF' then c.skip 1 else c
  let c₂ := c₁.skipWhile fun x => x = ' ' || ((flow || !keyAllowed) && x = '\t')
  let c₃ := if c₂.sees '#' then c₂.skipWhile fun x => !isBreak x else c₂
  match h : c₃.newline? with
  | some (_, d) =>
    have : d.rest.length < c.rest.length := by
      have h₁ : c₁.rest.length ≤ c.rest.length := by
        unfold c₁; split <;> simp [Cursor.length_skip_le]
      have h₂ : c₂.rest.length ≤ c₁.rest.length := c₁.length_skipWhile_le _
      have h₃ : c₃.rest.length ≤ c₂.rest.length := by
        unfold c₃; split <;> simp [Cursor.length_skipWhile_le]
      have := Cursor.length_newline?_lt h
      omega
    passGaps flow (keyAllowed || !flow) d
  | none => (keyAllowed, c₃)
termination_by c.rest.length

def takeToken? (l : Lexer) : Option Lexer :=
  let flow := l.inFlow
  let c := l.cursor
  match c.rest with
  | [] => l.endStream?
  | x :: r =>
    if x = '%' ∧ c.column = 0 then l.takeDirective?
    else if c.atMarker '-' then l.takeDocumentMarker? .documentStart
    else if c.atMarker '.' then l.takeDocumentMarker? .documentEnd
    else if x = '[' then l.openFlow? .flowSequence
    else if x = '\x7b' then l.openFlow? .flowMapping
    else if x = ']' then l.closeFlow? .flowSequenceEnd
    else if x = '\x7d' then l.closeFlow? .flowMappingEnd
    else if x = ',' then l.takeComma?
    else if x = '-' ∧ atGap r then l.takeItem?
    else if x = '?' ∧ (flow ∨ atGap r) then l.takeKey?
    else if x = ':' ∧ (flow ∨ atGap r) then l.takeValue?
    else if x = '*' then l.takeAlias?
    else if x = '&' then l.takeAnchor?
    else if x = '!' then l.takeTag?
    else if x = '|' ∧ !flow then l.takeBlock? true
    else if x = '>' ∧ !flow then l.takeBlock? false
    else if x = '\'' then l.takeQuoted? false
    else if x = '"' then l.takeQuoted? true
    else if startsPlain flow x r then l.takePlain?
    else none

def next? (l : Lexer) : Option Lexer := do
  let (keyAllowed, cursor) := passGaps l.inFlow l.keyAllowed l.cursor
  let l ← { l with keyAllowed, cursor }.forgetKeys?
  if l.isShort 3 then none
  else do (← (l.closeTo cursor.column).takeToken?).forgetKeys?

def release (l : Lexer) : List Token × Lexer :=
  let starts := ((l.key :: l.outerKeys).filterMap id).map (·.number)
  let count := (starts.min?.getD l.nextNumber) - l.released
  let (out, held) := l.held.splitAt count
  (out, { l with held, released := l.released + out.length })

def run : (fuel : Nat) → Lexer → List Token → List Token
  | 0, _, read => read.reverse
  | fuel + 1, l, read =>
    if l.ended then read.reverse
    else
      match l.next? with
      | none => read.reverse
      | some l =>
        let (out, l) := l.release
        run fuel l (out.reverseAux read)

end Lexer

def isAllowed (c : Char) : Bool :=
  let n := c.toNat
  n = 0x09 || n = 0x0A || n = 0x0D || (0x20 ≤ n && n ≤ 0x7E) || n = 0x85 ||
    (0xA0 ≤ n && n ≠ 0xFFFE && n ≠ 0xFFFF)

def allowedWithin (bytes : Nat) : List Char → Bool
  | [] => true
  | c :: r => bytes < c.utf8Size || (isAllowed c && allowedWithin (bytes - c.utf8Size) r)

/-- The characters of a text that are read. The text is read by 16 KiB, of which none is read if one
character is not allowed; `left` bytes are known to be allowed. -/
def readable (left : Nat) : List Char → List Char
  | [] => []
  | c :: r =>
    if c.utf8Size ≤ left then c :: readable (left - c.utf8Size) r
    else if allowedWithin 0x4000 (c :: r) then c :: readable (0x4000 - c.utf8Size) r
    else []

def Token.ofText (s : String) : List Token :=
  let all := s.toList
  let text := readable 0 all
  Lexer.run (text.length + 2) { cursor := .start text, cut := text.length < all.length } []

end PolicyAttachment.Yaml
