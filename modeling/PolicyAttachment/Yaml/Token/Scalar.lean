import PolicyAttachment.Text.Digits
import PolicyAttachment.Yaml.Cursor

namespace PolicyAttachment.Yaml

def plainWord? (flow : Bool) (n : Nat) : List Char → Option Nat
  | [] => some n
  | c :: r =>
    if isGap c then some n
    else if flow && c = ':' && r.head?.any (",?[]\x7b\x7d".toList.contains ·) then none
    else if c = ':' && atGap r then some n
    else if flow && ",[]\x7b\x7d".toList.contains c then some n
    else plainWord? flow (n + 1) r

structure PlainText where
  text : List Char
  broken : Bool
  cursor : Cursor

def plainFrom? (flow : Bool) (margin : Nat) (read : List Char) (g : Gap) (c : Cursor) :
    Option PlainText :=
  if c.atDocumentMarker || c.sees '#' then some ⟨read.reverse, g.broken, c⟩
  else
    match plainWord? flow 0 c.rest with
    | none => none
    | some n =>
      let word := (c.rest.take n).reverseAux (g.text.reverseAux read)
      let (read, g) := if n = 0 then (read, g) else (word, {})
      if hd : (c.skip n).seesGap then
        match h : (c.skip n).gap? margin g with
        | none => none
        | some (g, e) =>
          have := Nat.lt_of_lt_of_le (Cursor.length_gap?_lt hd h) (c.length_skip_le n)
          if !flow && e.column < margin then some ⟨read.reverse, g.broken, e⟩
          else plainFrom? flow margin read g e
      else some ⟨read.reverse, g.broken, c.skip n⟩
termination_by c.rest.length

def plain? (flow : Bool) (margin : Nat) (c : Cursor) : Option PlainText :=
  plainFrom? flow margin [] {} c

def simpleEscape? : Char → Option Char
  | '0' => some '\x00'
  | 'a' => some '\x07'
  | 'b' => some '\x08'
  | 't' => some '\t'
  | '\t' => some '\t'
  | 'n' => some '\n'
  | 'v' => some '\x0B'
  | 'f' => some '\x0C'
  | 'r' => some '\r'
  | 'e' => some '\x1B'
  | ' ' => some ' '
  | '"' => some '"'
  | '/' => some '/'
  | '\\' => some '\\'
  | 'N' => some '\x85'
  | '_' => some '\xA0'
  | 'L' => some '\u2028'
  | 'P' => some '\u2029'
  | _ => none

def escapeWidth? : Char → Option Nat
  | 'x' => some 2
  | 'u' => some 4
  | 'U' => some 8
  | _ => none

def escape? : List Char → Option (Char × Nat)
  | [] => none
  | c :: r =>
    match escapeWidth? c with
    | some width => do some (← Text.charOfNumber? (← Text.hexNumber? width r), width + 2)
    | none => (simpleEscape? c).map fun x => (x, 2)

def singleRun (read : List Char) (n : Nat) : List Char → List Char × Nat
  | '\'' :: '\'' :: r => singleRun ('\'' :: read) (n + 2) r
  | c :: r => if isGap c ∨ c = '\'' then (read, n) else singleRun (c :: read) (n + 1) r
  | [] => (read, n)

def doubleRun? (read : List Char) (n : Nat) : List Char → Option (List Char × Nat)
  | [] => some (read, n)
  | c :: r =>
    if isGap c ∨ c = '"' then some (read, n)
    else if c = '\\' then
      if r.head?.any isBreak then some (read, n)
      else
        match escape? r with
        | none => none
        | some (x, k) => doubleRun? (x :: read) (n + k) (r.drop (k - 1))
    else doubleRun? (c :: read) (n + 1) r
termination_by s => s.length
decreasing_by all_goals simp only [List.length_drop, List.length_cons]; omega

def quotedRun? (double : Bool) (read : List Char) (s : List Char) : Option (List Char × Nat) :=
  if double then doubleRun? read 0 s else some (singleRun read 0 s)

def quotedFrom? (double : Bool) (read : List Char) (c : Cursor) : Option (List Char × Cursor) :=
  if c.atDocumentMarker then none
  else
    match quotedRun? double read c.rest with
    | none => none
    | some (read, n) =>
      have := c.length_skip_le n
      if (c.skip n).sees (if double then '"' else '\'') then
        some (read.reverse, (c.skip n).skip 1)
      else if hd : (c.skip n).seesGap then
        match h : (c.skip n).gap? 0 {} with
        | none => none
        | some (g, d) =>
          have := Cursor.length_gap?_lt hd h
          quotedFrom? double (g.text.reverseAux read) d
      else if (c.skip n).sees '\\' then
        match hb : ((c.skip n).skip 1).newline? with
        | none => none
        | some (_, e) =>
          match h : e.gap? 0 { broken := true, escaped := true } with
          | none => none
          | some (g, d) =>
            have := Cursor.length_gap?_le h
            have := Cursor.length_newline?_lt hb
            have := (c.skip n).length_skip_le 1
            quotedFrom? double (g.text.reverseAux read) d
      else none
termination_by c.rest.length

def quoted? (double : Bool) (c : Cursor) : Option (List Char × Cursor) :=
  quotedFrom? double [] (c.skip 1)

inductive Chomping where
  | strip
  | clip
  | keep
deriving DecidableEq, Repr

def chomping? : Char → Option Chomping
  | '+' => some .keep
  | '-' => some .strip
  | _ => none

def indentDigit? (c : Char) : Option Nat :=
  if c.isDigit ∧ c ≠ '0' then some (c.toNat - '0'.toNat) else none

structure BlockHeader where
  chomping : Chomping
  indent : Option Nat

def blockHeader? (c : Cursor) : Option (BlockHeader × Cursor) :=
  match c.rest with
  | x :: r =>
    match chomping? x with
    | some chomping =>
      match r with
      | y :: _ =>
        if y.isDigit then (indentDigit? y).map fun n => (⟨chomping, some n⟩, c.skip 2)
        else some (⟨chomping, none⟩, c.skip 1)
      | [] => some (⟨chomping, none⟩, c.skip 1)
    | none =>
      if x.isDigit then do
        let n ← indentDigit? x
        match r.head?.bind chomping? with
        | some chomping => some (⟨chomping, some n⟩, c.skip 2)
        | none => some (⟨.clip, some n⟩, c.skip 1)
      else some (⟨.clip, none⟩, c)
  | [] => some (⟨.clip, none⟩, c)

structure BlankLines where
  breaks : List Char
  width : Nat
  cursor : Cursor

def blankLines? (indent : Option Nat) (c : Cursor) (breaks : List Char) (width : Nat) :
    Option BlankLines :=
  let within (d : Cursor) : Bool := indent.all (d.column < ·)
  let blanks := (c.rest.takeWhile (· = ' ')).length
  let d := c.skip (indent.elim blanks fun n => min blanks (n - c.column))
  let width := max width d.column
  if within d && d.sees '\t' then none
  else
    match h : d.newline? with
    | some (b, e) =>
      have : d.rest.length ≤ c.rest.length := c.length_skip_le _
      have := Cursor.length_newline?_lt h
      blankLines? indent e (breaks ++ [b]) width
    | none => some ⟨breaks, width, d⟩
termination_by c.rest.length

theorem length_blankLines?_le {indent : Option Nat} {c : Cursor} {breaks : List Char} {width : Nat}
    {b : BlankLines} (h : blankLines? indent c breaks width = some b) :
    b.cursor.rest.length ≤ c.rest.length := by
  fun_induction blankLines? indent c breaks width with
  | case1 => simp only [reduceCtorEq] at h
  | case2 c breaks width _ blanks d _ _ _ e hn hle hlt ih =>
    exact Nat.le_trans (ih h) (Nat.le_trans (Nat.le_of_lt hlt) hle)
  | case3 c breaks width _ blanks d _ _ hn =>
    obtain rfl := Option.some.inj h
    exact c.length_skip_le _

structure BlockLines where
  read : List Char
  last : List Char
  blank : Bool
  breaks : List Char
  cursor : Cursor

/-- Reads the lines of a block. A break between two lines that start with no blank is folded, unless
the block is literal: it is a blank, or nothing where blank lines follow it. -/
def blockLines? (literal : Bool) (indent : Nat) (b : BlockLines) : Option BlockLines :=
  if b.cursor.column ≠ indent ∨ b.cursor.atEnd then some b
  else
    let c := b.cursor
    let blank := c.rest.head?.any isBlank
    let folded := !literal && b.last = ['\n'] && !b.blank && !blank
    let last := if folded then (if b.breaks.isEmpty then [' '] else []) else b.last
    let line := c.rest.takeWhile fun x => !isBreak x
    let read := line.reverseAux (b.breaks.reverseAux (last.reverseAux b.read))
    match hn : (c.skip line.length).newline? with
    | none => some ⟨read, [], blank, [], c.skip line.length⟩
    | some (x, d) =>
      match h : blankLines? (some indent) d [] 0 with
      | none => none
      | some next =>
        have : next.cursor.rest.length < b.cursor.rest.length :=
          Nat.lt_of_le_of_lt (length_blankLines?_le h)
            (Nat.lt_of_lt_of_le (Cursor.length_newline?_lt hn) (b.cursor.length_skip_le _))
        blockLines? literal indent ⟨read, [x], blank, next.breaks, next.cursor⟩
termination_by b.cursor.rest.length

def block? (literal : Bool) (parent : Int) (c : Cursor) : Option (List Char × Cursor) := do
  let (header, c) ← blockHeader? (c.skip 1)
  let c ← c.emptyRest?
  let stated := header.indent.map fun n => parent.toNat + n
  let first ← blankLines? stated c [] 0
  let indent := stated.getD (max first.width (max (parent + 1).toNat 1))
  let b ← blockLines? literal indent ⟨[], [], false, first.breaks, first.cursor⟩
  let ending :=
    match header.chomping with
    | .strip => []
    | .clip => b.last
    | .keep => b.last ++ b.breaks
  some (b.read.reverse ++ ending, b.cursor)

end PolicyAttachment.Yaml
