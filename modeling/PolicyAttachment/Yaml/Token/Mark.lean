import PolicyAttachment.Text.Digits
import PolicyAttachment.Yaml.Cursor
import PolicyAttachment.Yaml.Tag
import PolicyAttachment.Yaml.Token

namespace PolicyAttachment.Yaml

def anchorName? (c : Cursor) : Option (String × Cursor) :=
  let (name, d) := (c.skip 1).span isNameChar
  if name ≠ [] ∧ (atGap d.rest ∨ d.rest.head?.any ("?:,]\x7d%@`".toList.contains ·)) then
    some (String.ofList name, d)
  else none

def isTagChar (delimited : Bool) (c : Char) : Bool :=
  isNameChar c || ";/?:@&=+$.!~*'()".toList.contains c || (delimited && ",[]".toList.contains c)

def octet? : List Char → Option Nat
  | '%' :: a :: b :: _ => Text.natural? 16 [a, b]
  | _ => none

def octetCount? (first : Nat) : Option Nat :=
  if first < 0x80 then some 1
  else if first / 0x20 = 6 then some 2
  else if first / 0x10 = 14 then some 3
  else if first / 0x08 = 30 then some 4
  else none

def octets? (s : List Char) : Option (List UInt8) := do
  let first ← octet? s
  let count ← octetCount? first
  let more ← (List.range (count - 1)).mapM fun i => do
    let o ← octet? (s.drop (3 * (i + 1)))
    if o / 0x40 = 2 then some (UInt8.ofNat o) else none
  some (UInt8.ofNat first :: more)

def tagText? (delimited : Bool) : (fuel : Nat) → (read : List UInt8) → Cursor →
    Option (List UInt8 × Cursor)
  | 0, _, _ => none
  | fuel + 1, read, c =>
    match c.rest with
    | x :: _ =>
      if x = '%' then do
        let octets ← octets? c.rest
        tagText? delimited fuel (octets.reverse ++ read) (c.skip (3 * octets.length))
      else if isTagChar delimited x then tagText? delimited fuel (x.toUInt8 :: read) (c.skip 1)
      else some (read.reverse, c)
    | [] => some (read.reverse, c)

def tagRun? (delimited : Bool) (c : Cursor) : Option (List UInt8 × Cursor) :=
  let run := c.rest.takeWhile fun x => x = '%' || isTagChar delimited x
  tagText? delimited (run.length + 1) [] c

def nonempty? (p : List UInt8 × Cursor) : Option (List UInt8 × Cursor) :=
  if p.1.isEmpty then none else some p

def handle? (c : Cursor) : Option (List Char × Cursor) :=
  if c.sees '!' then
    let (name, d) := (c.skip 1).span isNameChar
    if d.sees '!' then some ('!' :: name ++ ['!'], d.skip 1) else some ('!' :: name, d)
  else none

def isClosed (handle : List Char) : Bool := handle.length ≥ 2 && handle.getLast? = some '!'

def tagParts? (c : Cursor) : Option (List Char × List UInt8 × Cursor) :=
  if (c.skip 1).sees '<' then do
    let (suffix, d) ← (tagRun? true (c.skip 2)).bind nonempty?
    if d.sees '>' then some ([], suffix, d.skip 1) else none
  else do
    let (handle, d) ← handle? c
    if isClosed handle then
      let (suffix, e) ← (tagRun? false d).bind nonempty?
      some (handle, suffix, e)
    else
      let (suffix, e) ← tagRun? false d
      let suffix := (handle.drop 1).map Char.toUInt8 ++ suffix
      if (beforeZero suffix).isEmpty then some ([], octetsOf "!", e) else some (['!'], suffix, e)

def tag? (flow : Bool) (c : Cursor) : Option (Token × Cursor) := do
  let (handle, suffix, d) ← tagParts? c
  if atGap d.rest ∨ (flow ∧ d.sees ',') then
    some (.tag (String.ofList handle) suffix, d)
  else none

def versionNumber? (c : Cursor) : Option (Nat × Cursor) :=
  let (digits, d) := c.span Char.isDigit
  if digits ≠ [] ∧ digits.length ≤ 9 then
    some (digits.foldl (fun n x => 10 * n + (x.toNat - '0'.toNat)) 0, d)
  else none

def version? (c : Cursor) : Option (Token × Cursor) := do
  let (major, c) ← versionNumber? (c.skipWhile isBlank)
  if c.sees '.' then
    let (minor, c) ← versionNumber? (c.skip 1)
    some (.version major minor, c)
  else none

def shorthand? (c : Cursor) : Option (Token × Cursor) := do
  let (handle, c) ← handle? (c.skipWhile isBlank)
  if (handle = ['!'] ∨ isClosed handle) ∧ c.rest.head?.any isBlank then
    let (full, c) ← (tagRun? true (c.skipWhile isBlank)).bind nonempty?
    if atGap c.rest then some (.shorthand (String.ofList handle) full, c) else none
  else none

def directive? (c : Cursor) : Option (Token × Cursor) := do
  let (name, c) := (c.skip 1).span isNameChar
  if !atGap c.rest then none
  else
    let (t, c) ←
      if name = "YAML".toList then version? c
      else if name = "TAG".toList then shorthand? c
      else none
    some (t, ← c.emptyRest?)

end PolicyAttachment.Yaml
