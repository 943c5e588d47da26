import PolicyAttachment.Yaml.Node
import PolicyAttachment.Yaml.Token

namespace PolicyAttachment.Yaml

abbrev Shorthands := List (String × List UInt8)

def standardShorthands : Shorthands :=
  [("!", octetsOf "!"), ("!!", octetsOf "tag:yaml.org,2002:")]

def Shorthands.tag? (hs : Shorthands) (handle : String) (suffix : List UInt8) : Option Tag :=
  if handle.isEmpty then some (.whole suffix)
  else (hs.lookup handle).map fun full => .joined full suffix

structure Properties where
  anchor : Option String := none
  tag : Option Tag := none

namespace Properties

def isEmpty (p : Properties) : Bool := p.anchor.isNone && p.tag.isNone

def wrap (p : Properties) (n : Node String) : Node String :=
  match p.anchor with
  | some a => .anchored a n
  | none => n

def scalar (p : Properties) (plain : Bool) (text : String) : Node String :=
  p.wrap (.scalar ⟨p.tag, plain, text⟩)

end Properties

def properties? (hs : Shorthands) : List Token → Option (Properties × List Token)
  | .anchor a :: .tag h s :: ts => do some (⟨some a, some (← hs.tag? h s)⟩, ts)
  | .tag h s :: .anchor a :: ts => do some (⟨some a, some (← hs.tag? h s)⟩, ts)
  | .anchor a :: ts => some (⟨some a, none⟩, ts)
  | .tag h s :: ts => do some (⟨none, some (← hs.tag? h s)⟩, ts)
  | ts => some ({}, ts)

inductive Context where
  | flow
  | block
  | blockMapping
deriving DecidableEq, Repr

def omitted : List Token → Bool
  | .key :: _ | .value :: _ | .blockEnd :: _ => true
  | _ => false

def afterComma? (first : Bool) (ts : List Token) : Option (List Token) :=
  match ts with
  | .comma :: r => some (if first then ts else r)
  | _ => if first then some ts else none

abbrev Items := List (Node String)

abbrev Entries := List (Node String × Node String)

mutual

def node? (hs : Shorthands) (cx : Context) : (fuel : Nat) → List Token →
    Option (Node String × List Token)
  | 0, _ => none
  | _ + 1, .aliased name :: ts => some (.aliased name, ts)
  | fuel + 1, ts => do
    let (p, ts) ← properties? hs ts
    match ts, cx with
    | .scalar plain text :: ts, _ => some (p.scalar plain text, ts)
    | .flowSequence :: ts, _ =>
      let (items, ts) ← flowItems? hs fuel true [] ts
      some (p.wrap (.sequence p.tag items), ts)
    | .flowMapping :: ts, _ =>
      let (entries, ts) ← flowEntries? hs fuel true [] ts
      some (p.wrap (.mapping p.tag entries), ts)
    | .item :: _, .blockMapping =>
      let (items, ts) ← looseItems? hs fuel [] ts
      some (p.wrap (.sequence p.tag items), ts)
    | .blockSequence :: ts, .block | .blockSequence :: ts, .blockMapping =>
      let (items, ts) ← blockItems? hs fuel [] ts
      some (p.wrap (.sequence p.tag items), ts)
    | .blockMapping :: ts, .block | .blockMapping :: ts, .blockMapping =>
      let (entries, ts) ← blockEntries? hs fuel [] ts
      some (p.wrap (.mapping p.tag entries), ts)
    | [], _ => none
    | ts, _ => if p.isEmpty then none else some (p.scalar true "", ts)

def blockItems? (hs : Shorthands) : (fuel : Nat) → (read : Items) → List Token →
    Option (Items × List Token)
  | 0, _, _ => none
  | fuel + 1, read, .item :: ts =>
    match ts with
    | .item :: _ | .blockEnd :: _ => blockItems? hs fuel (.empty :: read) ts
    | _ => do
      let (n, ts) ← node? hs .block fuel ts
      blockItems? hs fuel (n :: read) ts
  | _ + 1, read, .blockEnd :: ts => some (read.reverse, ts)
  | _ + 1, _, _ => none

def looseItems? (hs : Shorthands) : (fuel : Nat) → (read : Items) → List Token →
    Option (Items × List Token)
  | 0, _, _ => none
  | fuel + 1, read, .item :: ts =>
    match ts with
    | .item :: _ | .key :: _ | .value :: _ | .blockEnd :: _ =>
      looseItems? hs fuel (.empty :: read) ts
    | _ => do
      let (n, ts) ← node? hs .block fuel ts
      looseItems? hs fuel (n :: read) ts
  | _ + 1, _, [] => none
  | _ + 1, read, ts => some (read.reverse, ts)

def blockEntries? (hs : Shorthands) : (fuel : Nat) → (read : Entries) → List Token →
    Option (Entries × List Token)
  | 0, _, _ => none
  | fuel + 1, read, .key :: ts => do
    let (k, ts) ← if omitted ts then some (.empty, ts) else node? hs .blockMapping fuel ts
    match ts with
    | .value :: ts =>
      let (v, ts) ← if omitted ts then some (.empty, ts) else node? hs .blockMapping fuel ts
      blockEntries? hs fuel ((k, v) :: read) ts
    | [] => none
    | ts => blockEntries? hs fuel ((k, .empty) :: read) ts
  | _ + 1, read, .blockEnd :: ts => some (read.reverse, ts)
  | _ + 1, _, _ => none

def flowItems? (hs : Shorthands) : (fuel : Nat) → (first : Bool) → (read : Items) → List Token →
    Option (Items × List Token)
  | 0, _, _, _ => none
  | fuel + 1, first, read, ts =>
    match ts with
    | .flowSequenceEnd :: ts => some (read.reverse, ts)
    | _ => do
      match ← afterComma? first ts with
      | .key :: ts =>
        let (k, ts) ←
          match ts with
          | .value :: ts | .comma :: ts | .flowSequenceEnd :: ts => some (.empty, ts)
          | ts => node? hs .flow fuel ts
        let (v, ts) ←
          match ts with
          | .value :: .comma :: ts => some (.empty, .comma :: ts)
          | .value :: .flowSequenceEnd :: ts => some (.empty, .flowSequenceEnd :: ts)
          | .value :: ts => node? hs .flow fuel ts
          | [] => none
          | ts => some (.empty, ts)
        flowItems? hs fuel false (.mapping none [(k, v)] :: read) ts
      | .flowSequenceEnd :: ts => some (read.reverse, ts)
      | ts =>
        let (n, ts) ← node? hs .flow fuel ts
        flowItems? hs fuel false (n :: read) ts

def flowEntries? (hs : Shorthands) : (fuel : Nat) → (first : Bool) → (read : Entries) →
    List Token → Option (Entries × List Token)
  | 0, _, _, _ => none
  | fuel + 1, first, read, ts =>
    match ts with
    | .flowMappingEnd :: ts => some (read.reverse, ts)
    | _ => do
      match ← afterComma? first ts with
      | .key :: ts =>
        let (k, ts) ←
          match ts with
          | .value :: _ | .comma :: _ | .flowMappingEnd :: _ => some (.empty, ts)
          | ts => node? hs .flow fuel ts
        let (v, ts) ←
          match ts with
          | .value :: .comma :: ts => some (.empty, .comma :: ts)
          | .value :: .flowMappingEnd :: ts => some (.empty, .flowMappingEnd :: ts)
          | .value :: ts => node? hs .flow fuel ts
          | [] => none
          | ts => some (.empty, ts)
        flowEntries? hs fuel false ((k, v) :: read) ts
      | .flowMappingEnd :: ts => some (read.reverse, ts)
      | ts =>
        let (k, ts) ← node? hs .flow fuel ts
        flowEntries? hs fuel false ((k, .empty) :: read) ts

end

def steps (ts : List Token) : Nat := 3 * ts.length + 3

def directives? (versioned : Bool) (hs : Shorthands) : List Token →
    Option (Shorthands × List Token)
  | .version major minor :: ts =>
    if versioned ∨ major ≠ 1 ∨ (minor ≠ 1 ∧ minor ≠ 2) then none else directives? true hs ts
  | .shorthand handle full :: ts =>
    if (hs.lookup handle).isSome then none else directives? versioned (hs ++ [(handle, full)]) ts
  | ts => some (hs ++ standardShorthands, ts)

def startsExplicitly : List Token → Bool
  | .version .. :: _ | .shorthand .. :: _ | .documentStart :: _ => true
  | _ => false

def endsEmpty : List Token → Bool
  | .documentEnd :: _ | .streamEnd :: _ => true
  | ts => startsExplicitly ts

def document? (first : Bool) (ts : List Token) : Option (Node String × List Token) :=
  if first ∧ !startsExplicitly ts then node? standardShorthands .block (steps ts) ts
  else do
    match ← directives? false [] ts with
    | (hs, .documentStart :: ts) =>
      if endsEmpty ts then some (.empty, ts) else node? hs .block (steps ts) ts
    | _ => none

def documentsFrom (first : Bool) : (fuel : Nat) → List Token → List (Option (Node String))
  | 0, _ => [none]
  | fuel + 1, ts =>
    let ts := if first then ts else ts.dropWhile (· = .documentEnd)
    match ts with
    | .streamEnd :: _ => if first then [some .empty] else []
    | _ =>
      match document? first ts with
      | none | some (_, []) => [none]
      | some (n, .documentEnd :: ts) => some n :: documentsFrom false fuel ts
      | some (n, ts) => some n :: documentsFrom false fuel ts

def Node.ofTokens (ts : List Token) : List (Option (Node String)) :=
  documentsFrom true (ts.length + 1) ts

end PolicyAttachment.Yaml
