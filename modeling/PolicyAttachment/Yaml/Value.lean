import PolicyAttachment.Yaml.Node.Reader
import PolicyAttachment.Yaml.Scalar
import PolicyAttachment.Yaml.Token.Lexer

namespace PolicyAttachment.Yaml

abbrev AnchoredNodes := SortedMap Nat (Node Nat)

/-- A reading that may fail, with the number of aliases that may still be followed. -/
abbrev Bounded := StateT Nat Option

def failed {α : Type} : Bounded α := fun _ => none

def follow (anchored : AnchoredNodes) (n : Node Nat) : Bounded (Node Nat) := do
  match n.bare with
  | .aliased i =>
    match ← get, anchored.get? i with
    | left + 1, some m =>
      set left
      pure m.bare
    | _, _ => failed
  | m => pure m

def keyText (anchored : AnchoredNodes) (n : Node Nat) : Bounded String := do
  match ← follow anchored n with
  | .scalar s => pure s.text
  | _ => failed

def valueWith (anchored : AnchoredNodes) (inner : Option (Node Nat → Bounded Document))
    (n : Node Nat) : Bounded Document := do
  match ← follow anchored n, inner with
  | .scalar s, _ => fun left => s.value?.map fun v => (v, left)
  | .sequence tag items, some value =>
    if tag.any Tag.isLocal then failed else pure (.array (← items.mapM value))
  | .mapping tag entries, some value =>
    if tag.any Tag.isLocal then failed
    else
      let fields ← entries.mapM fun e => do pure (← keyText anchored e.1, ← value e.2)
      pure (.ofFields fields)
  | _, _ => failed

def nodeValue (anchored : AnchoredNodes) : (depth : Nat) → Node Nat → Bounded Document
  | 0 => valueWith anchored none
  | depth + 1 => valueWith anchored (some (nodeValue anchored depth))

def Node.document? (n : Node String) : Option Document := do
  let (n, _) ← Node.number? .empty n
  let (d, _) ← (nodeValue (.ofList n.anchors) 128 n).run (100 * n.eventCount)
  some d

def documents (s : String) : List (Option Document) :=
  (Node.ofTokens (Token.ofText s)).map fun n => n.bind Node.document?

end PolicyAttachment.Yaml
