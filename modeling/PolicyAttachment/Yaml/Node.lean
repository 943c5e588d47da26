import PolicyAttachment.SortedMap
import PolicyAttachment.Yaml.Tag

namespace PolicyAttachment.Yaml

structure Scalar where
  tag : Option Tag
  plain : Bool
  text : String
deriving DecidableEq, Repr, Inhabited

inductive Node (α : Type) where
  | scalar (s : Scalar)
  | sequence (tag : Option Tag) (items : List (Node α))
  | mapping (tag : Option Tag) (entries : List (Node α × Node α))
  | anchored (label : α) (node : Node α)
  | aliased (label : α)
deriving Repr

namespace Node

def empty {α : Type} : Node α := .scalar ⟨none, true, ""⟩

variable {α : Type}

instance : Inhabited (Node α) := ⟨empty⟩

def bare : Node α → Node α
  | anchored _ n => n.bare
  | n => n

def eventCount : Node α → Nat
  | scalar _ | aliased _ => 1
  | anchored _ n => n.eventCount
  | sequence _ items => 2 + itemCount items
  | mapping _ entries => 2 + entryCount entries
where
  itemCount : List (Node α) → Nat
    | [] => 0
    | n :: ns => n.eventCount + itemCount ns
  entryCount : List (Node α × Node α) → Nat
    | [] => 0
    | (k, v) :: es => k.eventCount + v.eventCount + entryCount es

def anchors : Node α → List (α × Node α)
  | scalar _ | aliased _ => []
  | anchored a n => (a, n) :: n.anchors
  | sequence _ items => itemAnchors items
  | mapping _ entries => entryAnchors entries
where
  itemAnchors : List (Node α) → List (α × Node α)
    | [] => []
    | n :: ns => n.anchors ++ itemAnchors ns
  entryAnchors : List (Node α × Node α) → List (α × Node α)
    | [] => []
    | (k, v) :: es => k.anchors ++ (v.anchors ++ entryAnchors es)

end Node

abbrev AnchorNumbers := SortedMap String Nat

namespace Node

mutual

/-- Labels anchors by the number of names that were anchored before, and aliases by the number that
their name had last. An alias of a name that was not anchored has none. -/
def number? (known : AnchorNumbers) : Node String → Option (Node Nat × AnchorNumbers)
  | scalar s => some (.scalar s, known)
  | aliased name => (known.get? name).map fun i => (.aliased i, known)
  | anchored name n => do
    let i := known.size
    let (n, known) ← number? (known.insert name i) n
    some (.anchored i n, known)
  | sequence tag items => do
    let (items, known) ← numberItems? known items
    some (.sequence tag items, known)
  | mapping tag entries => do
    let (entries, known) ← numberEntries? known entries
    some (.mapping tag entries, known)

def numberItems? (known : AnchorNumbers) : List (Node String) →
    Option (List (Node Nat) × AnchorNumbers)
  | [] => some ([], known)
  | n :: ns => do
    let (n, known) ← number? known n
    let (ns, known) ← numberItems? known ns
    some (n :: ns, known)

def numberEntries? (known : AnchorNumbers) : List (Node String × Node String) →
    Option (List (Node Nat × Node Nat) × AnchorNumbers)
  | [] => some ([], known)
  | (k, v) :: es => do
    let (k, known) ← number? known k
    let (v, known) ← number? known v
    let (es, known) ← numberEntries? known es
    some ((k, v) :: es, known)

end

end Node

end PolicyAttachment.Yaml
