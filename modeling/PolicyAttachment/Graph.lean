import PolicyAttachment.Document
import PolicyAttachment.Ref

/-!
The hierarchy of resources. Links go from a parent to a child: from a class to its gateways, from a
gateway to the routes attached to it, from a route to its backends.
-/

namespace PolicyAttachment

open Std

inductive NodeKind where
  | gatewayClass
  | gateway
  | httpRoute
  | backend
  | coreNamespace
deriving DecidableEq, Repr, Inhabited

def NodeKind.label : NodeKind → String
  | gatewayClass => "GatewayClass"
  | gateway => "Gateway"
  | httpRoute => "HTTPRoute"
  | backend => "Backend"
  | coreNamespace => "Namespace"

/-- The kind of a node that was only mentioned: that of its well-known kind, or else the role in
which it was mentioned. -/
def NodeKind.infer (k : GroupKind) (role : NodeKind) : NodeKind :=
  if k = .gatewayClass then gatewayClass
  else if k = .gateway then gateway
  else if k = .httpRoute then httpRoute
  else if k = .coreNamespace then coreNamespace
  else role

structure Node where
  kind : NodeKind
  spec : Option Document
deriving DecidableEq, Inhabited

def Node.isPlaceholder (n : Node) : Bool := n.spec.isNone

structure Link where
  parent : ObjectRef
  child : ObjectRef
deriving DecidableEq, Repr, Inhabited

instance : Ord Link where
  compare := compareLex (compareOn Link.parent) (compareOn Link.child)

instance : TransOrd Link :=
  inferInstanceAs (TransCmp (compareLex (compareOn Link.parent) (compareOn Link.child)))

instance : LawfulEqOrd Link where
  eq_of_compare {a b} h := by
    obtain ⟨hp, hc⟩ := compareLex_eq_eq.1 h
    cases a; cases b
    simp only [compareOn, Std.compare_eq_iff_eq] at hp hc
    simp [hp, hc]

structure Graph where
  nodes : SortedMap ObjectRef Node
  links : SortedMap Link Unit
deriving DecidableEq, Inhabited

namespace Graph

def empty : Graph := ⟨.empty, .empty⟩

def contains (g : Graph) (id : ObjectRef) : Bool := g.nodes.contains id

def ids (g : Graph) : List ObjectRef := g.nodes.keys

def parents (g : Graph) (id : ObjectRef) : List ObjectRef :=
  (g.links.keys.filter fun l => l.child = id).map (·.parent)

def children (g : Graph) (id : ObjectRef) : List ObjectRef :=
  (g.links.keys.filter fun l => l.parent = id).map (·.child)

def backendsOf (g : Graph) (route : ObjectRef) : List ObjectRef :=
  (g.children route).filter fun c => ((g.nodes.get? c).map (·.kind)) = some .backend

/-- Records a resource that was observed. Of several observations the last decides the kind, and
the last that has a spec decides the spec. -/
def observe (g : Graph) (id : ObjectRef) (kind : NodeKind) (spec : Option Document) : Graph :=
  let known := (g.nodes.get? id).bind (·.spec)
  { g with nodes := g.nodes.insert id ⟨kind, spec.or known⟩ }

def mention (g : Graph) (id : ObjectRef) (role : NodeKind) : Graph :=
  if g.contains id then g
  else { g with nodes := g.nodes.insert id ⟨.infer id.groupKind role, none⟩ }

def link (g : Graph) (parent child : ObjectRef) : Graph :=
  { g with links := g.links.insert ⟨parent, child⟩ () }

end Graph

end PolicyAttachment
