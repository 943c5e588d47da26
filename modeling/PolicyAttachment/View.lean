import PolicyAttachment.Ancestry
import PolicyAttachment.Attachments
import PolicyAttachment.Merge

namespace PolicyAttachment

structure View where
  graph : Graph
  attachments : Attachments
  namespaceAncestors : Bool
deriving DecidableEq, Inhabited

def EffectivePolicy.ofDirect (ps : List PolicyInstance) : EffectivePolicy :=
  match ps with
  | [p] => .resolved (p.directFields?.getD .empty)
  | ps => .ambiguous (ps.map fun p => ⟨p.id, p.directFields?.getD .empty⟩)

def EffectivePolicy.ofInherited (ps : List PolicyInstance) : EffectivePolicy :=
  .resolved (merge (ps.filterMap PolicyInstance.overlay?))

def EffectivePolicies.byKind (value : List PolicyInstance → EffectivePolicy)
    (ps : List PolicyInstance) : List (GroupKind × EffectivePolicy) :=
  ps.map fun p => (p.kind, value (ps.filter fun q => q.kind = p.kind))

namespace View

def ancestry (v : View) (id : ObjectRef) : Ancestry :=
  v.graph.ancestryThrough v.namespaceAncestors id fun _ => true

def ancestors (v : View) (id : ObjectRef) : List ObjectRef := (v.ancestry id).chain

def direct (v : View) (id : ObjectRef) : List PolicyInstance := v.attachments.direct id

def inheritedAlong (v : View) (chain : List ObjectRef) : List PolicyInstance :=
  chain.flatMap v.attachments.inherited

def inherited (v : View) (id : ObjectRef) : List PolicyInstance :=
  v.inheritedAlong (v.ancestors id)

def effectiveAlong (v : View) (id : ObjectRef) (chain : List ObjectRef) : EffectivePolicies :=
  .ofList (EffectivePolicies.byKind .ofDirect (v.direct id) ++
    EffectivePolicies.byKind .ofInherited (v.inheritedAlong chain))

def effective (v : View) (id : ObjectRef) : EffectivePolicies :=
  v.effectiveAlong id (v.ancestors id)

def chainVia (v : View) (id parent : ObjectRef) : List ObjectRef :=
  (v.graph.ancestryThrough v.namespaceAncestors id (· = parent)).chain

def effectiveVia? (v : View) (id parent : ObjectRef) : Option EffectivePolicies :=
  if parent ∈ v.graph.parents id then some (v.effectiveAlong id (v.chainVia id parent)) else none

end View

end PolicyAttachment
