import PolicyAttachment.View

namespace PolicyAttachment

structure NodePolicies where
  resource : ObjectRef
  kind : NodeKind
  placeholder : Bool
  direct : List PolicyInstance
  inherited : List PolicyInstance
  effective : EffectivePolicies
  effectiveByParent : SortedMap String EffectivePolicies
deriving DecidableEq, Inhabited

structure Report where
  resources : List NodePolicies
  diagnostics : List Diagnostic
deriving DecidableEq, Inhabited

namespace View

def effectiveByParent (v : View) (id : ObjectRef) : SortedMap String EffectivePolicies :=
  let parents := v.graph.parents id
  if parents.length > 1 then
    .ofList (parents.filterMap fun p => (v.effectiveVia? id p).map fun e => (p.display, e))
  else .empty

def record (v : View) (id : ObjectRef) (n : Node) : NodePolicies where
  resource := id
  kind := n.kind
  placeholder := n.isPlaceholder
  direct := v.direct id
  inherited := v.inherited id
  effective := v.effective id
  effectiveByParent := v.effectiveByParent id

def policiesFor? (v : View) (id : ObjectRef) : Option NodePolicies :=
  (v.graph.nodes.get? id).map (v.record id)

def records (v : View) : List NodePolicies := v.graph.nodes.entries.map fun e => v.record e.1 e.2

end View

end PolicyAttachment
