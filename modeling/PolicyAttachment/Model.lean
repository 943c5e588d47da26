import PolicyAttachment.Report

namespace PolicyAttachment

structure Model where
  config : Config
  graph : Graph
  descriptors : Descriptors
  attachments : Attachments
  diagnostics : List Diagnostic
deriving DecidableEq, Inhabited

def keepFirst (xs : List ObjectRef) : List ObjectRef := (keepLast xs.reverse).reverse

namespace View

def cyclic (v : View) : List ObjectRef :=
  keepFirst (v.graph.ids.flatMap fun id => (v.ancestry id).cycles)

end View

namespace Model

def view (m : Model) : View := ⟨m.graph, m.attachments, m.config.namespaceAncestors⟩

def policiesFor? (m : Model) (id : ObjectRef) : Option NodePolicies := m.view.policiesFor? id

def report (m : Model) : Report := ⟨m.view.records, m.diagnostics⟩

def discover (s : Snapshot) (config : Config) : Model :=
  let r := s.resolver config.defaultNamespace
  let descriptors := Descriptors.ofDefinitions config.policyLabelKey s.definitions
  let graph := Graph.build s r config.namespaceAncestors
  let bindings := Attachments.bindings graph descriptors r s.policies
  let attachments := Attachments.ofBindings bindings
  let view : View := ⟨graph, attachments, config.namespaceAncestors⟩
  { config, graph, descriptors, attachments
    diagnostics := s.rejected ++ Descriptors.problems config.policyLabelKey s.definitions ++
      Graph.problems s r ++ Attachments.problems bindings ++
      view.cyclic.map fun id => ⟨id, .ancestorCycle id⟩ }

end Model

end PolicyAttachment
