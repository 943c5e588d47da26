import PolicyAttachment.Resource

namespace PolicyAttachment

def standardLabelKey : String := gatewayGroup ++ "/policy"

structure Config where
  defaultNamespace : String := Resolver.standardDefault
  policyLabelKey : String := standardLabelKey
  namespaceAncestors : Bool := false
deriving DecidableEq, Repr, Inhabited

structure Snapshot where
  gatewayClasses : List GatewayClass := []
  gateways : List Gateway := []
  routes : List HttpRoute := []
  backends : List DynamicObject := []
  namespaces : List NamespaceObject := []
  definitions : List KindDefinition := []
  policies : List DynamicObject := []
  rejected : List Diagnostic := []
deriving DecidableEq, Inhabited

def Snapshot.resolver (s : Snapshot) (defaultNamespace : String) : Resolver :=
  ((s.definitions.filter KindDefinition.isClusterScoped).map (·.kind)).foldl Resolver.register
    (.ofDefault defaultNamespace)

end PolicyAttachment
