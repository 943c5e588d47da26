import PolicyAttachment.Graph
import PolicyAttachment.Snapshot

namespace PolicyAttachment

inductive Statement where
  | observed (id : ObjectRef) (kind : NodeKind) (spec : Option Document)
  | childOf (child : ObjectRef) (parent : Reference) (role : NodeKind)
  | parentOf (parent : ObjectRef) (child : Reference) (role : NodeKind)
deriving DecidableEq, Inhabited

namespace Statement

def record (r : Resolver) (g : Graph) : Statement → Graph
  | observed id kind spec => g.observe id kind spec
  | childOf child parent role =>
    match r.resolve parent child.namespaceName with
    | .ok p => (g.mention p role).link p child
    | .error _ => g
  | parentOf parent child role =>
    match r.resolve child parent.namespaceName with
    | .ok c => (g.mention c role).link parent c
    | .error _ => g

def problem? (r : Resolver) : Statement → Option Diagnostic
  | observed .. => none
  | childOf id ref _ | parentOf id ref _ =>
    match r.resolve ref id.namespaceName with
    | .ok _ => none
    | .error e => some ⟨id, e⟩

def about (r : Resolver) (ref? : Option ObjectRef) (say : ObjectRef → List Statement) :
    List Statement :=
  match ref? with
  | some ref => say (r.place ref)
  | none => []

def ofNamespace (r : Resolver) (n : NamespaceObject) : List Statement :=
  about r n.ref? fun id => [.observed id .coreNamespace (some n.spec)]

def ofGatewayClass (r : Resolver) (c : GatewayClass) : List Statement :=
  about r c.ref? fun id => [.observed id .gatewayClass (some c.spec)]

def ofBackend (r : Resolver) (o : DynamicObject) : List Statement :=
  about r o.ref? fun id => [.observed id .backend (o.spec.map fun s => .object s.entries)]

def ofGateway (r : Resolver) (g : Gateway) : List Statement :=
  about r g.ref? fun id =>
    [.observed id .gateway (some g.spec.document), .childOf id g.spec.classRef .gatewayClass]

def ofRoute (r : Resolver) (h : HttpRoute) : List Statement :=
  about r h.ref? fun id =>
    .observed id .httpRoute (some h.spec.document) ::
      (h.spec.parentRefs.map (.childOf id · .gateway) ++
        h.spec.backendRefs.map (.parentOf id · .backend))

end Statement

def Snapshot.statements (s : Snapshot) (r : Resolver) : List Statement :=
  s.namespaces.flatMap (Statement.ofNamespace r) ++
    s.gatewayClasses.flatMap (Statement.ofGatewayClass r) ++
    s.backends.flatMap (Statement.ofBackend r) ++ s.gateways.flatMap (Statement.ofGateway r) ++
    s.routes.flatMap (Statement.ofRoute r)

namespace Graph

def withNamespaces (g : Graph) : Graph :=
  (g.ids.filter fun id => !id.isClusterScoped).foldl
    (fun h id => h.mention (.ofNamespace id.namespaceName) .coreNamespace) g

def build (s : Snapshot) (r : Resolver) (namespaceNodes : Bool) : Graph :=
  let g := (s.statements r).foldl (Statement.record r) empty
  if namespaceNodes then g.withNamespaces else g

def problems (s : Snapshot) (r : Resolver) : List Diagnostic :=
  (s.statements r).filterMap (Statement.problem? r)

end Graph

end PolicyAttachment
