import PolicyAttachment.Reference
import PolicyAttachment.Policy
import PolicyAttachment.Schema.GatewayApi

namespace PolicyAttachment

def apiGroup (version : String) : String :=
  String.ofList ((version.toList.reverse.dropWhile (· ≠ '/')).drop 1).reverse

structure Metadata where
  name : Option String
  namespaceName : String
  labels : SortedMap String String
deriving DecidableEq, Inhabited

namespace Metadata

def ofDocument (d : Document) : Metadata where
  name := d.stringField? "name"
  namespaceName := (d.stringField? "namespace").getD ""
  labels := .ofList (((d.field? "labels").bind Document.fields?).getD .empty |>.entries.filterMap
    fun e => e.2.string?.map fun v => (e.1, v))

def ofObject (d : Document) : Metadata := ofDocument ((d.field? "metadata").getD (.object []))

def ref? (m : Metadata) (k : GroupKind) : Option ObjectRef :=
  m.name.map fun name => .ofKind k m.namespaceName name

end Metadata

def Reference.ofDocument (d : Document) : Reference where
  group := d.stringField? "group"
  kind := d.stringField? "kind"
  name := d.stringField? "name"
  namespaceName := d.stringField? "namespace"

def Reference.read (d : Document) : Except ReadError Reference :=
  (Schema.looseReference.read d).map ofDocument

structure GatewayClass where
  metadata : Metadata
  spec : Document
deriving DecidableEq, Inhabited

namespace GatewayClass

def read (d : Document) : Except ReadError GatewayClass := do
  let d ← Schema.gatewayClass.read d
  .ok ⟨.ofObject d, (d.field? "spec").getD .null⟩

def ref? (c : GatewayClass) : Option ObjectRef := c.metadata.ref? .gatewayClass

end GatewayClass

structure GatewaySpec where
  className : String
  document : Document
deriving DecidableEq, Inhabited

namespace GatewaySpec

def ofDocument (d : Document) : GatewaySpec := ⟨(d.stringField? "gatewayClassName").getD "", d⟩

def read (d : Document) : Except ReadError GatewaySpec :=
  (Schema.gatewaySpec.read d).map ofDocument

def classRef (s : GatewaySpec) : Reference := .ofKind .gatewayClass s.className

end GatewaySpec

structure Gateway where
  metadata : Metadata
  spec : GatewaySpec
deriving DecidableEq, Inhabited

namespace Gateway

def read (d : Document) : Except ReadError Gateway := do
  let d ← Schema.gateway.read d
  .ok ⟨.ofObject d, .ofDocument ((d.field? "spec").getD .null)⟩

def ref? (g : Gateway) : Option ObjectRef := g.metadata.ref? .gateway

end Gateway

structure RouteFilter where
  mirror : Option Reference
deriving DecidableEq, Inhabited

structure RouteBackend where
  reference : Reference
  filters : List RouteFilter
deriving DecidableEq, Inhabited

structure RouteRule where
  backends : List RouteBackend
  filters : List RouteFilter
deriving DecidableEq, Inhabited

structure RouteSpec where
  parents : List Reference
  rules : List RouteRule
  document : Document
deriving DecidableEq, Inhabited

namespace RouteSpec

def filtersOf (d : Document) : List RouteFilter :=
  (d.itemsOf "filters").map fun f =>
    ⟨((f.field? "requestMirror").bind (Document.field? "backendRef")).map .ofDocument⟩

def ofDocument (d : Document) : RouteSpec where
  parents := (d.itemsOf "parentRefs").map .ofDocument
  rules := (d.itemsOf "rules").map fun rule =>
    { backends := (rule.itemsOf "backendRefs").map fun b => ⟨.ofDocument b, filtersOf b⟩
      filters := filtersOf rule }
  document := d

def read (d : Document) : Except ReadError RouteSpec := (Schema.routeSpec.read d).map ofDocument

def parentRefs (s : RouteSpec) : List Reference := s.parents.map Reference.asParent

/-- The backends that a route's rules name, the targets of request mirrors after the others of each
rule. They are services unless the rule says otherwise, and may repeat. -/
def backendRefs (s : RouteSpec) : List Reference :=
  s.rules.flatMap fun rule =>
    (rule.backends.map (·.reference) ++ rule.filters.filterMap (·.mirror)).map Reference.asBackend

end RouteSpec

structure HttpRoute where
  metadata : Metadata
  spec : RouteSpec
deriving DecidableEq, Inhabited

namespace HttpRoute

def read (d : Document) : Except ReadError HttpRoute := do
  let d ← Schema.httpRoute.read d
  .ok ⟨.ofObject d, .ofDocument ((d.field? "spec").getD .null)⟩

def ref? (r : HttpRoute) : Option ObjectRef := r.metadata.ref? .httpRoute

end HttpRoute

structure NamespaceObject where
  metadata : Metadata
  spec : Document
deriving DecidableEq, Inhabited

namespace NamespaceObject

def read (d : Document) : Except ReadError NamespaceObject := do
  let d ← Schema.namespaceObject.read d
  .ok ⟨.ofObject d, (d.field? "spec").getD (.object [])⟩

def ref? (n : NamespaceObject) : Option ObjectRef := n.metadata.ref? .coreNamespace

end NamespaceObject

structure KindDefinition where
  metadata : Metadata
  kind : GroupKind
  scope : String
deriving DecidableEq, Inhabited

namespace KindDefinition

def read (d : Document) : Except ReadError KindDefinition := do
  let d ← Schema.customResourceDefinition.read d
  let spec := (d.field? "spec").getD (.object [])
  let names := (spec.field? "names").getD (.object [])
  .ok { metadata := .ofObject d
        kind := ⟨(names.stringField? "kind").getD "", (spec.stringField? "group").getD ""⟩
        scope := (spec.stringField? "scope").getD "" }

def ref? (c : KindDefinition) : Option ObjectRef := c.metadata.ref? .customResourceDefinition

def isClusterScoped (c : KindDefinition) : Bool := Text.lowerAscii c.scope = "cluster"

def label? (c : KindDefinition) (key : String) : Option String := c.metadata.labels.get? key

end KindDefinition

structure TypeMeta where
  apiVersion : String
  kind : String
deriving DecidableEq, Inhabited

def TypeMeta.ofDocument? (d : Document) : Option TypeMeta := do
  let version ← d.stringField? "apiVersion"
  let kind ← d.stringField? "kind"
  some ⟨version, kind⟩

def Document.groupKind? (d : Document) : Option GroupKind :=
  match d.stringField? "apiVersion", d.stringField? "kind" with
  | some version, some kind => if kind = "" then none else some ⟨kind, apiGroup version⟩
  | _, _ => none

structure DynamicObject where
  types : Option TypeMeta
  metadata : Metadata
  spec : Option Fields
deriving DecidableEq, Inhabited

namespace DynamicObject

def read (d : Document) : Except ReadError DynamicObject := do
  let known ← Schema.dynamicObject.read d
  .ok { types := TypeMeta.ofDocument? d
        metadata := .ofObject known
        spec := (d.field? "spec").bind Document.fields? }

def kind (o : DynamicObject) : Option GroupKind :=
  o.types.bind fun t => if t.kind = "" then none else some ⟨t.kind, apiGroup t.apiVersion⟩

def ref? (o : DynamicObject) : Option ObjectRef := o.kind.bind o.metadata.ref?

def targetRef? (o : DynamicObject) : Option Reference := do
  let spec ← o.spec
  let target ← spec.get? "targetRef"
  (Reference.read target).toOption

end DynamicObject

end PolicyAttachment
