import PolicyAttachment.Snapshot

/-!
The snapshot that a list of manifest objects makes up. An object is a resource of one of the typed
kinds, or a policy if some definition of the list makes its kind a kind of policy, or a backend if
it is a service or some route of the list names its kind; all else is ignored. An object that cannot
be read is rejected on its own.
-/

namespace PolicyAttachment

def Document.named : Document → Document := withDefault "name" (.string "")

/-- Gives every reference of a spec that omits its name an empty one, so that the reference alone is
dropped and not the object that holds it. -/
def Document.withReferenceNames (k : GroupKind) (d : Document) : Document :=
  if k = .gateway then d.mapField "spec" (Document.withDefault "gatewayClassName" (.string ""))
  else if k = .httpRoute then
    let mirror (f : Document) := f.mapField "requestMirror" (Document.mapField "backendRef" named)
    let rule (r : Document) :=
      (r.mapField "backendRefs" (mapItems named)).mapField "filters" (mapItems mirror)
    d.mapField "spec" fun s =>
      (s.mapField "parentRefs" (mapItems named)).mapField "rules" (mapItems rule)
  else d

def Document.statedRef (k : GroupKind) (d : Document) : ObjectRef :=
  let part (name : String) := ((d.field? "metadata").bind (stringField? name)).getD ""
  .ofKind k (part "namespace") (part "name")

inductive Entry where
  | untyped
  | gatewayClass (c : GatewayClass)
  | gateway (g : Gateway)
  | route (h : HttpRoute)
  | coreNamespace (n : NamespaceObject)
  | definition (c : KindDefinition)
  | other (k : GroupKind) (o : DynamicObject)
  | rejected (d : Diagnostic)
deriving DecidableEq, Inhabited

namespace Entry

def readAs (k : GroupKind) (d : Document) : Except ReadError Entry :=
  if k = .gatewayClass then gatewayClass <$> GatewayClass.read d
  else if k = .gateway then gateway <$> Gateway.read d
  else if k = .httpRoute then route <$> HttpRoute.read d
  else if k = .coreNamespace then coreNamespace <$> NamespaceObject.read d
  else if k = .customResourceDefinition then definition <$> KindDefinition.read d
  else other k <$> DynamicObject.read d

def ofDocument (d : Document) : Entry :=
  match d.groupKind? with
  | none => untyped
  | some k =>
    let d := d.withReferenceNames k
    match readAs k d with
    | .ok e => e
    | .error e => rejected ⟨d.statedRef k, .invalidObject e.message⟩

def gatewayClass? : Entry → Option GatewayClass
  | gatewayClass c => some c
  | _ => none

def gateway? : Entry → Option Gateway
  | gateway g => some g
  | _ => none

def route? : Entry → Option HttpRoute
  | route h => some h
  | _ => none

def coreNamespace? : Entry → Option NamespaceObject
  | coreNamespace n => some n
  | _ => none

def definition? : Entry → Option KindDefinition
  | definition c => some c
  | _ => none

def other? : Entry → Option (GroupKind × DynamicObject)
  | other k o => some (k, o)
  | _ => none

def rejected? : Entry → Option Diagnostic
  | rejected d => some d
  | _ => none

end Entry

namespace Snapshot

def policyKinds (labelKey : String) (cs : List KindDefinition) : List GroupKind :=
  (cs.filter fun c => (c.label? labelKey).isSome).map (·.kind)

def statedKind (r : Reference) : GroupKind := ⟨r.kind.getD "", r.group.getD ""⟩

def backendKinds (routes : List HttpRoute) : List GroupKind :=
  .service :: routes.flatMap fun h => h.spec.backendRefs.map statedKind

def ofEntries (labelKey : String) (es : List Entry) : Snapshot :=
  let definitions := es.filterMap Entry.definition?
  let routes := es.filterMap Entry.route?
  let others := es.filterMap Entry.other?
  let isPolicy (e : GroupKind × DynamicObject) := e.1 ∈ policyKinds labelKey definitions
  let isBackend (e : GroupKind × DynamicObject) := e.1 ∈ backendKinds routes
  { gatewayClasses := es.filterMap Entry.gatewayClass?
    gateways := es.filterMap Entry.gateway?
    routes
    backends := (others.filter fun e => !isPolicy e && isBackend e).map (·.2)
    namespaces := es.filterMap Entry.coreNamespace?
    definitions
    policies := (others.filter isPolicy).map (·.2)
    rejected := es.filterMap Entry.rejected? }

def ofObjects (labelKey : String) (ds : List Document) : Snapshot :=
  ofEntries labelKey (ds.map Entry.ofDocument)

end Snapshot

end PolicyAttachment
