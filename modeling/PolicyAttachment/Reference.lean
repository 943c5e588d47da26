import PolicyAttachment.Problem

namespace PolicyAttachment

structure Reference where
  group : Option String := none
  kind : Option String := none
  name : Option String := none
  namespaceName : Option String := none
deriving DecidableEq, Repr, Inhabited

namespace Reference

/-- The reference with the group and kind that the field holding it implies. An empty group is
stated, as it names the core group; an empty kind is not. -/
def orKind (r : Reference) (k : GroupKind) : Reference :=
  { r with
    group := some (r.group.getD k.group)
    kind := if r.kind.getD "" = "" then some k.kind else r.kind }

def asParent (r : Reference) : Reference := r.orKind .gateway

def asBackend (r : Reference) : Reference := r.orKind .service

def groupKind (r : Reference) : GroupKind where
  kind := r.kind.getD ""
  group := match r.group with
    | none => ""
    | some g => if g = "core" then "" else g

def ofKind (k : GroupKind) (name : String) : Reference :=
  { group := some k.group, kind := some k.kind, name := some name }

def ofRef (o : ObjectRef) : Reference :=
  { group := some o.group, kind := some o.kind, name := some o.name,
    namespaceName := some o.namespaceName }

end Reference

structure Resolver where
  defaultNamespace : String
  clusterScoped : List GroupKind
deriving DecidableEq, Repr, Inhabited

namespace Resolver

def standardDefault : String := "default"

def ofDefault (defaultNamespace : String) : Resolver :=
  ⟨defaultNamespace, [.gatewayClass, .coreNamespace]⟩

def register (r : Resolver) (k : GroupKind) : Resolver :=
  { r with clusterScoped := k :: r.clusterScoped }

def isClusterScoped (r : Resolver) (k : GroupKind) : Bool := k ∈ r.clusterScoped

def impliedNamespace (r : Resolver) (k : GroupKind) (context : String) : String :=
  if r.isClusterScoped k then ""
  else if context = "" then r.defaultNamespace
  else context

/-- The resource that a reference names, seen from a referrer in the namespace `context`. -/
def resolve (r : Resolver) (ref : Reference) (context : String) : Except Problem ObjectRef :=
  let kind := ref.groupKind
  let name := ref.name.getD ""
  let stated := ref.namespaceName.getD ""
  if name = "" then .error (.missingName kind)
  else .ok (.ofKind kind (if stated = "" then r.impliedNamespace kind context else stated) name)

def place (r : Resolver) (o : ObjectRef) : ObjectRef :=
  if o.namespaceName = "" then { o with namespaceName := r.impliedNamespace o.groupKind "" } else o

end Resolver

end PolicyAttachment
