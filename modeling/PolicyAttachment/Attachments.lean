import PolicyAttachment.Descriptors
import PolicyAttachment.Hierarchy

namespace PolicyAttachment

inductive Binding where
  | ignored
  | refused (d : Diagnostic)
  | attached (p : PolicyInstance)
deriving DecidableEq, Inhabited

namespace Binding

/-- Attaches the policy `id`, of a kind that is understood, to the target that `o` states. -/
def toTarget (g : Graph) (r : Resolver) (o : DynamicObject) (k : GroupKind) (c : Classification)
    (id : ObjectRef) : Binding :=
  match o.targetRef? with
  | none => .refused ⟨id, .missingReference "targetRef"⟩
  | some ref =>
    match r.resolve ref id.namespaceName with
    | .error e => .refused ⟨id, e⟩
    | .ok target =>
      if g.contains target then
        match PolicyBody.ofSpec? (o.spec.getD .empty) c with
        | some body => .attached ⟨id, k, target, body⟩
        | none => .ignored
      else .refused ⟨id, .orphanedPolicy id target⟩

def ofObject (g : Graph) (ds : Descriptors) (r : Resolver) (o : DynamicObject) : Binding :=
  match o.ref? with
  | none => .ignored
  | some ref =>
    match ds.get? ref.groupKind with
    | none | some .unknown => .ignored
    | some c => toTarget g r o ref.groupKind c (r.place ref)

def instance? : Binding → Option PolicyInstance
  | attached p => some p
  | _ => none

def problem? : Binding → Option Diagnostic
  | refused d => some d
  | _ => none

end Binding

structure Attachments where
  instances : List PolicyInstance
deriving DecidableEq, Inhabited

namespace Attachments

def bindings (g : Graph) (ds : Descriptors) (r : Resolver) (policies : List DynamicObject) :
    List Binding :=
  policies.map (Binding.ofObject g ds r)

def ofBindings (bs : List Binding) : Attachments := ⟨bs.filterMap Binding.instance?⟩

def problems (bs : List Binding) : List Diagnostic := bs.filterMap Binding.problem?

def inOrder (ps : List PolicyInstance) : List PolicyInstance :=
  ps.mergeSort fun p q => (compare p.id q.id).isLE

def on (a : Attachments) (c : Classification) (target : ObjectRef) : List PolicyInstance :=
  inOrder (a.instances.filter fun p => p.target = target && p.classification = c)

def direct (a : Attachments) (target : ObjectRef) : List PolicyInstance := a.on .direct target

def inherited (a : Attachments) (target : ObjectRef) : List PolicyInstance :=
  a.on .inherited target

def attached (a : Attachments) (target : ObjectRef) : List PolicyInstance :=
  a.direct target ++ a.inherited target

def size (a : Attachments) : Nat := a.instances.length

def targets (a : Attachments) : List ObjectRef :=
  (SortedMap.ofList (a.instances.map fun p => (p.target, ()))).keys

end Attachments

end PolicyAttachment
