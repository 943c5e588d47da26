namespace PolicyAttachment

open Std

structure GroupKind where
  kind : String
  group : String
deriving DecidableEq, Repr, Inhabited

structure ObjectRef where
  group : String
  kind : String
  namespaceName : String
  name : String
deriving DecidableEq, Repr, Inhabited

def gatewayGroup : String := "gateway.networking.k8s.io"

def extensionsGroup : String := "apiextensions.k8s.io"

namespace GroupKind

instance : Ord GroupKind where
  compare := compareLex (compareOn kind) (compareOn group)

instance : TransOrd GroupKind :=
  inferInstanceAs (TransCmp (compareLex (compareOn kind) (compareOn group)))

instance : LawfulEqOrd GroupKind where
  eq_of_compare {a b} h := by
    obtain ⟨hk, hg⟩ := compareLex_eq_eq.1 h
    cases a; cases b
    simp only [compareOn, Std.compare_eq_iff_eq] at hk hg
    simp [hk, hg]

def display (k : GroupKind) : String :=
  if k.group.isEmpty then k.kind else k.kind ++ "." ++ k.group

def gatewayClass : GroupKind := ⟨"GatewayClass", gatewayGroup⟩
def gateway : GroupKind := ⟨"Gateway", gatewayGroup⟩
def httpRoute : GroupKind := ⟨"HTTPRoute", gatewayGroup⟩
def service : GroupKind := ⟨"Service", ""⟩
def coreNamespace : GroupKind := ⟨"Namespace", ""⟩
def customResourceDefinition : GroupKind := ⟨"CustomResourceDefinition", extensionsGroup⟩

end GroupKind

namespace ObjectRef

instance : Ord ObjectRef where
  compare := compareLex (compareOn group) (compareLex (compareOn kind)
    (compareLex (compareOn namespaceName) (compareOn name)))

instance : TransOrd ObjectRef :=
  inferInstanceAs (TransCmp (compareLex (compareOn group) (compareLex (compareOn kind)
    (compareLex (compareOn namespaceName) (compareOn name)))))

instance : LawfulEqOrd ObjectRef where
  eq_of_compare {a b} h := by
    obtain ⟨hg, h⟩ := compareLex_eq_eq.1 h
    obtain ⟨hk, h⟩ := compareLex_eq_eq.1 h
    obtain ⟨hn, hm⟩ := compareLex_eq_eq.1 h
    cases a; cases b
    simp only [compareOn, Std.compare_eq_iff_eq] at hg hk hn hm
    simp [hg, hk, hn, hm]

def groupKind (r : ObjectRef) : GroupKind := ⟨r.kind, r.group⟩

def ofKind (k : GroupKind) (namespaceName name : String) : ObjectRef :=
  ⟨k.group, k.kind, namespaceName, name⟩

def ofNamespace (name : String) : ObjectRef := ofKind .coreNamespace "" name

def isClusterScoped (r : ObjectRef) : Bool := r.namespaceName.isEmpty

def display (r : ObjectRef) : String :=
  r.groupKind.display ++ (if r.namespaceName.isEmpty then "" else "/" ++ r.namespaceName) ++
    "/" ++ r.name

@[simp] theorem groupKind_ofKind (k : GroupKind) (n m : String) : (ofKind k n m).groupKind = k := rfl

end ObjectRef

end PolicyAttachment
