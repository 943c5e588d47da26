import PolicyAttachment.Ref
import PolicyAttachment.Schema

namespace PolicyAttachment.Schema

def loose (name : String) (fields : List (String × Schema)) : Schema :=
  .record name false (fields.map fun f => (f.1, .nullable, f.2))

def ownerReference : Schema :=
  loose "OwnerReference" [("apiVersion", .text), ("blockOwnerDeletion", .boolean),
    ("controller", .boolean), ("kind", .text), ("name", .text), ("uid", .text)]

def objectMeta : Schema :=
  loose "ObjectMeta" [
    ("annotations", .dictionary .text),
    ("creationTimestamp", .any),
    ("deletionGracePeriodSeconds", .int64),
    ("deletionTimestamp", .any),
    ("finalizers", .list .text),
    ("generateName", .text),
    ("generation", .int64),
    ("labels", .dictionary .text),
    ("managedFields", .list .any),
    ("name", .text),
    ("namespace", .text),
    ("ownerReferences", .list ownerReference),
    ("resourceVersion", .text),
    ("selfLink", .text),
    ("uid", .text)]

def builtIn (apiVersion kind : String) (spec status : Schema) : Schema :=
  .record kind false [
    ("apiVersion", .omittable, .exactly apiVersion),
    ("kind", .omittable, .exactly kind),
    ("metadata", .nullable, objectMeta),
    ("spec", .nullable, spec),
    ("status", .nullable, status)]

def namespaceObject : Schema :=
  builtIn "v1" "Namespace"
    (loose "NamespaceSpec" [("finalizers", .list .text)])
    (loose "NamespaceStatus" [("conditions", .list .any), ("phase", .text)])

def definitionNames : Schema :=
  loose "CustomResourceDefinitionNames" [("categories", .list .text), ("kind", .text),
    ("listKind", .text), ("plural", .text), ("shortNames", .list .text), ("singular", .text)]

def definitionVersion : Schema :=
  loose "CustomResourceDefinitionVersion" [
    ("additionalPrinterColumns", .list .any),
    ("deprecated", .boolean),
    ("deprecationWarning", .text),
    ("name", .text),
    ("schema", loose "CustomResourceValidation" [("openAPIV3Schema", .any)]),
    ("selectableFields", .list .any),
    ("served", .boolean),
    ("storage", .boolean),
    ("subresources", loose "CustomResourceSubresources" [("scale", .any), ("status", .any)])]

def customResourceDefinition : Schema :=
  builtIn (extensionsGroup ++ "/v1") "CustomResourceDefinition"
    (loose "CustomResourceDefinitionSpec" [
      ("conversion", loose "CustomResourceConversion" [("strategy", .text), ("webhook", .any)]),
      ("group", .text),
      ("names", definitionNames),
      ("preserveUnknownFields", .boolean),
      ("scope", .text),
      ("versions", .list definitionVersion)])
    (loose "CustomResourceDefinitionStatus" [("acceptedNames", definitionNames),
      ("conditions", .list .any), ("storedVersions", .list .text)])

def dynamicObject : Schema :=
  .record "struct DynamicObject" false [("metadata", .omittable, objectMeta)]

def looseReference : Schema :=
  .record "struct Reference" true [("group", .nullable, .text), ("kind", .nullable, .text),
    ("name", .nullable, .text), ("namespace", .nullable, .text)]

end PolicyAttachment.Schema
