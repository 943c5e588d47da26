import PolicyAttachment.Yaml.Value

namespace PolicyAttachment.Manifest

inductive Fault where
  | malformed
  | listItems
  | noMapping
deriving DecidableEq, Repr, Inhabited

def Fault.message : Fault → String
  | malformed => "malformed document"
  | listItems => "list items must be a sequence"
  | noMapping => "manifest documents must be mappings"

def objectsOf (d : Document) : Except Fault (List Document) :=
  match d with
  | .null => .ok []
  | .object _ =>
    if d.stringField? "kind" = some "List" then
      match d.field? "items" with
      | some (.array ds) => .ok ds
      | none | some .null => .ok []
      | some _ => .error .listItems
    else .ok [d]
  | _ => .error .noMapping

def objects (text : String) : Except Fault (List Document) := do
  let parts ← (Yaml.documents text).mapM fun d => (d.map objectsOf).getD (.error .malformed)
  .ok parts.flatten

end PolicyAttachment.Manifest
