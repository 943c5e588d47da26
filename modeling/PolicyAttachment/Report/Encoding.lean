import PolicyAttachment.Report

namespace PolicyAttachment

def ObjectRef.document (r : ObjectRef) : Document :=
  .object ((if r.group = "" then [] else [("group", .string r.group)]) ++
    [("kind", .string r.kind)] ++
    (if r.namespaceName = "" then [] else [("namespace", .string r.namespaceName)]) ++
    [("name", .string r.name)])

def GroupKind.document (k : GroupKind) : Document := .string k.display

def Candidate.document (c : Candidate) : Document :=
  .object [("policy", c.policy.document), ("fields", .object c.fields.entries)]

def EffectivePolicy.document : EffectivePolicy → Document
  | resolved fields => .object fields.entries
  | ambiguous candidates => .array (candidates.map Candidate.document)

abbrev KeyText := (alone : Bool) → GroupKind → String

def displayKey : KeyText := fun _ k => k.display

/-- In YAML an exclamation mark that is all of the name of the kind starts a tag, where the key is the
only one; as there is no tag, it is lost. -/
def yamlKey : KeyText := fun alone k =>
  if alone ∧ k.kind = "!" ∧ k.group ≠ "" then "." ++ k.group else k.display

def EffectivePolicies.documentBy (key : KeyText) (e : EffectivePolicies) : Document :=
  .object (e.entries.map fun p => (key (e.size = 1) p.1, p.2.document))

def EffectivePolicies.document (e : EffectivePolicies) : Document := e.documentBy displayKey

def Diagnostic.document (d : Diagnostic) : Document :=
  .object [("resource", d.resource.document), ("message", .string d.problem.message)]

namespace NodePolicies

def attachedDocument (p : PolicyInstance) : Document :=
  .object [("kind", p.kind.document), ("policy", p.id.document)]

def inheritedDocument (p : PolicyInstance) : Document :=
  .object [("kind", p.kind.document), ("policy", p.id.document), ("target", p.target.document)]

def documentBy (key : KeyText) (n : NodePolicies) : Document :=
  .object ([("resource", n.resource.document), ("kind", .string n.kind.label)] ++
    (if n.placeholder then [("placeholder", .bool true)] else []) ++
    [("directlyAttached", .array (n.direct.map attachedDocument)),
      ("inherited", .array (n.inherited.map inheritedDocument)),
      ("effective", EffectivePolicies.documentBy key n.effective)] ++
    (if n.effectiveByParent.isEmpty then []
      else [("effectiveByParent", .object (n.effectiveByParent.entries.map fun e =>
        (e.1, EffectivePolicies.documentBy key e.2)))]))

def document (n : NodePolicies) : Document := n.documentBy displayKey

end NodePolicies

def Report.documentBy (key : KeyText) (r : Report) : Document :=
  .object [("resources", .array (r.resources.map (NodePolicies.documentBy key))),
    ("diagnostics", .array (r.diagnostics.map Diagnostic.document))]

def Report.document (r : Report) : Document := r.documentBy displayKey

end PolicyAttachment
