import PolicyAttachment.Loader
import PolicyAttachment.Manifest
import PolicyAttachment.Model
import PolicyAttachment.Report.Encoding
import PolicyAttachment.Yaml.Printer

namespace PolicyAttachment

inductive OutputFormat where
  | json
  | yaml
deriving DecidableEq, Repr, Inhabited

structure Invocation where
  files : List String
  format : OutputFormat := .yaml
  resource : Option Reference := none
  config : Config := {}
deriving DecidableEq, Repr, Inhabited

inductive Failure where
  | unreadable (file : String)
  | malformed (file : String)
  | invalidResource
  | notFound (id : ObjectRef)
deriving DecidableEq, Repr, Inhabited

def Failure.message : Failure → String
  | unreadable file => "failed to read " ++ file
  | malformed file => "failed to parse " ++ file
  | invalidResource => "invalid resource"
  | notFound id => id.display ++ " not found"

def OutputFormat.print (r : Report) : OutputFormat → String
  | json => Document.Json.pretty 0 r.document ++ "\n"
  | yaml => Yaml.render (r.documentBy yamlKey)

namespace Invocation

def objectsOf (file : String) (contents : Option String) : Except Failure (List Document) :=
  match contents with
  | none => .error (.unreadable file)
  | some text => (Manifest.objects text).mapError fun _ => .malformed file

def objects (i : Invocation) (contents : String → Option String) :
    Except Failure (List Document) := do
  let parts ← i.files.mapM fun file => objectsOf file (contents file)
  .ok parts.flatten

def model (i : Invocation) (ds : List Document) : Model :=
  .discover (.ofObjects i.config.policyLabelKey ds) i.config

def resolve (i : Invocation) (ref : Reference) : Except Failure ObjectRef :=
  ((Resolver.ofDefault i.config.defaultNamespace).resolve ref "").mapError fun _ => .invalidResource

def records (i : Invocation) (m : Model) : Except Failure (List NodePolicies) :=
  match i.resource with
  | none => .ok m.report.resources
  | some ref => do
    let id ← i.resolve ref
    match m.policiesFor? id with
    | some n => .ok [n]
    | none => .error (.notFound id)

def run (i : Invocation) (contents : String → Option String) : Except Failure String := do
  let m := i.model (← i.objects contents)
  .ok (i.format.print ⟨← i.records m, m.diagnostics⟩)

end Invocation

end PolicyAttachment
