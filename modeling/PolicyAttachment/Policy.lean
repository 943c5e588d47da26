import PolicyAttachment.Document
import PolicyAttachment.Ref
import PolicyAttachment.Text.Blank

namespace PolicyAttachment

inductive Classification where
  | direct
  | inherited
  | unknown
deriving DecidableEq, Repr, Inhabited

def Classification.ofLabel (label : Option String) : Classification :=
  match label.map fun l => Text.lowerAscii (Text.trim l) with
  | some "direct" => .direct
  | some "inherited" => .inherited
  | _ => .unknown

def Classification.label : Classification → String
  | direct => "direct"
  | inherited => "inherited"
  | unknown => "unknown"

/-- The two parts of an inherited policy: fields that win over those of resources below, and fields
that give way to them. -/
structure Overlay where
  overrides : Fields
  defaults : Fields
deriving DecidableEq, Inhabited

def Overlay.part (spec : Fields) (name : String) : Fields :=
  ((spec.get? name).bind Document.fields?).getD .empty

def Overlay.ofSpec (spec : Fields) : Overlay := ⟨part spec "override", part spec "default"⟩

inductive PolicyBody where
  | direct (fields : Fields)
  | inherited (overlay : Overlay)
deriving DecidableEq, Inhabited

def PolicyBody.directFields (spec : Fields) : Fields :=
  .ofList (spec.entries.filter fun e => e.1 ≠ "targetRef")

def PolicyBody.ofSpec? (spec : Fields) : Classification → Option PolicyBody
  | .direct => some (.direct (directFields spec))
  | .inherited => some (.inherited (.ofSpec spec))
  | .unknown => none

def PolicyBody.classification : PolicyBody → Classification
  | direct _ => .direct
  | inherited _ => .inherited

structure PolicyInstance where
  id : ObjectRef
  kind : GroupKind
  target : ObjectRef
  body : PolicyBody
deriving DecidableEq, Inhabited

namespace PolicyInstance

def classification (p : PolicyInstance) : Classification := p.body.classification

def overlay? (p : PolicyInstance) : Option Overlay :=
  match p.body with
  | .inherited o => some o
  | .direct _ => none

def directFields? (p : PolicyInstance) : Option Fields :=
  match p.body with
  | .direct fs => some fs
  | .inherited _ => none

end PolicyInstance

end PolicyAttachment
