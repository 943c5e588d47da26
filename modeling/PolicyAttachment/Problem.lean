import PolicyAttachment.Ref
import PolicyAttachment.Text.Quoted

namespace PolicyAttachment

inductive Problem where
  | missingName (kind : GroupKind)
  | missingReference (field : String)
  | orphanedPolicy (policy target : ObjectRef)
  | unknownClassification (kind : GroupKind) (label : Option String)
  | ancestorCycle (node : ObjectRef)
  | invalidObject (reason : String)
deriving DecidableEq, Repr, Inhabited

def Problem.message : Problem → String
  | missingName kind => "malformed reference to " ++ kind.display ++ ": missing name"
  | missingReference field => "malformed reference to " ++ field ++ ": missing reference"
  | orphanedPolicy policy target =>
    "policy " ++ policy.display ++ " targets " ++ target.display ++ ", which does not exist"
  | unknownClassification kind label =>
    "policy kind " ++ kind.display ++ " has unrecognized classification " ++
      Text.quotedOption label
  | ancestorCycle node => "ancestor cycle detected at " ++ node.display
  | invalidObject reason => "invalid object: " ++ reason

structure Diagnostic where
  resource : ObjectRef
  problem : Problem
deriving DecidableEq, Repr, Inhabited

end PolicyAttachment
