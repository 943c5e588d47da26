import PolicyAttachment.Policy

namespace PolicyAttachment

structure Candidate where
  policy : ObjectRef
  fields : Fields
deriving DecidableEq, Inhabited

inductive EffectivePolicy where
  | resolved (fields : Fields)
  | ambiguous (candidates : List Candidate)
deriving DecidableEq, Inhabited

abbrev EffectivePolicies := SortedMap GroupKind EffectivePolicy

def EffectivePolicy.isResolved : EffectivePolicy → Bool
  | resolved _ => true
  | ambiguous _ => false

def lastWins (part : Overlay → Fields) (chain : List Overlay) : Fields :=
  chain.foldl (fun fs o => fs.insertMany (part o).entries) .empty

/-- Merges overlays ordered from the most distant ancestor to the resource itself. -/
def merge (chain : List Overlay) : Fields :=
  (lastWins Overlay.defaults chain).insertMany (lastWins Overlay.overrides chain).entries

end PolicyAttachment
