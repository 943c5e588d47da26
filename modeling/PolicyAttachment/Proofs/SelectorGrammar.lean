import Mathlib.Data.List.TakeWhile
import Mathlib.Tactic.MkIffOfInductiveProp
import PolicyAttachment.Proofs.Selection

namespace PolicyAttachment

namespace Selector

variable {c : Char} {xs ys : List Char} {s : String} {ref : Reference}

def before (c : Char) (xs : List Char) : List Char := xs.takeWhile (· ≠ c)

def after (c : Char) (xs : List Char) : List Char := (xs.dropWhile (· ≠ c)).tail

def afterLast (c : Char) (xs : List Char) : List Char := (before c xs.reverse).reverse

def reference (first : List Char) (namespaceName : Option (List Char)) (name : List Char) : Reference :=
  let kind := String.ofList (before '.' first)
  { group := some (if '.' ∈ first then String.ofList (after '.' first) else impliedGroup kind)
    kind := some kind
    name := some (String.ofList name)
    namespaceName := namespaceName.map String.ofList }

def written (s : String) : Reference :=
  reference (before '/' s.toList)
    (if s.toList.count '/' = 2 then some (before '/' (after '/' s.toList)) else none)
    (afterLast '/' s.toList)

example : parse? "Mesh.example.com//m" =
    some { group := some "example.com", kind := some "Mesh", name := some "m", namespaceName := some "" } := by
  decide +kernel

end Selector

end PolicyAttachment
