import PolicyAttachment.Reference

namespace PolicyAttachment.Selector

def cut (c : Char) : List Char → Option (List Char × List Char)
  | [] => none
  | x :: xs => if x = c then some ([], xs) else (cut c xs).map fun p => (x :: p.1, p.2)

def impliedGroup (kind : String) : String :=
  if kind = "GatewayClass" ∨ kind = "Gateway" ∨ kind = "HTTPRoute" then gatewayGroup else ""

def parse? (s : String) : Option Reference := do
  let (first, rest) ← cut '/' s.toList
  let (namespaceName, name) :=
    match cut '/' rest with
    | some (n, m) => (some (String.ofList n), m)
    | none => (none, rest)
  let (kind, group) :=
    match cut '.' first with
    | some (k, g) => (k, String.ofList g)
    | none => (first, impliedGroup (String.ofList first))
  if kind = [] ∨ name = [] ∨ '/' ∈ name then none
  else some { group := some group, kind := some (String.ofList kind),
              name := some (String.ofList name), namespaceName }

def complaint : String := "resource must be of the form Kind[.group]/[namespace/]name"

end PolicyAttachment.Selector
