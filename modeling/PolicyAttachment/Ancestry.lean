import PolicyAttachment.Graph

/-!
The ancestors of a resource, in the order in which policies flow down from them: by the longest
distance at which a walk against the links met them, farthest first, equally far ones in the order
of their references, and last the resource itself. A walk does not pass a resource that is on its
path, so it ends on every graph; where it would, the resource is noted as lying on a cycle.
-/

namespace PolicyAttachment

structure Trail where
  depths : SortedMap ObjectRef Nat
  cycles : List ObjectRef
deriving DecidableEq, Inhabited

namespace Trail

def empty : Trail := ⟨.empty, []⟩

def closeCycle (t : Trail) (id : ObjectRef) : Trail :=
  if id ∈ t.cycles then t else { t with cycles := t.cycles ++ [id] }

def covers (t : Trail) (id : ObjectRef) (depth : Nat) : Bool :=
  (t.depths.get? id).any (depth ≤ ·)

def record (t : Trail) (id : ObjectRef) (depth : Nat) : Trail :=
  { t with depths := t.depths.insert id depth }

def precedes (a b : ObjectRef × Nat) : Bool :=
  b.2 < a.2 || (a.2 = b.2 && (compare a.1 b.1).isLE)

def chain (t : Trail) : List ObjectRef := (t.depths.entries.mergeSort precedes).map (·.1)

end Trail

namespace Graph

def room (g : Graph) (path : List ObjectRef) : Nat := (g.ids.filter (· ∉ path)).length

theorem mem_ids_of_contains {g : Graph} {id : ObjectRef} (h : g.contains id) : id ∈ g.ids := by
  obtain ⟨n, hn⟩ := Option.isSome_iff_exists.1 h
  exact List.mem_map.2 ⟨(id, n), SortedMap.mem_of_lookup hn, rfl⟩

theorem room_cons_lt {g : Graph} {path : List ObjectRef} {id : ObjectRef} (h : g.contains id)
    (hp : id ∉ path) : g.room (id :: path) < g.room path := by
  have : g.ids.filter (· ∉ id :: path) = (g.ids.filter (· ∉ path)).filter (· ≠ id) := by
    simp [List.filter_filter]
  rw [room, room, this, List.length_filter_lt_length_iff_exists]
  exact ⟨id, by simp [mem_ids_of_contains h, hp], by simp⟩

mutual

/-- Meets a resource at the end of a path, and its ancestors unless that brings nothing new. -/
def visit (g : Graph) (path : List ObjectRef) (depth : Nat) (id : ObjectRef) (t : Trail) : Trail :=
  if hp : id ∈ path then t.closeCycle id
  else if t.covers id depth then t
  else if h : g.contains id then
    visitAll g (id :: path) (depth + 1) (g.parents id) (t.record id depth)
  else t.record id depth
termination_by (g.room path, 0)
decreasing_by exact Prod.Lex.left _ _ (room_cons_lt h hp)

def visitAll (g : Graph) (path : List ObjectRef) (depth : Nat) (ids : List ObjectRef) (t : Trail) :
    Trail :=
  match ids with
  | [] => t
  | id :: ids => visitAll g path depth ids (visit g path depth id t)
termination_by (g.room path, ids.length + 1)

end

def walk (g : Graph) (start : ObjectRef) (through : ObjectRef → Bool) : Trail :=
  g.visitAll [start] 1 ((g.parents start).filter through) .empty

end Graph

def keepLast : List ObjectRef → List ObjectRef
  | [] => []
  | x :: xs => if x ∈ xs then keepLast xs else x :: keepLast xs

/-- Puts before each resource of a chain its namespace, if that is a node. A namespace that would
stand in several places keeps the last. -/
def Graph.interleaveNamespaces (g : Graph) (chain : List ObjectRef) : List ObjectRef :=
  keepLast (chain.flatMap fun id =>
    let ns := ObjectRef.ofNamespace id.namespaceName
    if !id.isClusterScoped && g.contains ns then [ns, id] else [id])

structure Ancestry where
  chain : List ObjectRef
  cycles : List ObjectRef
deriving DecidableEq, Inhabited

def Graph.ancestryThrough (g : Graph) (namespaceAncestors : Bool) (id : ObjectRef)
    (through : ObjectRef → Bool) : Ancestry :=
  if g.contains id then
    let t := g.walk id through
    let chain := t.chain ++ [id]
    ⟨if namespaceAncestors then g.interleaveNamespaces chain else chain, t.cycles⟩
  else ⟨[id], []⟩

end PolicyAttachment
