import PolicyAttachment.Proofs.Construction

/-!
The graph as nodes that each keep a set of parents and a set of children, built object by object. A link enters
both sets, if both of its ends are nodes.
-/

namespace PolicyAttachment

structure Vertex where
  node : Node
  parents : SortedMap ObjectRef Unit
  children : SortedMap ObjectRef Unit

structure Adjacency where
  vertices : SortedMap ObjectRef Vertex
  problems : List Diagnostic

namespace Adjacency

def contains (a : Adjacency) (id : ObjectRef) : Bool := a.vertices.contains id

def node? (a : Adjacency) (id : ObjectRef) : Option Node := (a.vertices.get? id).map (·.node)

def parents (a : Adjacency) (id : ObjectRef) : List ObjectRef :=
  match a.vertices.get? id with
  | some v => v.parents.keys
  | none => []

def children (a : Adjacency) (id : ObjectRef) : List ObjectRef :=
  match a.vertices.get? id with
  | some v => v.children.keys
  | none => []

def update (a : Adjacency) (id : ObjectRef) (f : Vertex → Vertex) : Adjacency :=
  match a.vertices.get? id with
  | some v => { a with vertices := a.vertices.insert id (f v) }
  | none => a

def observe (a : Adjacency) (id : ObjectRef) (kind : NodeKind) (spec : Option Document) : Adjacency :=
  match a.vertices.get? id with
  | some v => { a with vertices := a.vertices.insert id { v with node := ⟨kind, spec.or v.node.spec⟩ } }
  | none => { a with vertices := a.vertices.insert id ⟨⟨kind, spec⟩, .empty, .empty⟩ }

def mention (a : Adjacency) (id : ObjectRef) (role : NodeKind) : Adjacency :=
  match a.vertices.get? id with
  | some _ => a
  | none => { a with vertices := a.vertices.insert id ⟨⟨.infer id.groupKind role, none⟩, .empty, .empty⟩ }

def link (a : Adjacency) (parent child : ObjectRef) : Adjacency :=
  (a.update child fun v => { v with parents := v.parents.insert parent () }).update parent fun v =>
    { v with children := v.children.insert child () }

def report (a : Adjacency) (id : ObjectRef) (e : Problem) : Adjacency :=
  { a with problems := a.problems ++ [⟨id, e⟩] }

def linkParent (r : Resolver) (child : ObjectRef) (role : NodeKind) (a : Adjacency) (ref : Reference) : Adjacency :=
  match r.resolve ref child.namespaceName with
  | .ok parent => (a.mention parent role).link parent child
  | .error e => a.report child e

def linkChild (r : Resolver) (parent : ObjectRef) (role : NodeKind) (a : Adjacency) (ref : Reference) : Adjacency :=
  match r.resolve ref parent.namespaceName with
  | .ok child => (a.mention child role).link parent child
  | .error e => a.report parent e

def addNamed (r : Resolver) (kind : NodeKind) (a : Adjacency) (ref? : Option ObjectRef) (spec : Option Document) :
    Adjacency :=
  match ref? with
  | some ref => a.observe (r.place ref) kind spec
  | none => a

def addGateway (r : Resolver) (a : Adjacency) (g : Gateway) : Adjacency :=
  match g.ref? with
  | some ref =>
    linkParent r (r.place ref) .gatewayClass (a.observe (r.place ref) .gateway (some g.spec.document)) g.spec.classRef
  | none => a

def addRoute (r : Resolver) (a : Adjacency) (h : HttpRoute) : Adjacency :=
  match h.ref? with
  | some ref =>
    let id := r.place ref
    let a := h.spec.parentRefs.foldl (linkParent r id .gateway) (a.observe id .httpRoute (some h.spec.document))
    h.spec.backendRefs.foldl (linkChild r id .backend) a
  | none => a

def withNamespaces (a : Adjacency) : Adjacency :=
  let namespaces := (a.vertices.keys.filter fun id => !id.isClusterScoped).map fun id =>
    (ObjectRef.ofNamespace id.namespaceName, ())
  (SortedMap.ofList namespaces).keys.foldl (fun a id => a.mention id .coreNamespace) a

def build (s : Snapshot) (r : Resolver) (namespaceNodes : Bool) (problems : List Diagnostic) : Adjacency :=
  let a := s.namespaces.foldl (fun a n => addNamed r .coreNamespace a n.ref? (some n.spec)) ⟨.empty, problems⟩
  let a := s.gatewayClasses.foldl (fun a c => addNamed r .gatewayClass a c.ref? (some c.spec)) a
  let a := s.backends.foldl (fun a o => addNamed r .backend a o.ref? (o.spec.map fun fs => .object fs.entries)) a
  let a := s.gateways.foldl (addGateway r) a
  let a := s.routes.foldl (addRoute r) a
  if namespaceNodes then a.withNamespaces else a

variable {a : Adjacency} {g : Graph} {r : Resolver} {id p c x : ObjectRef}

theorem get?_update (a : Adjacency) (id x : ObjectRef) (f : Vertex → Vertex) :
    (a.update id f).vertices.get? x = if x = id then (a.vertices.get? x).map f else a.vertices.get? x := by
  unfold update
  cases hid : a.vertices.get? id with
  | none =>
    by_cases hx : x = id
    · rw [if_pos hx, hx, hid, Option.map_none]
    · rw [if_neg hx]
  | some v =>
    rw [SortedMap.get?_insert]
    by_cases hx : x = id
    · rw [if_pos hx, if_pos hx, hx, hid, Option.map_some]
    · rw [if_neg hx, if_neg hx]

theorem contains_eq_isSome_node? (a : Adjacency) (x : ObjectRef) : a.contains x = (a.node? x).isSome :=
  Option.isSome_map.symm

theorem mem_parents_iff : p ∈ a.parents c ↔ ∃ v, a.vertices.get? c = some v ∧ p ∈ v.parents.keys := by
  unfold parents
  cases a.vertices.get? c <;> simp

theorem mem_children_iff : c ∈ a.children p ↔ ∃ v, a.vertices.get? p = some v ∧ c ∈ v.children.keys := by
  unfold children
  cases a.vertices.get? p <;> simp

section

variable (a : Adjacency) (id : ObjectRef) (kind : NodeKind) (spec : Option Document) (x : ObjectRef)

theorem node?_observe : (a.observe id kind spec).node? x =
    if x = id then some ⟨kind, spec.or ((a.node? id).bind (·.spec))⟩ else a.node? x := by
  unfold observe node?
  cases a.vertices.get? id with
  | none => by_cases hx : x = id <;> simp [SortedMap.get?_insert, hx]
  | some v => by_cases hx : x = id <;> simp [SortedMap.get?_insert, hx]

theorem parents_observe : (a.observe id kind spec).parents x = a.parents x := by
  unfold observe parents
  cases hid : a.vertices.get? id with
  | none => by_cases hx : x = id <;> simp [SortedMap.get?_insert, hx, hid]
  | some v => by_cases hx : x = id <;> simp [SortedMap.get?_insert, hx, hid]

theorem children_observe : (a.observe id kind spec).children x = a.children x := by
  unfold observe children
  cases hid : a.vertices.get? id with
  | none => by_cases hx : x = id <;> simp [SortedMap.get?_insert, hx, hid]
  | some v => by_cases hx : x = id <;> simp [SortedMap.get?_insert, hx, hid]

theorem problems_observe : (a.observe id kind spec).problems = a.problems := by
  unfold observe
  cases a.vertices.get? id <;> rfl

theorem node?_mention : (a.mention id kind).node? x =
    (a.node? x).or (if id = x then some ⟨.infer id.groupKind kind, none⟩ else none) := by
  unfold mention node?
  cases hid : a.vertices.get? id with
  | none =>
    by_cases hx : x = id
    · simp [SortedMap.get?_insert, hx, hid]
    · simp [SortedMap.get?_insert, hx, Ne.symm hx]
  | some v =>
    by_cases hx : x = id
    · simp [hx, hid]
    · simp [Ne.symm hx]

theorem parents_mention : (a.mention id kind).parents x = a.parents x := by
  unfold mention parents
  cases hid : a.vertices.get? id with
  | none => by_cases hx : x = id <;> simp [SortedMap.get?_insert, hx, hid]
  | some v => rfl

theorem children_mention : (a.mention id kind).children x = a.children x := by
  unfold mention children
  cases hid : a.vertices.get? id with
  | none => by_cases hx : x = id <;> simp [SortedMap.get?_insert, hx, hid]
  | some v => rfl

theorem problems_mention : (a.mention id kind).problems = a.problems := by
  unfold mention
  cases a.vertices.get? id <;> rfl

end

section

variable (a : Adjacency) (parent child : ObjectRef)

theorem node?_link (x : ObjectRef) : (a.link parent child).node? x = a.node? x := by
  unfold link node?
  rw [get?_update, get?_update]
  split <;> split <;> simp [Function.comp_def]

theorem problems_link : (a.link parent child).problems = a.problems := by
  have hupdate : ∀ (a : Adjacency) id f, (a.update id f).problems = a.problems := by
    intro a id f
    unfold update
    cases a.vertices.get? id <;> rfl
  rw [link, hupdate, hupdate]

variable {a parent child}

theorem mem_parents_link (hchild : a.contains child = true) :
    p ∈ (a.link parent child).parents c ↔ p ∈ a.parents c ∨ (p = parent ∧ c = child) := by
  obtain ⟨v, hv⟩ := Option.isSome_iff_exists.mp hchild
  rw [mem_parents_iff, mem_parents_iff, link, get?_update, get?_update]
  by_cases hc : c = child
  · subst hc
    rw [if_pos rfl, hv]
    split <;> simp [SortedMap.mem_keys_insert, or_comm]
  · rw [if_neg hc]
    split
    · cases a.vertices.get? c <;> simp [hc]
    · simp [hc]

theorem mem_children_link (hparent : a.contains parent = true) :
    c ∈ (a.link parent child).children p ↔ c ∈ a.children p ∨ (p = parent ∧ c = child) := by
  obtain ⟨v, hv⟩ := Option.isSome_iff_exists.mp hparent
  rw [mem_children_iff, mem_children_iff, link, get?_update, get?_update]
  by_cases hp : p = parent
  · subst hp
    rw [if_pos rfl, hv]
    split <;> simp [SortedMap.mem_keys_insert, or_comm]
  · rw [if_neg hp]
    split
    · cases a.vertices.get? p <;> simp [hp]
    · simp [hp]

end

/-- The two have the same nodes, and each link of the graph is in both sets. -/
structure Depicts (a : Adjacency) (g : Graph) : Prop where
  nodes : ∀ x, a.node? x = g.nodes.get? x
  parents : ∀ p c, p ∈ a.parents c ↔ ⟨p, c⟩ ∈ g.links.keys
  children : ∀ p c, c ∈ a.children p ↔ ⟨p, c⟩ ∈ g.links.keys

namespace Depicts

variable (h : a.Depicts g)
include h

theorem contains_eq (x : ObjectRef) : a.contains x = g.contains x := by
  rw [contains_eq_isSome_node?, h.nodes]
  rfl

theorem observe (id : ObjectRef) (kind : NodeKind) (spec : Option Document) :
    (a.observe id kind spec).Depicts (g.observe id kind spec) where
  nodes x := by rw [node?_observe, Graph.observe, SortedMap.get?_insert, h.nodes, h.nodes]
  parents p c := by rw [parents_observe, h.parents, Graph.observe]
  children p c := by rw [children_observe, h.children, Graph.observe]

theorem mention (id : ObjectRef) (role : NodeKind) : (a.mention id role).Depicts (g.mention id role) where
  nodes x := by rw [node?_mention, Graph.get?_nodes_mention, h.nodes]
  parents p c := by rw [parents_mention, h.parents, Graph.links_mention]
  children p c := by rw [children_mention, h.children, Graph.links_mention]

theorem link {parent child : ObjectRef} (hparent : a.contains parent = true) (hchild : a.contains child = true) :
    (a.link parent child).Depicts (g.link parent child) where
  nodes x := by rw [node?_link, h.nodes, Graph.link]
  parents p c := by
    rw [mem_parents_link hchild, h.parents, Graph.mem_keys_link, Link.mk.injEq, eq_comm (a := p), eq_comm (a := c)]
  children p c := by
    rw [mem_children_link hparent, h.children, Graph.mem_keys_link, Link.mk.injEq, eq_comm (a := p), eq_comm (a := c)]

end Depicts

theorem contains_mention (a : Adjacency) (id : ObjectRef) (role : NodeKind) :
    (a.mention id role).contains x = true ↔ a.contains x = true ∨ id = x := by
  rw [contains_eq_isSome_node?, contains_eq_isSome_node?, node?_mention]
  by_cases hx : id = x <;> simp [hx]

/-- What there is when these statements have been recorded. -/
structure Tracks (r : Resolver) (before : List Diagnostic) (sts : List Statement) (a : Adjacency) : Prop where
  depicts : a.Depicts (sts.foldl (Statement.record r) .empty)
  problems : a.problems = before ++ sts.filterMap (Statement.problem? r)

namespace Tracks

variable {before : List Diagnostic} {sts : List Statement}

theorem empty (r : Resolver) (before : List Diagnostic) : Tracks r before [] ⟨.empty, before⟩ where
  depicts :=
    { nodes := fun _ => rfl
      parents := by simp [Adjacency.parents, Graph.empty]
      children := by simp [Adjacency.children, Graph.empty] }
  problems := (List.append_nil before).symm

variable (h : Tracks r before sts a)
include h

theorem contains_of_observed {kind : NodeKind} {spec : Option Document} (hid : .observed id kind spec ∈ sts) :
    a.contains id = true := by
  rw [h.depicts.contains_eq, Graph.contains_iff_mem_ids, Statement.mem_ids_foldl]
  exact .inr ⟨_, hid, rfl⟩

theorem observe (id : ObjectRef) (kind : NodeKind) (spec : Option Document) :
    Tracks r before (sts ++ [.observed id kind spec]) (a.observe id kind spec) where
  depicts := by
    rw [List.foldl_append]
    exact h.depicts.observe id kind spec
  problems := by
    rw [problems_observe, h.problems]
    simp [Statement.problem?]

theorem report {st : Statement} {e : Problem} (hrecord : ∀ g, Statement.record r g st = g)
    (hproblem : st.problem? r = some ⟨id, e⟩) : Tracks r before (sts ++ [st]) (a.report id e) where
  depicts := by
    rw [List.foldl_append, List.foldl_cons, hrecord]
    exact ⟨h.depicts.nodes, h.depicts.parents, h.depicts.children⟩
  problems := by
    rw [Adjacency.report, h.problems]
    simp [hproblem]

theorem linkParent (role : NodeKind) (ref : Reference) (hid : a.contains id = true) :
    Tracks r before (sts ++ [.childOf id ref role]) (linkParent r id role a ref) := by
  unfold Adjacency.linkParent
  cases hp : r.resolve ref id.namespaceName with
  | error e => exact h.report (fun g => by rw [Statement.record, hp]) (by rw [Statement.problem?, hp])
  | ok parent =>
    constructor
    · rw [List.foldl_append, List.foldl_cons, List.foldl_nil, Statement.record, hp]
      exact (h.depicts.mention parent role).link ((contains_mention a parent role).mpr (.inr rfl))
        ((contains_mention a parent role).mpr (.inl hid))
    · rw [problems_link, problems_mention, h.problems]
      simp [Statement.problem?, hp]

theorem linkChild (role : NodeKind) (ref : Reference) (hid : a.contains id = true) :
    Tracks r before (sts ++ [.parentOf id ref role]) (linkChild r id role a ref) := by
  unfold Adjacency.linkChild
  cases hc : r.resolve ref id.namespaceName with
  | error e => exact h.report (fun g => by rw [Statement.record, hc]) (by rw [Statement.problem?, hc])
  | ok child =>
    constructor
    · rw [List.foldl_append, List.foldl_cons, List.foldl_nil, Statement.record, hc]
      exact (h.depicts.mention child role).link ((contains_mention a child role).mpr (.inl hid))
        ((contains_mention a child role).mpr (.inr rfl))
    · rw [problems_link, problems_mention, h.problems]
      simp [Statement.problem?, hc]

theorem foldl {kind : NodeKind} {spec : Option Document} {step : Adjacency → Reference → Adjacency}
    {say : Reference → Statement} (hstep : ∀ {sts a} ref, Tracks r before sts a → a.contains id = true →
      Tracks r before (sts ++ [say ref]) (step a ref))
    (hid : .observed id kind spec ∈ sts) (refs : List Reference) :
    Tracks r before (sts ++ refs.map say) (refs.foldl step a) := by
  induction refs generalizing sts a with
  | nil => simpa using h
  | cons ref refs ih =>
    rw [List.map_cons, List.append_cons]
    exact ih (hstep ref h (h.contains_of_observed hid)) (List.mem_append_left _ hid)

theorem foldl_flatMap {α : Type} {add : Adjacency → α → Adjacency} {say : α → List Statement}
    (hadd : ∀ {sts a} o, Tracks r before sts a → Tracks r before (sts ++ say o) (add a o)) (os : List α) :
    Tracks r before (sts ++ os.flatMap say) (os.foldl add a) := by
  induction os generalizing sts a with
  | nil => simpa using h
  | cons o os ih =>
    rw [List.flatMap_cons, ← List.append_assoc]
    exact ih (hadd o h)

theorem addNamed (kind : NodeKind) (ref? : Option ObjectRef) (spec : Option Document) :
    Tracks r before (sts ++ Statement.about r ref? fun id => [.observed id kind spec])
      (addNamed r kind a ref? spec) := by
  cases ref? with
  | none => simpa [Statement.about, Adjacency.addNamed] using h
  | some ref => exact h.observe (r.place ref) kind spec

theorem addGateway (g : Gateway) : Tracks r before (sts ++ Statement.ofGateway r g) (addGateway r a g) := by
  unfold Adjacency.addGateway Statement.ofGateway
  cases g.ref? with
  | none => simpa [Statement.about] using h
  | some ref =>
    have hobserved := h.observe (r.place ref) .gateway (some g.spec.document)
    rw [Statement.about, List.append_cons]
    exact hobserved.linkParent _ _ (hobserved.contains_of_observed (List.mem_append_right _ List.mem_cons_self))

theorem addRoute (o : HttpRoute) : Tracks r before (sts ++ Statement.ofRoute r o) (addRoute r a o) := by
  unfold Adjacency.addRoute Statement.ofRoute
  cases o.ref? with
  | none => simpa [Statement.about] using h
  | some ref =>
    have hobserved := h.observe (r.place ref) .httpRoute (some o.spec.document)
    have hmem := List.mem_append_right sts (List.mem_singleton_self
      (Statement.observed (r.place ref) .httpRoute (some o.spec.document)))
    rw [Statement.about, List.append_cons, ← List.append_assoc]
    -- both loops come after the observation, so the route is a node at each link
    exact (hobserved.foldl (fun ref h hid => h.linkParent _ ref hid) hmem _).foldl
      (fun ref h hid => h.linkChild _ ref hid) (List.mem_append_left _ hmem) _

end Tracks

theorem tracks_build (s : Snapshot) (r : Resolver) (before : List Diagnostic) :
    Tracks r before (s.statements r) (build s r false before) := by
  have hnamespaces := (Tracks.empty r before).foldl_flatMap
    (fun n h => h.addNamed .coreNamespace n.ref? (some n.spec)) s.namespaces
  have hclasses := hnamespaces.foldl_flatMap (fun c h => h.addNamed .gatewayClass c.ref? (some c.spec)) s.gatewayClasses
  have hbackends := hclasses.foldl_flatMap
    (fun o h => h.addNamed .backend o.ref? (o.spec.map fun fs => .object fs.entries)) s.backends
  have hgateways := hbackends.foldl_flatMap (fun o h => h.addGateway o) s.gateways
  exact hgateways.foldl_flatMap (fun o h => h.addRoute o) s.routes

section

variable (a : Adjacency) (role : NodeKind) (ids : List ObjectRef) (x : ObjectRef)

theorem node?_foldl_mention : (ids.foldl (fun a id => a.mention id role) a).node? x =
    (a.node? x).or (if x ∈ ids then some ⟨.infer x.groupKind role, none⟩ else none) := by
  induction ids generalizing a with
  | nil => simp
  | cons id ids ih =>
    rw [List.foldl_cons, ih, node?_mention, Option.or_assoc]
    by_cases hid : id = x
    · simp [hid]
    · simp [hid, Ne.symm hid]

theorem foldl_mention_eq {β : Type} {f : Adjacency → β} (hf : ∀ a id, f (a.mention id role) = f a) :
    f (ids.foldl (fun a id => a.mention id role) a) = f a := by
  induction ids generalizing a with
  | nil => rfl
  | cons id ids ih => rw [List.foldl_cons, ih, hf]

end

theorem Depicts.withNamespaces (h : a.Depicts g) : a.withNamespaces.Depicts g.withNamespaces := by
  have hlinks : g.withNamespaces.links = g.links :=
    Graph.links_foldl_mention _ (fun id => .ofNamespace id.namespaceName) _ _
  have hids : ∀ id, id ∈ a.vertices.keys ↔ id ∈ g.ids := by
    intro id
    rw [← SortedMap.contains_iff_mem_keys, ← Graph.contains_iff_mem_ids]
    exact iff_of_eq (congrArg (· = true) (h.contains_eq id))
  have hnamespaces : ∀ x, x ∈ (SortedMap.ofList ((a.vertices.keys.filter fun id => !id.isClusterScoped).map
      fun id => (ObjectRef.ofNamespace id.namespaceName, ()))).keys ↔
        ∃ id ∈ g.ids.filter fun id => !id.isClusterScoped, .ofNamespace id.namespaceName = x := by
    intro x
    rw [SortedMap.mem_keys_ofList]
    simp [hids]
  constructor
  · intro x
    rw [Adjacency.withNamespaces, Graph.withNamespaces, node?_foldl_mention,
      Graph.get?_nodes_foldl_mention _ (fun id => .ofNamespace id.namespaceName), h.nodes,
      if_congr (hnamespaces x) rfl rfl]
  · intro p c
    have hkept : a.withNamespaces.parents c = a.parents c :=
      foldl_mention_eq (f := (·.parents c)) a .coreNamespace _ fun a id => parents_mention a id .coreNamespace c
    rw [hkept, h.parents, hlinks]
  · intro p c
    have hkept : a.withNamespaces.children p = a.children p :=
      foldl_mention_eq (f := (·.children p)) a .coreNamespace _ fun a id => children_mention a id .coreNamespace p
    rw [hkept, h.children, hlinks]

section

variable (s : Snapshot) (r : Resolver) (namespaceNodes : Bool) (before : List Diagnostic)

theorem problems_build : (build s r namespaceNodes before).problems = before ++ Graph.problems s r := by
  have h := (tracks_build s r before).problems
  cases namespaceNodes with
  | false => exact h
  | true =>
    have hkept : (build s r false before).withNamespaces.problems = (build s r false before).problems :=
      foldl_mention_eq _ .coreNamespace _ fun a id => problems_mention a id .coreNamespace
    exact hkept.trans h

end

theorem pairwise_parents (a : Adjacency) (c : ObjectRef) : (a.parents c).Pairwise fun p q => compare p q = .lt := by
  unfold parents
  split
  · exact SortedMap.pairwise_keys _
  · exact .nil

theorem pairwise_children (a : Adjacency) (p : ObjectRef) : (a.children p).Pairwise fun c d => compare c d = .lt := by
  unfold children
  split
  · exact SortedMap.pairwise_keys _
  · exact .nil

theorem Depicts.parents_eq (h : a.Depicts g) (c : ObjectRef) : a.parents c = g.parents c := by
  apply SortedMap.eq_of_pairwise_lt (a.pairwise_parents c) (g.pairwise_parents c)
  intro p
  rw [h.parents, Graph.mem_parents_iff]

end Adjacency

end PolicyAttachment
