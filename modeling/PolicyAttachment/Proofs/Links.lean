import PolicyAttachment.Hierarchy

namespace PolicyAttachment

namespace Statement

def subject : Statement → ObjectRef
  | observed id _ _ => id
  | childOf child _ _ => child
  | parentOf parent _ _ => parent

def node? (r : Resolver) : Statement → Option ObjectRef
  | observed id _ _ => some id
  | childOf child parent _ => (r.resolve parent child.namespaceName).toOption
  | parentOf parent child _ => (r.resolve child parent.namespaceName).toOption

def link? (r : Resolver) : Statement → Option Link
  | observed _ _ _ => none
  | childOf child parent _ => (r.resolve parent child.namespaceName).toOption.map fun p => ⟨p, child⟩
  | parentOf parent child _ => (r.resolve child parent.namespaceName).toOption.map fun c => ⟨parent, c⟩

end Statement

namespace Graph

theorem contains_iff_mem_ids {g : Graph} {id : ObjectRef} : g.contains id = true ↔ id ∈ g.ids :=
  SortedMap.contains_iff_mem_keys

theorem mem_parents_iff {g : Graph} {c p : ObjectRef} : p ∈ g.parents c ↔ ⟨p, c⟩ ∈ g.links.keys := by
  simp only [parents, List.mem_map, List.mem_filter, decide_eq_true_eq]
  constructor
  · rintro ⟨l, ⟨hl, rfl⟩, rfl⟩
    exact hl
  · intro h
    exact ⟨⟨p, c⟩, ⟨h, rfl⟩, rfl⟩

theorem mem_ids_observe {g : Graph} {id x : ObjectRef} {kind : NodeKind} {spec : Option Document} :
    x ∈ (g.observe id kind spec).ids ↔ x ∈ g.ids ∨ id = x := by
  rw [ids, observe, SortedMap.mem_keys_insert, or_comm, eq_comm]
  rfl

theorem mem_ids_mention {g : Graph} {id x : ObjectRef} {role : NodeKind} :
    x ∈ (g.mention id role).ids ↔ x ∈ g.ids ∨ id = x := by
  unfold mention
  split
  · rename_i h
    constructor
    · exact Or.inl
    · rintro (hx | rfl)
      · exact hx
      · exact contains_iff_mem_ids.mp h
  · rw [ids, SortedMap.mem_keys_insert, or_comm, eq_comm]
    rfl

theorem links_mention (g : Graph) (id : ObjectRef) (role : NodeKind) :
    (g.mention id role).links = g.links := by
  unfold mention
  split <;> rfl

theorem ids_link (g : Graph) (p c : ObjectRef) : (g.link p c).ids = g.ids := rfl

theorem mem_keys_link {g : Graph} {p c : ObjectRef} {l : Link} :
    l ∈ (g.link p c).links.keys ↔ l ∈ g.links.keys ∨ ⟨p, c⟩ = l := by
  rw [link, SortedMap.mem_keys_insert, or_comm, eq_comm]

end Graph

namespace Statement

theorem mem_ids_record {r : Resolver} {g : Graph} {st : Statement} {x : ObjectRef} :
    x ∈ (st.record r g).ids ↔ x ∈ g.ids ∨ st.node? r = some x := by
  cases st with
  | observed id kind spec => simp only [record, node?, Graph.mem_ids_observe, Option.some.injEq]
  | childOf child parent role =>
    cases h : r.resolve parent child.namespaceName with
    | error e => simp [record, node?, h, Except.toOption]
    | ok p => simp [record, node?, h, Except.toOption, Graph.ids_link, Graph.mem_ids_mention]
  | parentOf parent child role =>
    cases h : r.resolve child parent.namespaceName with
    | error e => simp [record, node?, h, Except.toOption]
    | ok c => simp [record, node?, h, Except.toOption, Graph.ids_link, Graph.mem_ids_mention]

theorem mem_links_record {r : Resolver} {g : Graph} {st : Statement} {l : Link} :
    l ∈ (st.record r g).links.keys ↔ l ∈ g.links.keys ∨ st.link? r = some l := by
  cases st with
  | observed id kind spec => simp [record, link?, Graph.observe]
  | childOf child parent role =>
    cases h : r.resolve parent child.namespaceName with
    | error e => simp [record, link?, h, Except.toOption]
    | ok p => simp [record, link?, h, Except.toOption, Graph.mem_keys_link, Graph.links_mention]
  | parentOf parent child role =>
    cases h : r.resolve child parent.namespaceName with
    | error e => simp [record, link?, h, Except.toOption]
    | ok c => simp [record, link?, h, Except.toOption, Graph.mem_keys_link, Graph.links_mention]

theorem mem_ids_foldl {r : Resolver} {g : Graph} {sts : List Statement} {x : ObjectRef} :
    x ∈ (sts.foldl (record r) g).ids ↔ x ∈ g.ids ∨ ∃ st ∈ sts, st.node? r = some x := by
  induction sts generalizing g with
  | nil => simp
  | cons st sts ih => simp [ih, mem_ids_record, or_assoc]

theorem mem_links_foldl {r : Resolver} {g : Graph} {sts : List Statement} {l : Link} :
    l ∈ (sts.foldl (record r) g).links.keys ↔
      l ∈ g.links.keys ∨ ∃ st ∈ sts, st.link? r = some l := by
  induction sts generalizing g with
  | nil => simp
  | cons st sts ih => simp [ih, mem_links_record, or_assoc]

end Statement

namespace Statement

/-- Whatever is said of a resource, it was observed. -/
def Grounded (sts : List Statement) : Prop :=
  ∀ st ∈ sts, ∃ kind spec, observed st.subject kind spec ∈ sts

theorem Grounded.append {sts sts' : List Statement} (h : Grounded sts) (h' : Grounded sts') :
    Grounded (sts ++ sts') := by
  intro st hst
  rcases List.mem_append.mp hst with hst | hst
  · obtain ⟨kind, spec, hs⟩ := h st hst
    exact ⟨kind, spec, List.mem_append_left _ hs⟩
  · obtain ⟨kind, spec, hs⟩ := h' st hst
    exact ⟨kind, spec, List.mem_append_right _ hs⟩

theorem Grounded.flatMap {α : Type} {f : α → List Statement} (h : ∀ a, Grounded (f a)) (as : List α) :
    Grounded (as.flatMap f) := by
  induction as with
  | nil => simp [Grounded]
  | cons a as ih => exact (h a).append ih

theorem Grounded.about {r : Resolver} {say : ObjectRef → List Statement} (ref? : Option ObjectRef)
    (h : ∀ id, Grounded (say id)) : Grounded (about r ref? say) := by
  cases ref? with
  | none => simp [Statement.about, Grounded]
  | some ref => exact h (r.place ref)

theorem grounded_statements (s : Snapshot) (r : Resolver) : Grounded (s.statements r) := by
  refine ((((Grounded.flatMap ?_ _).append (.flatMap ?_ _)).append (.flatMap ?_ _)).append
    (.flatMap ?_ _)).append (.flatMap ?_ _) <;> intro o <;> apply Grounded.about <;> intro id
  · simp [Grounded, subject]
  · simp [Grounded, subject]
  · simp [Grounded, subject]
  · simp [Grounded, subject]
  · grind [Grounded, subject]

theorem node?_of_link? {r : Resolver} {st : Statement} {l : Link} (h : st.link? r = some l) :
    (l.parent = st.subject ∧ st.node? r = some l.child) ∨
      (l.child = st.subject ∧ st.node? r = some l.parent) := by
  cases st with
  | observed id kind spec => simp [link?] at h
  | childOf child parent role =>
    obtain ⟨p, hp, rfl⟩ := Option.map_eq_some_iff.mp h
    exact .inr ⟨rfl, hp⟩
  | parentOf parent child role =>
    obtain ⟨c, hc, rfl⟩ := Option.map_eq_some_iff.mp h
    exact .inl ⟨rfl, hc⟩

end Statement

namespace Graph

variable {s : Snapshot} {r : Resolver} {namespaceNodes : Bool}

theorem mem_ids_foldl_mention {g : Graph} {x : ObjectRef} (f : ObjectRef → ObjectRef)
    (role : NodeKind) (ids : List ObjectRef) :
    x ∈ (ids.foldl (fun h id => h.mention (f id) role) g).ids ↔ x ∈ g.ids ∨ ∃ id ∈ ids, f id = x := by
  induction ids generalizing g with
  | nil => simp
  | cons id ids ih => simp [ih, mem_ids_mention, or_assoc]

theorem get?_nodes_mention (g : Graph) (id : ObjectRef) (role : NodeKind) (x : ObjectRef) :
    (g.mention id role).nodes.get? x =
      (g.nodes.get? x).or (if id = x then some ⟨.infer id.groupKind role, none⟩ else none) := by
  unfold mention
  split
  · rename_i h
    split
    · rename_i hx
      obtain ⟨node, hnode⟩ := Option.isSome_iff_exists.mp (hx ▸ h)
      rw [hnode, Option.some_or]
    · rw [Option.or_none]
  · rename_i h
    rw [SortedMap.get?_insert]
    split
    · rename_i hx
      have hnone : g.nodes.get? x = none := Option.not_isSome_iff_eq_none.mp (hx ▸ h)
      rw [hnone, if_pos hx.symm, Option.none_or]
    · rename_i hx
      rw [if_neg (Ne.symm hx), Option.or_none]

theorem get?_nodes_foldl_mention (g : Graph) (f : ObjectRef → ObjectRef) (role : NodeKind)
    (ids : List ObjectRef) (x : ObjectRef) :
    (ids.foldl (fun h id => h.mention (f id) role) g).nodes.get? x = (g.nodes.get? x).or
      (if ∃ id ∈ ids, f id = x then some ⟨.infer x.groupKind role, none⟩ else none) := by
  induction ids generalizing g with
  | nil => simp
  | cons id ids ih =>
    rw [List.foldl_cons, ih, get?_nodes_mention, Option.or_assoc]
    by_cases hid : f id = x
    · simp [hid]
    · simp [hid]

theorem links_foldl_mention (g : Graph) (f : ObjectRef → ObjectRef) (role : NodeKind)
    (ids : List ObjectRef) : (ids.foldl (fun h id => h.mention (f id) role) g).links = g.links := by
  induction ids generalizing g with
  | nil => rfl
  | cons id ids ih => rw [List.foldl_cons, ih, links_mention]

theorem mem_links_build {l : Link} :
    l ∈ (build s r namespaceNodes).links.keys ↔ ∃ st ∈ s.statements r, st.link? r = some l := by
  have hlinks : (build s r namespaceNodes).links =
      ((s.statements r).foldl (Statement.record r) empty).links := by
    unfold build
    split
    · exact links_foldl_mention _ (fun id => .ofNamespace id.namespaceName) _ _
    · rfl
  rw [hlinks, Statement.mem_links_foldl]
  simp [empty]

theorem contains_build_of_node? (namespaceNodes : Bool) {st : Statement} {x : ObjectRef}
    (hst : st ∈ s.statements r) (hx : st.node? r = some x) : (build s r namespaceNodes).contains x = true := by
  have hmem : x ∈ ((s.statements r).foldl (Statement.record r) empty).ids :=
    Statement.mem_ids_foldl.mpr (.inr ⟨st, hst, hx⟩)
  rw [contains_iff_mem_ids]
  unfold build
  split
  · exact (mem_ids_foldl_mention _ _ _).mpr (.inl hmem)
  · exact hmem

def WellLinked (g : Graph) : Prop :=
  ∀ c p, p ∈ g.parents c → g.contains p = true ∧ g.contains c = true

theorem wellLinked_build (s : Snapshot) (r : Resolver) (namespaceNodes : Bool) :
    (build s r namespaceNodes).WellLinked := by
  intro c p h
  obtain ⟨st, hst, hl⟩ := mem_links_build.mp (mem_parents_iff.mp h)
  obtain ⟨kind, spec, hobs⟩ := Statement.grounded_statements s r st hst
  have hsubject := contains_build_of_node? namespaceNodes hobs rfl
  rcases Statement.node?_of_link? hl with ⟨he, hn⟩ | ⟨he, hn⟩
  · exact ⟨by rw [show p = st.subject from he]; exact hsubject, contains_build_of_node? _ hst hn⟩
  · exact ⟨contains_build_of_node? _ hst hn, by rw [show c = st.subject from he]; exact hsubject⟩

theorem class_mem_parents_build (namespaceNodes : Bool) {gw : Gateway} {ref cls : ObjectRef}
    (hgw : gw ∈ s.gateways) (href : gw.ref? = some ref)
    (hcls : r.resolve gw.spec.classRef (r.place ref).namespaceName = .ok cls) :
    cls ∈ (build s r namespaceNodes).parents (r.place ref) := by
  apply mem_parents_iff.mpr
  apply mem_links_build.mpr
  refine ⟨.childOf (r.place ref) gw.spec.classRef .gatewayClass, ?_, ?_⟩
  · simp only [Snapshot.statements, List.mem_append, List.mem_flatMap]
    exact .inl (.inr ⟨gw, hgw, by simp [Statement.ofGateway, Statement.about, href]⟩)
  · simp [Statement.link?, hcls, Except.toOption]

theorem WellLinked.parents_eq_nil {g : Graph} (hg : g.WellLinked) {c : ObjectRef}
    (h : ¬ g.contains c = true) : g.parents c = [] := by
  apply List.eq_nil_iff_forall_not_mem.mpr
  intro p hp
  exact h (hg c p hp).2

end Graph

end PolicyAttachment
