import PolicyAttachment.Proofs.Loading

namespace PolicyAttachment

def Snapshot.stated (s : Snapshot) : List ObjectRef :=
  s.namespaces.filterMap (·.ref?) ++ s.gatewayClasses.filterMap (·.ref?) ++ s.backends.filterMap (·.ref?) ++
    s.gateways.filterMap (·.ref?) ++ s.routes.filterMap (·.ref?)

theorem Snapshot.map_place_stated (s : Snapshot) (r : Resolver) : s.stated.map r.place = s.observed r := by
  simp only [stated, observed, List.map_append, List.map_filterMap]

theorem Reference.groupKind_ofKind_eq_iff {k : GroupKind} {name : String} :
    (Reference.ofKind k name).groupKind = k ↔ k.group ≠ "core" := by
  obtain ⟨kind, group⟩ := k
  by_cases hcore : group = "core"
  · simp [Reference.ofKind, Reference.groupKind, hcore]
  · simp [Reference.ofKind, Reference.groupKind, hcore]

namespace Resolver

/-- What an object states of itself agrees with how references name it: it does not call the core group by its
alias, and states no namespace for a kind that is outside namespaces. -/
structure Canonical (r : Resolver) (ref : ObjectRef) : Prop where
  group : ref.group ≠ "core"
  namespaceName : r.isClusterScoped ref.groupKind = true → ref.namespaceName = ""

variable {r : Resolver} {ref : ObjectRef} {k : GroupKind} {name context : String}

theorem impliedNamespace_of_isClusterScoped (h : r.isClusterScoped k = true) (context : String) :
    r.impliedNamespace k context = "" :=
  impliedNamespace_eq_empty_iff.mpr (.inl h)

theorem resolve_ofKind (hname : name ≠ "") (hgroup : k.group ≠ "core") (context : String) :
    r.resolve (.ofKind k name) context = .ok (.ofKind k (r.impliedNamespace k context) name) := by
  have hkind : (Reference.ofKind k name).groupKind = k := Reference.groupKind_ofKind_eq_iff.mpr hgroup
  rw [resolve_eq_ok_iff, hkind]
  exact ⟨hname, rfl⟩

theorem place_eq_ofKind (r : Resolver) (ref : ObjectRef) :
    r.place ref = .ofKind ref.groupKind (r.place ref).namespaceName ref.name := by
  unfold place
  split <;> rfl

theorem resolve_ofKind_eq_ok_place_iff (hname : ref.name ≠ "") :
    r.resolve (.ofKind ref.groupKind ref.name) context = .ok (r.place ref) ↔
      ref.group ≠ "core" ∧ r.impliedNamespace ref.groupKind context = (r.place ref).namespaceName := by
  constructor
  · intro h
    have hgroup : ref.groupKind.group ≠ "core" := by
      rw [← groupKind_place r, groupKind_of_resolve h]
      exact Reference.group_groupKind_ne_core _
    rw [resolve_ofKind hname hgroup] at h
    exact ⟨hgroup, congrArg ObjectRef.namespaceName (Except.ok.inj h)⟩
  · rintro ⟨hgroup, himplied⟩
    rw [resolve_ofKind hname hgroup, himplied, ← place_eq_ofKind]

theorem impliedNamespace_home_iff :
    r.impliedNamespace ref.groupKind (r.place ref).namespaceName = (r.place ref).namespaceName ↔
      (r.isClusterScoped ref.groupKind = true → ref.namespaceName = "") := by
  by_cases hstated : ref.namespaceName = ""
  · -- the home is the namespace implied without a context, and implies itself
    have hhome : (r.place ref).namespaceName = r.impliedNamespace ref.groupKind "" := by
      rw [place, if_pos hstated]
    simp only [hstated, implies_true, iff_true, hhome, impliedNamespace]
    split
    · rfl
    · simp
  · have hhome : (r.place ref).namespaceName = ref.namespaceName := by rw [place, if_neg hstated]
    rw [hhome]
    by_cases hscoped : r.isClusterScoped ref.groupKind = true
    · simp [impliedNamespace, hscoped, Ne.symm hstated, hstated]
    · simp [impliedNamespace, hscoped, hstated]

theorem resolve_from_home_iff (hname : ref.name ≠ "") :
    r.resolve (.ofKind ref.groupKind ref.name) (r.place ref).namespaceName = .ok (r.place ref) ↔
      r.Canonical ref := by
  rw [resolve_ofKind_eq_ok_place_iff hname, impliedNamespace_home_iff]
  exact ⟨fun h => ⟨h.1, h.2⟩, fun h => ⟨h.group, h.namespaceName⟩⟩

theorem resolve_from_everywhere_iff (hname : ref.name ≠ "") (hscoped : r.isClusterScoped ref.groupKind = true) :
    (∀ context, r.resolve (.ofKind ref.groupKind ref.name) context = .ok (r.place ref)) ↔ r.Canonical ref := by
  rw [← resolve_from_home_iff hname]
  constructor
  · intro h
    exact h _
  · intro h context
    obtain ⟨hgroup, himplied⟩ := (resolve_ofKind_eq_ok_place_iff hname).mp h
    rw [impliedNamespace_of_isClusterScoped hscoped] at himplied
    apply (resolve_ofKind_eq_ok_place_iff hname).mpr
    rw [impliedNamespace_of_isClusterScoped hscoped, himplied]
    exact ⟨hgroup, rfl⟩

theorem canonical_iff_of_gatewayClass (hkind : ref.groupKind = .gatewayClass)
    (hscoped : r.isClusterScoped .gatewayClass = true) : r.Canonical ref ↔ ref.namespaceName = "" := by
  constructor
  · intro h
    exact h.namespaceName (hkind ▸ hscoped)
  · intro hstated
    have hgroup : ref.group = gatewayGroup := congrArg GroupKind.group hkind
    exact ⟨by rw [hgroup]; decide, fun _ => hstated⟩

end Resolver

theorem Snapshot.isClusterScoped_gatewayClass (s : Snapshot) (d : String) :
    (s.resolver d).isClusterScoped .gatewayClass = true :=
  isClusterScoped_resolver_iff.mpr (.inr (by simp [Resolver.isClusterScoped, Resolver.ofDefault]))

namespace Snapshot

variable {s : Snapshot} {r : Resolver} {p c : ObjectRef}

theorem Relates.namespaceName_of_class (h : s.Relates r p c) (hp : p.groupKind = .gatewayClass)
    (hc : c.groupKind = .gateway) (hscoped : r.isClusterScoped .gatewayClass = true) : p.namespaceName = "" := by
  cases h with
  | ofClass _ _ hname hcls =>
    rw [Resolver.resolve_ofKind hname (by decide), Resolver.impliedNamespace_of_isClusterScoped hscoped] at hcls
    obtain rfl := Except.ok.inj hcls
    rfl
  | toParent _ hid _ _ _ =>
    rw [hid.groupKind_eq] at hc
    exact absurd hc (by decide)
  | toBackend _ hid _ _ _ =>
    rw [hid.groupKind_eq] at hp
    exact absurd hp (by decide)

end Snapshot

namespace Graph

variable {s : Snapshot} {d : String} {namespaceNodes : Bool} {c : GatewayClass} {g : Gateway}
  {cref gref : ObjectRef}

theorem class_node_build (hc : c ∈ s.gatewayClasses) (hcref : c.ref? = some cref) :
    ∃ node, (build s (s.resolver d) namespaceNodes).nodes.get? ((s.resolver d).place cref) = some node ∧
      node.isPlaceholder = false := by
  have hspec : (build s (s.resolver d) namespaceNodes).spec? ((s.resolver d).place cref) ≠ none :=
    fun hnone => spec?_build_eq_none_iff.mp hnone _ _ (.ofClass hc hcref)
  obtain ⟨spec, hsome⟩ := Option.ne_none_iff_exists'.mp hspec
  obtain ⟨node, hnode, hnodeSpec⟩ := Option.bind_eq_some_iff.mp hsome
  exact ⟨node, hnode, by rw [Node.isPlaceholder, hnodeSpec, Option.isNone_some]⟩

theorem named_class_mem_parents_build (hg : g ∈ s.gateways) (hgref : g.ref? = some gref)
    (hname : g.spec.className ≠ "") :
    .ofKind .gatewayClass "" g.spec.className ∈
      (build s (s.resolver d) namespaceNodes).parents ((s.resolver d).place gref) := by
  apply class_mem_parents_build namespaceNodes hg hgref
  rw [GatewaySpec.classRef, Resolver.resolve_ofKind hname (by decide),
    Resolver.impliedNamespace_of_isClusterScoped (s.isClusterScoped_gatewayClass d)]

theorem class_mem_parents_build_iff (hg : g ∈ s.gateways) (hgref : g.ref? = some gref)
    (hcref : c.ref? = some cref) (hname : g.spec.className = cref.name) (hne : cref.name ≠ "") :
    (s.resolver d).place cref ∈ (build s (s.resolver d) namespaceNodes).parents ((s.resolver d).place gref) ↔
      cref.namespaceName = "" := by
  have hkind : cref.groupKind = .gatewayClass := Metadata.groupKind_of_ref? hcref
  have hscoped := s.isClusterScoped_gatewayClass d
  constructor
  · intro hparent
    have hhome : ((s.resolver d).place cref).namespaceName = "" :=
      (mem_parents_build_iff.mp hparent).namespaceName_of_class ((groupKind_place _ _).trans hkind)
        ((groupKind_place _ _).trans (Metadata.groupKind_of_ref? hgref)) hscoped
    unfold Resolver.place at hhome
    split at hhome
    · assumption
    · exact hhome
  · intro hstated
    have hcanonical := (Resolver.canonical_iff_of_gatewayClass hkind hscoped).mpr hstated
    apply class_mem_parents_build namespaceNodes hg hgref
    rw [GatewaySpec.classRef, hname, ← hkind]
    exact (Resolver.resolve_from_everywhere_iff hne (hkind ▸ hscoped)).mpr hcanonical _

end Graph

namespace Model

theorem identity_exact (s : Snapshot) (config : Config) :
    let m := discover s config
    let r := s.resolver config.defaultNamespace
    (∀ ref ∈ s.stated, m.graph.contains (r.place ref) = true ∧ (ref.name ≠ "" →
      (r.resolve (.ofKind ref.groupKind ref.name) (r.place ref).namespaceName = .ok (r.place ref) ↔
        r.Canonical ref) ∧
      (r.isClusterScoped ref.groupKind = true →
        ((∀ context, r.resolve (.ofKind ref.groupKind ref.name) context = .ok (r.place ref)) ↔
          r.Canonical ref)))) ∧
    ∀ c ∈ s.gatewayClasses, ∀ cref, c.ref? = some cref → cref.name ≠ "" →
      (∃ node, m.graph.nodes.get? (r.place cref) = some node ∧ node.isPlaceholder = false) ∧
      (r.Canonical cref ↔ cref.namespaceName = "") ∧
      ∀ g ∈ s.gateways, ∀ gref, g.ref? = some gref → g.spec.className = cref.name →
        .ofKind .gatewayClass "" cref.name ∈ m.graph.parents (r.place gref) ∧
        (r.place cref ∈ m.graph.parents (r.place gref) ↔ cref.namespaceName = "") := by
  intro m r
  constructor
  · intro ref href
    have hobserved : r.place ref ∈ s.observed r := by
      rw [← Snapshot.map_place_stated]
      exact List.mem_map_of_mem href
    refine ⟨Graph.contains_build_of_observed hobserved, fun hname => ?_⟩
    exact ⟨Resolver.resolve_from_home_iff hname, Resolver.resolve_from_everywhere_iff hname⟩
  · intro c hc cref hcref hne
    have hkind : cref.groupKind = .gatewayClass := Metadata.groupKind_of_ref? hcref
    refine ⟨Graph.class_node_build hc hcref, ?_, fun g hg gref hgref hname => ⟨?_, ?_⟩⟩
    · exact Resolver.canonical_iff_of_gatewayClass hkind (s.isClusterScoped_gatewayClass _)
    · rw [← hname]
      exact Graph.named_class_mem_parents_build hg hgref (hname ▸ hne)
    · exact Graph.class_mem_parents_build_iff hg hgref hcref hname hne

end Model

namespace Sample

def classObjects (namespaceName : String) : List Document :=
  [.object [("apiVersion", .string "gateway.networking.k8s.io/v1"), ("kind", .string "GatewayClass"),
      ("metadata", .object [("name", .string "shared"), ("namespace", .string namespaceName)]),
      ("spec", .object [("controllerName", .string "example.com/controller")])],
    .object [("apiVersion", .string "gateway.networking.k8s.io/v1"), ("kind", .string "Gateway"),
      ("metadata", .object [("name", .string "gw"), ("namespace", .string "infra")]),
      ("spec", .object [("gatewayClassName", .string "shared"), ("listeners", .array [])])]]

end Sample

theorem class_is_found :
    let s := Snapshot.ofObjects standardLabelKey (Sample.classObjects "")
    let cls := ObjectRef.ofKind .gatewayClass "" "shared"
    cls ∈ s.stated ∧
      (∀ context, (s.resolver "default").resolve (.ofKind .gatewayClass "shared") context = .ok cls) ∧
      cls ∈ (Model.discover s {}).graph.parents (.ofKind .gateway "infra" "gw") := by
  intro s cls
  have hstated : cls ∈ s.stated := by decide +kernel
  have hclasses : s.gatewayClasses.map (·.ref?) = [some cls] := by decide +kernel
  have hgateways : s.gateways.map (fun g => (g.ref?, g.spec.className)) =
      [(some (.ofKind .gateway "infra" "gw"), "shared")] := by decide +kernel
  have hplace : (s.resolver "default").place cls = cls := by decide +kernel
  obtain ⟨c, hc, hcref⟩ := List.mem_map.mp (hclasses ▸ List.mem_singleton_self (some cls))
  obtain ⟨g, hg, hgref⟩ := List.mem_map.mp (hgateways ▸ List.mem_singleton_self _)
  obtain ⟨hobjects, hclass⟩ := Model.identity_exact s {}
  obtain ⟨-, -, hgateway⟩ := hclass c hc cls hcref (by decide)
  refine ⟨hstated, ?_, ?_⟩
  · rw [← hplace]
    exact (((hobjects cls hstated).2 (by decide)).2 (s.isClusterScoped_gatewayClass _)).mpr
      ⟨by decide, fun _ => rfl⟩
  · rw [← hplace]
    exact (hgateway g hg _ (congrArg Prod.fst hgref) (congrArg Prod.snd hgref)).2.mpr rfl

theorem class_with_namespace_is_not_found :
    let s := Snapshot.ofObjects standardLabelKey (Sample.classObjects "infra")
    let r := s.resolver "default"
    let m := Model.discover s {}
    let cls := ObjectRef.ofKind .gatewayClass "infra" "shared"
    cls ∈ s.stated ∧ r.place cls = cls ∧ m.graph.contains cls = true ∧ r.isClusterScoped cls.groupKind = true ∧
      r.resolve (.ofKind .gatewayClass "shared") cls.namespaceName ≠ .ok cls ∧
      m.graph.parents (.ofKind .gateway "infra" "gw") = [.ofKind .gatewayClass "" "shared"] ∧
      (m.policiesFor? (.ofKind .gatewayClass "" "shared")).map (·.placeholder) = some true := by
  decide +kernel

end PolicyAttachment
