import PolicyAttachment.Proofs.Identity

/-!
The backends of a route. A resource that was observed is a node of the kind that it is; one that references only
name is a node of the kind that the first of them takes it for. So a backend that some route names as its parent
before any names it as a backend is not among the backends of the routes that name it.
-/

namespace PolicyAttachment

def GroupKind.wellKnown : List GroupKind := [.gatewayClass, .gateway, .httpRoute, .coreNamespace]

theorem NodeKind.infer_eq_backend_iff {k : GroupKind} {role : NodeKind} :
    infer k role = backend ↔ k ∉ GroupKind.wellKnown ∧ role = backend := by
  unfold infer
  split_ifs <;> simp_all [GroupKind.wellKnown]

theorem NodeKind.infer_of_not_mem {k : GroupKind} (h : k ∉ GroupKind.wellKnown) (role : NodeKind) :
    infer k role = role := by
  unfold infer
  split_ifs <;> simp_all [GroupKind.wellKnown]

namespace HttpRoute

def NamesParent (r : Resolver) (h : HttpRoute) (x : ObjectRef) : Prop :=
  ∃ own ∈ h.ref?, ∃ t ∈ h.spec.parentRefs, r.resolve t (r.place own).namespaceName = .ok x

def NamesBackend (r : Resolver) (h : HttpRoute) (x : ObjectRef) : Prop :=
  ∃ own ∈ h.ref?, ∃ t ∈ h.spec.backendRefs, r.resolve t (r.place own).namespaceName = .ok x

instance (r : Resolver) (h : HttpRoute) (x : ObjectRef) : Decidable (h.NamesParent r x) :=
  inferInstanceAs (Decidable (∃ own ∈ h.ref?, ∃ t ∈ h.spec.parentRefs,
    r.resolve t (r.place own).namespaceName = .ok x))

instance (r : Resolver) (h : HttpRoute) (x : ObjectRef) : Decidable (h.NamesBackend r x) :=
  inferInstanceAs (Decidable (∃ own ∈ h.ref?, ∃ t ∈ h.spec.backendRefs,
    r.resolve t (r.place own).namespaceName = .ok x))

end HttpRoute

namespace Snapshot

def NamesBackend (s : Snapshot) (r : Resolver) (x b : ObjectRef) : Prop :=
  ∃ h ∈ s.routes, h.ref?.map r.place = some x ∧ h.NamesBackend r b

instance (s : Snapshot) (r : Resolver) (x b : ObjectRef) : Decidable (s.NamesBackend r x b) :=
  inferInstanceAs (Decidable (∃ h ∈ s.routes, h.ref?.map r.place = some x ∧ h.NamesBackend r b))

/-- The first route that names the resource at all names it as a backend and not as a parent. -/
def FirstNamedAsBackend (s : Snapshot) (r : Resolver) (b : ObjectRef) : Prop :=
  ∃ before h after, s.routes = before ++ h :: after ∧ (h.NamesBackend r b ∧ ¬ h.NamesParent r b) ∧
    ∀ h' ∈ before, ¬ h'.NamesBackend r b ∧ ¬ h'.NamesParent r b

theorem kind_of_observes {labelKey : String} {ds : List Document} {r : Resolver} {x : ObjectRef}
    {kind : NodeKind} {spec : Option Document} (h : (ofObjects labelKey ds).Observes r x kind spec) :
    kind = .infer x.groupKind .backend := by
  cases h with
  | ofNamespace _ href | ofClass _ href | ofGateway _ href | ofRoute _ href =>
    rw [groupKind_place, Metadata.groupKind_of_ref? href]
    rfl
  | ofBackend ho href =>
    obtain ⟨k, he, _, _⟩ := mem_backends_ofEntries_iff.mp ho
    obtain ⟨d, _, hd⟩ := List.mem_map.mp he
    obtain ⟨_, htyped, _⟩ := Entry.ofDocument_eq_other_iff.mp hd
    have hk : k = _ := Option.some.inj
      ((Entry.reads_iff.mpr hd).kind_eq.symm.trans (DynamicObject.kind_of_ref? href))
    obtain ⟨hclass, hgateway, hroute, hnamespace, _⟩ := GroupKind.not_mem_typed.mp htyped
    rw [groupKind_place, ← hk, NodeKind.infer, if_neg hclass, if_neg hgateway, if_neg hroute, if_neg hnamespace]

end Snapshot

namespace Statement

def observedKind? (x : ObjectRef) : Statement → Option NodeKind
  | observed id kind _ => if id = x then some kind else none
  | childOf .. | parentOf .. => none

def mentionedKind? (r : Resolver) (x : ObjectRef) : Statement → Option NodeKind
  | observed .. => none
  | childOf id target role | parentOf id target role =>
    if r.resolve target id.namespaceName = .ok x then some (.infer x.groupKind role) else none

end Statement

theorem head?_filterMap_cons {α β : Type} (f : α → Option β) (a : α) (as : List α) :
    ((a :: as).filterMap f).head? = (f a).or (as.filterMap f).head? := by
  rw [List.filterMap_cons]
  cases f a <;> rfl

namespace Graph

def kind? (g : Graph) (x : ObjectRef) : Option NodeKind := (g.nodes.get? x).map (·.kind)

theorem kind?_observe (g : Graph) (id : ObjectRef) (kind : NodeKind) (spec : Option Document) (x : ObjectRef) :
    (g.observe id kind spec).kind? x = (if id = x then some kind else none).or (g.kind? x) := by
  by_cases h : id = x
  · subst h
    simp [kind?, observe, SortedMap.get?_insert]
  · simp [kind?, observe, SortedMap.get?_insert, h, Ne.symm h]

theorem kind?_mention (g : Graph) (id : ObjectRef) (role : NodeKind) (x : ObjectRef) :
    (g.mention id role).kind? x =
      (g.kind? x).or (if id = x then some (.infer x.groupKind role) else none) := by
  rw [kind?, get?_nodes_mention, Option.map_or, kind?]
  by_cases h : id = x
  · subst h
    simp
  · simp [h]

theorem kind?_record (r : Resolver) (g : Graph) (st : Statement) (x : ObjectRef) :
    (st.record r g).kind? x = (st.observedKind? x).or ((g.kind? x).or (st.mentionedKind? r x)) := by
  cases st with
  | observed id kind spec =>
    rw [Statement.record, kind?_observe, Statement.mentionedKind?, Option.or_none]
    rfl
  | childOf id target role =>
    cases h : r.resolve target id.namespaceName with
    | error e => simp [Statement.record, Statement.observedKind?, Statement.mentionedKind?, h]
    | ok p =>
      simp only [Statement.record, Statement.observedKind?, Statement.mentionedKind?, h, Option.none_or,
        Except.ok.injEq]
      exact kind?_mention g p role x
  | parentOf id target role =>
    cases h : r.resolve target id.namespaceName with
    | error e => simp [Statement.record, Statement.observedKind?, Statement.mentionedKind?, h]
    | ok c =>
      simp only [Statement.record, Statement.observedKind?, Statement.mentionedKind?, h, Option.none_or,
        Except.ok.injEq]
      exact kind?_mention g c role x

theorem kind?_foldl (r : Resolver) (g : Graph) (sts : List Statement) (x : ObjectRef) :
    (sts.foldl (Statement.record r) g).kind? x = (sts.filterMap (Statement.observedKind? x)).getLast?.or
      ((g.kind? x).or (sts.filterMap (Statement.mentionedKind? r x)).head?) := by
  induction sts generalizing g with
  | nil => simp
  | cons st sts ih =>
    rw [List.foldl_cons, ih, kind?_record, getLast?_filterMap_cons, head?_filterMap_cons]
    simp only [Option.or_assoc]

theorem kind?_build {s : Snapshot} {r : Resolver} {x : ObjectRef} (namespaceNodes : Bool)
    (h : ∃ st ∈ s.statements r, st.node? r = some x) : (build s r namespaceNodes).kind? x =
      ((s.statements r).filterMap (Statement.observedKind? x)).getLast?.or
        ((s.statements r).filterMap (Statement.mentionedKind? r x)).head? := by
  have hrecorded : ((s.statements r).foldl (Statement.record r) empty).kind? x =
      ((s.statements r).filterMap (Statement.observedKind? x)).getLast?.or
        ((s.statements r).filterMap (Statement.mentionedKind? r x)).head? := by
    rw [kind?_foldl]
    rfl
  unfold build
  split
  · -- namespaces are added to what is there, and the resource is there already
    obtain ⟨node, hnode⟩ : ∃ node, ((s.statements r).foldl (Statement.record r) empty).nodes.get? x = some node := by
      apply Option.isSome_iff_exists.mp
      exact contains_iff_mem_ids.mpr (Statement.mem_ids_foldl.mpr (.inr h))
    rw [← hrecorded, kind?, kind?, withNamespaces,
      get?_nodes_foldl_mention _ (fun id => .ofNamespace id.namespaceName), hnode, Option.some_or]
  · exact hrecorded

end Graph

section

variable {s : Snapshot} {r : Resolver} {x : ObjectRef}

theorem Statement.mem_filterMap_observedKind?_iff {kind : NodeKind} :
    kind ∈ (s.statements r).filterMap (observedKind? x) ↔ ∃ spec, s.Observes r x kind spec := by
  simp only [List.mem_filterMap, ← Snapshot.observed_mem_statements_iff]
  constructor
  · rintro ⟨st, hst, hkind⟩
    cases st with
    | observed id kind' spec =>
      obtain ⟨rfl, rfl⟩ : id = x ∧ kind' = kind := by simpa [observedKind?] using hkind
      exact ⟨spec, hst⟩
    | childOf child target role | parentOf parent target role => cases hkind
  · rintro ⟨spec, hst⟩
    exact ⟨_, hst, if_pos rfl⟩

theorem Statement.getLast?_observedKind?_eq_none_iff :
    ((s.statements r).filterMap (observedKind? x)).getLast? = none ↔ x ∉ s.observed r := by
  rw [List.getLast?_eq_none_iff, List.eq_nil_iff_forall_not_mem, Snapshot.mem_observed_iff, not_exists]
  exact forall_congr' fun kind => not_congr mem_filterMap_observedKind?_iff

theorem Statement.getLast?_observedKind?_of_loaded {labelKey : String} {ds : List Document}
    (h : x ∈ (Snapshot.ofObjects labelKey ds).observed r) :
    (((Snapshot.ofObjects labelKey ds).statements r).filterMap (observedKind? x)).getLast? =
      some (.infer x.groupKind .backend) := by
  obtain ⟨kind, hkind⟩ := Option.ne_none_iff_exists'.mp (mt getLast?_observedKind?_eq_none_iff.mp (not_not_intro h))
  obtain ⟨spec, hobs⟩ := mem_filterMap_observedKind?_iff.mp (List.mem_of_getLast? hkind)
  rw [hkind, Snapshot.kind_of_observes hobs]

theorem findSome?_ite_some {α β : Type} (p : α → Prop) [DecidablePred p] (b : β) (as : List α) :
    (as.findSome? fun a => if p a then some b else none) = if ∃ a ∈ as, p a then some b else none := by
  induction as with
  | nil => rfl
  | cons a as ih =>
    rw [List.findSome?_cons, ih]
    by_cases ha : p a <;> simp [ha]

theorem Statement.head?_mentionedKind?_ofRoute (h : HttpRoute) (hx : x.groupKind ∉ GroupKind.wellKnown) :
    ((ofRoute r h).filterMap (mentionedKind? r x)).head? =
      if h.NamesParent r x then some .gateway else if h.NamesBackend r x then some .backend else none := by
  have hnames : ∀ (ts : List Reference) (ref : ObjectRef) (role : NodeKind),
      (ts.findSome? fun t => if r.resolve t (r.place ref).namespaceName = .ok x then
        some (NodeKind.infer x.groupKind role) else none) =
      if ∃ t ∈ ts, r.resolve t (r.place ref).namespaceName = .ok x then some role else none := by
    intro ts ref role
    rw [findSome?_ite_some, NodeKind.infer_of_not_mem hx]
  cases href : h.ref? with
  | none => simp [ofRoute, about, HttpRoute.NamesParent, HttpRoute.NamesBackend, href]
  | some ref =>
    have hparent : h.NamesParent r x ↔ ∃ t ∈ h.spec.parentRefs, r.resolve t (r.place ref).namespaceName = .ok x := by
      simp [HttpRoute.NamesParent, href]
    have hbackend : h.NamesBackend r x ↔
        ∃ t ∈ h.spec.backendRefs, r.resolve t (r.place ref).namespaceName = .ok x := by
      simp [HttpRoute.NamesBackend, href]
    have hmentions : ((ofRoute r h).filterMap (mentionedKind? r x)).head? =
        (h.spec.parentRefs.findSome? fun t => if r.resolve t (r.place ref).namespaceName = .ok x then
          some (NodeKind.infer x.groupKind .gateway) else none).or
        (h.spec.backendRefs.findSome? fun t => if r.resolve t (r.place ref).namespaceName = .ok x then
          some (NodeKind.infer x.groupKind .backend) else none) := by
      rw [List.head?_filterMap, ofRoute, href, about, List.findSome?_cons, List.findSome?_append,
        List.findSome?_map, List.findSome?_map]
      rfl
    rw [hmentions, hnames, hnames]
    simp only [← hparent, ← hbackend]
    split <;> rfl

theorem Statement.filterMap_mentionedKind?_statements (hx : x.groupKind ∉ GroupKind.wellKnown) :
    (s.statements r).filterMap (mentionedKind? r x) =
      s.routes.flatMap fun h => (ofRoute r h).filterMap (mentionedKind? r x) := by
  have hclassRef : ∀ (g : Gateway) (context : String), r.resolve g.spec.classRef context ≠ .ok x := by
    intro g context hcls
    apply hx
    rw [Resolver.groupKind_of_resolve hcls, GatewaySpec.classRef,
      Reference.groupKind_ofKind_eq_iff.mpr (by decide)]
    decide
  have hgateway : ∀ g, (ofGateway r g).filterMap (mentionedKind? r x) = [] := by
    intro g
    unfold ofGateway
    cases g.ref? with
    | none => rfl
    | some ref => simp [about, mentionedKind?, hclassRef]
  rw [filterMap_statements_of_observed fun _ _ _ => rfl]
  apply List.append_left_eq_self.mpr
  exact List.flatMap_eq_nil_iff.mpr fun g _ => hgateway g

theorem Statement.head?_mentionedKind?_eq_backend_iff (hx : x.groupKind ∉ GroupKind.wellKnown) :
    ((s.statements r).filterMap (mentionedKind? r x)).head? = some .backend ↔ s.FirstNamedAsBackend r x := by
  rw [filterMap_mentionedKind?_statements hx, List.head?_flatMap, List.findSome?_eq_some_iff]
  have hroute : ∀ h : HttpRoute, ((ofRoute r h).filterMap (mentionedKind? r x)).head? = some .backend ↔
      h.NamesBackend r x ∧ ¬ h.NamesParent r x := by
    intro h
    rw [head?_mentionedKind?_ofRoute h hx]
    split_ifs <;> simp_all
  have hsilent : ∀ h : HttpRoute, ((ofRoute r h).filterMap (mentionedKind? r x)).head? = none ↔
      ¬ h.NamesBackend r x ∧ ¬ h.NamesParent r x := by
    intro h
    rw [head?_mentionedKind?_ofRoute h hx]
    split_ifs <;> simp_all
  simp only [hroute, hsilent, Snapshot.FirstNamedAsBackend]

theorem Statement.exists_infer_of_head?_mentionedKind? {sts : List Statement} {kind : NodeKind}
    (h : (sts.filterMap (mentionedKind? r x)).head? = some kind) : ∃ role, .infer x.groupKind role = kind := by
  obtain ⟨st, _, hkind⟩ := List.mem_filterMap.mp (List.mem_of_head? h)
  cases st with
  | observed id kind spec => cases hkind
  | childOf id target role | parentOf id target role =>
    rw [mentionedKind?] at hkind
    split at hkind
    · exact ⟨role, Option.some.inj hkind⟩
    · cases hkind

theorem Snapshot.firstNamedAsBackend_of_forall (hnever : ∀ h ∈ s.routes, ¬ h.NamesParent r x) {h : HttpRoute}
    (hh : h ∈ s.routes) (hnames : h.NamesBackend r x) : s.FirstNamedAsBackend r x := by
  have hsome : (s.routes.find? fun h => h.NamesBackend r x).isSome = true :=
    List.find?_isSome.mpr ⟨h, hh, decide_eq_true hnames⟩
  obtain ⟨first, hfirst⟩ := Option.isSome_iff_exists.mp hsome
  obtain ⟨hfirst, before, after, hroutes, hbefore⟩ := List.find?_eq_some_iff_append.mp hfirst
  have hmem : ∀ h' ∈ before ++ first :: after, ¬ h'.NamesParent r x := hroutes ▸ hnever
  refine ⟨before, first, after, hroutes, ⟨of_decide_eq_true hfirst, hmem _ (by simp)⟩, fun h' hh' => ⟨?_, ?_⟩⟩
  · simpa using hbefore h' hh'
  · exact hmem h' (List.mem_append_left _ hh')

end

namespace Graph

variable {labelKey : String} {ds : List Document} {r : Resolver} {namespaceNodes : Bool} {x b : ObjectRef}

theorem kind?_build_eq_backend_iff
    (hnode : ∃ st ∈ (Snapshot.ofObjects labelKey ds).statements r, st.node? r = some b) :
    (build (Snapshot.ofObjects labelKey ds) r namespaceNodes).kind? b = some .backend ↔
      b.groupKind ∉ GroupKind.wellKnown ∧ (b ∈ (Snapshot.ofObjects labelKey ds).observed r ∨
        (Snapshot.ofObjects labelKey ds).FirstNamedAsBackend r b) := by
  rw [kind?_build namespaceNodes hnode]
  by_cases hobserved : b ∈ (Snapshot.ofObjects labelKey ds).observed r
  · rw [Statement.getLast?_observedKind?_of_loaded hobserved, Option.some_or, Option.some.injEq,
      NodeKind.infer_eq_backend_iff]
    simp [hobserved]
  · rw [Statement.getLast?_observedKind?_eq_none_iff.mpr hobserved, Option.none_or]
    constructor
    · intro hfirst
      obtain ⟨role, hrole⟩ := Statement.exists_infer_of_head?_mentionedKind? hfirst
      have hkind := (NodeKind.infer_eq_backend_iff.mp hrole).1
      exact ⟨hkind, .inr ((Statement.head?_mentionedKind?_eq_backend_iff hkind).mp hfirst)⟩
    · rintro ⟨hkind, hfirst⟩
      exact (Statement.head?_mentionedKind?_eq_backend_iff hkind).mpr (hfirst.resolve_left hobserved)

theorem mem_backendsOf_build_iff : b ∈ (build (Snapshot.ofObjects labelKey ds) r namespaceNodes).backendsOf x ↔
    (Snapshot.ofObjects labelKey ds).NamesBackend r x b ∧ b.groupKind ∉ GroupKind.wellKnown ∧
      (b ∈ (Snapshot.ofObjects labelKey ds).observed r ∨
        (Snapshot.ofObjects labelKey ds).FirstNamedAsBackend r b) := by
  have hchild : ∀ {c}, c ∈ (build (Snapshot.ofObjects labelKey ds) r namespaceNodes).children x ↔
      (Snapshot.ofObjects labelKey ds).Relates r x c := by
    intro c
    rw [mem_children_iff_mem_parents, mem_parents_build_iff]
  rw [backendsOf, List.mem_filter, decide_eq_true_eq, hchild]
  constructor
  · rintro ⟨hrelates, hkind⟩
    obtain ⟨hunknown, hfirst⟩ := (kind?_build_eq_backend_iff (Statement.exists_node?_of_relates hrelates).2).mp hkind
    refine ⟨?_, hunknown, hfirst⟩
    -- gateways and routes are children as well, but of kinds that are well known
    cases hrelates with
    | ofClass _ hid _ _ | toParent _ hid _ _ _ =>
      rw [hid.groupKind_eq] at hunknown
      exact absurd hunknown (by decide)
    | toBackend hh hid htarget _ hb =>
      obtain ⟨own, href, rfl⟩ := Metadata.names_iff_exists.mp hid
      exact ⟨_, hh, Metadata.names_iff.mp hid, own, href, _, RouteSpec.mem_backendRefs_iff.mpr ⟨_, htarget, rfl⟩, hb⟩
  · rintro ⟨⟨h, hh, hown, own, href, target, htarget, hb⟩, hunknown, hfirst⟩
    obtain rfl : r.place own = x := by simpa [show h.ref? = some own from href] using hown
    obtain ⟨u, hu, rfl⟩ := RouteSpec.mem_backendRefs_iff.mp htarget
    have hnamed := Resolver.exists_resolve_eq_ok_iff.mp ⟨b, hb⟩
    have hrelates : (Snapshot.ofObjects labelKey ds).Relates r (r.place own) b :=
      .toBackend hh (Metadata.names_iff_exists.mpr ⟨own, href, rfl⟩) hu hnamed hb
    exact ⟨hrelates,
      (kind?_build_eq_backend_iff (Statement.exists_node?_of_relates hrelates).2).mpr ⟨hunknown, hfirst⟩⟩

end Graph

namespace Model

theorem backendsOf_exact (ds : List Document) (config : Config) :
    let s := Snapshot.ofObjects config.policyLabelKey ds
    let r := s.resolver config.defaultNamespace
    let m := discover s config
    ∀ x, (m.graph.backendsOf x).Nodup ∧
      (∀ b, b ∈ m.graph.backendsOf x ↔ s.NamesBackend r x b ∧ b.groupKind ∉ GroupKind.wellKnown ∧
        (b ∈ s.observed r ∨ s.FirstNamedAsBackend r b)) ∧
      ∀ b, s.NamesBackend r x b → b.groupKind ∉ GroupKind.wellKnown → b ∉ m.graph.backendsOf x →
        b ∉ s.observed r ∧ ∃ h ∈ s.routes, h.NamesParent r b := by
  intro s r m x
  have hiff : ∀ b, b ∈ m.graph.backendsOf x ↔ s.NamesBackend r x b ∧ b.groupKind ∉ GroupKind.wellKnown ∧
      (b ∈ s.observed r ∨ s.FirstNamedAsBackend r b) := fun b => Graph.mem_backendsOf_build_iff
  refine ⟨(m.graph.nodup_children x).filter _, hiff, fun b hnames hunknown hlost => ?_⟩
  have hlost' : ¬ (b ∈ s.observed r ∨ s.FirstNamedAsBackend r b) := fun h => hlost ((hiff b).mpr ⟨hnames, hunknown, h⟩)
  refine ⟨fun h => hlost' (.inl h), ?_⟩
  by_contra hnever
  simp only [not_exists, not_and] at hnever
  obtain ⟨h, hh, _, hbackend⟩ := hnames
  exact hlost' (.inr (Snapshot.firstNamedAsBackend_of_forall hnever hh hbackend))

end Model

namespace Sample

def sharedServiceObjects : List Document :=
  [.object [("apiVersion", .string "gateway.networking.k8s.io/v1"), ("kind", .string "HTTPRoute"),
      ("metadata", .object [("name", .string "a"), ("namespace", .string "default")]),
      ("spec", .object [("parentRefs", .array [.object
        [("group", .string ""), ("kind", .string "Service"), ("name", .string "web")]])])],
    .object [("apiVersion", .string "gateway.networking.k8s.io/v1"), ("kind", .string "HTTPRoute"),
      ("metadata", .object [("name", .string "b"), ("namespace", .string "default")]),
      ("spec", .object [("rules", .array [.object [("backendRefs", .array [.object [("name", .string "web")]])]])])]]

end Sample

theorem parent_is_missed_as_backend :
    let s := Snapshot.ofObjects standardLabelKey Sample.sharedServiceObjects
    let s' := Snapshot.ofObjects standardLabelKey Sample.sharedServiceObjects.reverse
    let x := ObjectRef.ofKind .httpRoute "default" "b"
    let web := ObjectRef.ofKind .service "default" "web"
    s.NamesBackend (s.resolver "default") x web ∧ web.groupKind ∉ GroupKind.wellKnown ∧
      (Model.discover s {}).graph.backendsOf x = [] ∧
      s'.routes = s.routes.reverse ∧ (Model.discover s' {}).graph.backendsOf x = [web] := by
  decide +kernel

end PolicyAttachment
