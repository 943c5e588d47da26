import Mathlib.Data.List.Nodup
import PolicyAttachment.Proofs.Links
import PolicyAttachment.Proofs.Resolution
import PolicyAttachment.Proofs.StatedFields

/-!
The graph of a snapshot in terms of its objects and of the references that they make. Whatever is
observed or lies at an end of a link is a node, the links are the references that name something, and
each other reference is reported once.
-/

namespace PolicyAttachment

def Gateway.references (r : Resolver) (g : Gateway) : List (ObjectRef × Reference) :=
  match g.metadata.name with
  | some name => [(⟨gatewayGroup, "Gateway", g.metadata.home r .gateway, name⟩, .ofKind .gatewayClass g.spec.className)]
  | none => []

def HttpRoute.references (r : Resolver) (h : HttpRoute) : List (ObjectRef × Reference) :=
  match h.metadata.name with
  | some name =>
    let backends := h.spec.rules.flatMap fun rule =>
      rule.backends.map (·.reference) ++ rule.filters.filterMap (·.mirror)
    (h.spec.parents.map (Reference.completedAs .gateway) ++ backends.map (Reference.completedAs .service)).map
      fun target => (⟨gatewayGroup, "HTTPRoute", h.metadata.home r .httpRoute, name⟩, target)
  | none => []

namespace Snapshot

def observed (s : Snapshot) (r : Resolver) : List ObjectRef :=
  s.namespaces.filterMap (fun o => o.ref?.map r.place) ++
    s.gatewayClasses.filterMap (fun o => o.ref?.map r.place) ++
    s.backends.filterMap (fun o => o.ref?.map r.place) ++
    s.gateways.filterMap (fun o => o.ref?.map r.place) ++
    s.routes.filterMap fun o => o.ref?.map r.place

def references (s : Snapshot) (r : Resolver) : List (ObjectRef × Reference) :=
  s.gateways.flatMap (Gateway.references r) ++ s.routes.flatMap (HttpRoute.references r)

inductive Shows (s : Snapshot) (r : Resolver) (x : ObjectRef) : Prop
  | coreNamespace {n : NamespaceObject} : n ∈ s.namespaces → n.metadata.Names r .coreNamespace x → Shows s r x
  | gatewayClass {c : GatewayClass} : c ∈ s.gatewayClasses → c.metadata.Names r .gatewayClass x → Shows s r x
  | backend {o : DynamicObject} {k : GroupKind} : o ∈ s.backends → o.Names r k x → Shows s r x
  | gateway {g : Gateway} : g ∈ s.gateways → g.metadata.Names r .gateway x → Shows s r x
  | route {h : HttpRoute} : h ∈ s.routes → h.metadata.Names r .httpRoute x → Shows s r x

/-- A named object makes the first resource the parent of the second. -/
inductive Relates (s : Snapshot) (r : Resolver) : ObjectRef → ObjectRef → Prop
  | ofClass {g : Gateway} {id cls : ObjectRef} : g ∈ s.gateways → g.metadata.Names r .gateway id →
      g.spec.className ≠ "" →
        r.resolve (.ofKind .gatewayClass g.spec.className) id.namespaceName = .ok cls → Relates s r cls id
  | toParent {h : HttpRoute} {id p : ObjectRef} {target : Reference} : h ∈ s.routes →
      h.metadata.Names r .httpRoute id → target ∈ h.spec.parents → target.name.getD "" ≠ "" →
        r.resolve (target.completedAs .gateway) id.namespaceName = .ok p → Relates s r p id
  | toBackend {h : HttpRoute} {id b : ObjectRef} {target : Reference} : h ∈ s.routes →
      h.metadata.Names r .httpRoute id → h.spec.RefersTo target → target.name.getD "" ≠ "" →
        r.resolve (target.completedAs .service) id.namespaceName = .ok b → Relates s r id b

/-- The snapshot shows the resource, or one of its references leads from or to it. -/
def Tells (s : Snapshot) (r : Resolver) (x : ObjectRef) : Prop :=
  s.Shows r x ∨ ∃ y, s.Relates r x y ∨ s.Relates r y x

theorem mem_observed_iff_shows {s : Snapshot} {r : Resolver} {x : ObjectRef} :
    x ∈ s.observed r ↔ s.Shows r x := by
  have hbackend : ∀ o : DynamicObject, o.ref?.map r.place = some x ↔ ∃ k, o.Names r k x := by
    intro o
    simp only [DynamicObject.names_iff, Option.map_eq_some_iff]
    constructor
    · rintro ⟨ref, href, hx⟩
      exact ⟨_, ref, href, rfl, hx⟩
    · rintro ⟨_, ref, href, _, hx⟩
      exact ⟨ref, href, hx⟩
  simp only [observed, List.mem_append, List.mem_filterMap, hbackend]
  constructor
  · rintro ((((⟨n, hn, h⟩ | ⟨c, hc, h⟩) | ⟨o, ho, k, h⟩) | ⟨g, hg, h⟩) | ⟨route, hroute, h⟩)
    · exact .coreNamespace hn (Metadata.names_iff.mpr h)
    · exact .gatewayClass hc (Metadata.names_iff.mpr h)
    · exact .backend ho h
    · exact .gateway hg (Metadata.names_iff.mpr h)
    · exact .route hroute (Metadata.names_iff.mpr h)
  · rintro (⟨hn, h⟩ | ⟨hc, h⟩ | ⟨ho, h⟩ | ⟨hg, h⟩ | ⟨hroute, h⟩)
    · exact .inl (.inl (.inl (.inl ⟨_, hn, Metadata.names_iff.mp h⟩)))
    · exact .inl (.inl (.inl (.inr ⟨_, hc, Metadata.names_iff.mp h⟩)))
    · exact .inl (.inl (.inr ⟨_, ho, _, h⟩))
    · exact .inl (.inr ⟨_, hg, Metadata.names_iff.mp h⟩)
    · exact .inr ⟨_, hroute, Metadata.names_iff.mp h⟩

end Snapshot

namespace Statement

variable {s : Snapshot} {r : Resolver} {id : ObjectRef} {target : Reference} {role : NodeKind} {l : Link}

def observed? : Statement → Option ObjectRef
  | observed id _ _ => some id
  | childOf .. | parentOf .. => none

def reference? : Statement → Option (ObjectRef × Reference)
  | observed .. => none
  | childOf id target _ | parentOf id target _ => some (id, target)

theorem mem_about {ref? : Option ObjectRef} {say : ObjectRef → List Statement} {st : Statement} :
    st ∈ about r ref? say ↔ ∃ ref, ref? = some ref ∧ st ∈ say (r.place ref) := by
  cases ref? <;> simp [about]

theorem about_eq (r : Resolver) (ref? : Option ObjectRef) (say : ObjectRef → List Statement) :
    about r ref? say = match ref?.map r.place with
      | some id => say id
      | none => [] := by
  cases ref? <;> rfl

theorem mem_about_iff_names {m : Metadata} {k : GroupKind} {say : ObjectRef → List Statement} {st : Statement} :
    st ∈ about r (m.ref? k) say ↔ ∃ id, m.Names r k id ∧ st ∈ say id := by
  simp only [Metadata.names_iff, about_eq]
  cases (m.ref? k).map r.place <;> simp

theorem filterMap_observed?_about (ref? : Option ObjectRef) {say : ObjectRef → List Statement}
    (h : ∀ id, (say id).filterMap observed? = [id]) :
    (about r ref? say).filterMap observed? = (ref?.map r.place).toList := by
  cases ref? with
  | none => rfl
  | some ref => exact h (r.place ref)

theorem filterMap_observed? (s : Snapshot) (r : Resolver) :
    (s.statements r).filterMap observed? = s.observed r := by
  have hnamespace : ∀ n, (ofNamespace r n).filterMap observed? = (n.ref?.map r.place).toList :=
    fun n => filterMap_observed?_about n.ref? fun _ => rfl
  have hclass : ∀ c, (ofGatewayClass r c).filterMap observed? = (c.ref?.map r.place).toList :=
    fun c => filterMap_observed?_about c.ref? fun _ => rfl
  have hbackend : ∀ o, (ofBackend r o).filterMap observed? = (o.ref?.map r.place).toList :=
    fun o => filterMap_observed?_about o.ref? fun _ => rfl
  have hgateway : ∀ g, (ofGateway r g).filterMap observed? = (g.ref?.map r.place).toList :=
    fun g => filterMap_observed?_about g.ref? fun _ => rfl
  have hroute : ∀ h, (ofRoute r h).filterMap observed? = (h.ref?.map r.place).toList :=
    fun h => filterMap_observed?_about h.ref? fun _ => by simp [observed?, List.filterMap_eq_nil_iff]
  simp only [Snapshot.statements, Snapshot.observed, List.filterMap_append, List.filterMap_flatMap,
    hnamespace, hclass, hbackend, hgateway, hroute, ← List.filterMap_eq_flatMap_toList]

theorem filterMap_statements_of_observed {β : Type} {f : Statement → Option β}
    (h : ∀ id kind spec, f (observed id kind spec) = none) (s : Snapshot) (r : Resolver) :
    (s.statements r).filterMap f = s.gateways.flatMap (fun g => (ofGateway r g).filterMap f) ++
      s.routes.flatMap fun route => (ofRoute r route).filterMap f := by
  have hnamespace : ∀ n, (ofNamespace r n).filterMap f = [] := by
    intro n
    unfold ofNamespace
    cases n.ref? <;> simp [about, h]
  have hclass : ∀ c, (ofGatewayClass r c).filterMap f = [] := by
    intro c
    unfold ofGatewayClass
    cases c.ref? <;> simp [about, h]
  have hbackend : ∀ o, (ofBackend r o).filterMap f = [] := by
    intro o
    unfold ofBackend
    cases o.ref? <;> simp [about, h]
  have hnil : ∀ {α : Type} (os : List α), (os.flatMap fun _ => ([] : List β)) = [] :=
    fun os => List.flatMap_eq_nil_iff.mpr fun _ _ => rfl
  simp only [Snapshot.statements, List.filterMap_append, List.filterMap_flatMap, hnamespace, hclass, hbackend, hnil,
    List.nil_append]

theorem filterMap_reference? (s : Snapshot) (r : Resolver) :
    (s.statements r).filterMap reference? = s.references r := by
  have hgateway : ∀ g, (ofGateway r g).filterMap reference? = g.references r := by
    intro g
    rw [ofGateway, about_eq, Gateway.references, Gateway.ref?, Metadata.map_place_ref?]
    cases g.metadata.name <;> rfl
  have hroute : ∀ h, (ofRoute r h).filterMap reference? = h.references r := by
    intro h
    rw [ofRoute, about_eq, HttpRoute.references, HttpRoute.ref?, Metadata.map_place_ref?]
    cases h.metadata.name with
    | none => rfl
    | some name =>
      rw [RouteSpec.parentRefs_eq, RouteSpec.backendRefs_eq_map]
      simp [List.filterMap_cons, reference?, List.filterMap_map, Function.comp_def, ObjectRef.ofKind,
        GroupKind.httpRoute]
  rw [filterMap_statements_of_observed fun _ _ _ => rfl]
  simp only [Snapshot.references, hgateway, hroute]

theorem toOption_resolve_eq_some_iff {context : String} {o : ObjectRef} :
    (r.resolve target context).toOption = some o ↔ r.resolve target context = .ok o := by
  cases r.resolve target context <;> simp [Except.toOption]

theorem link?_childOf_eq_some_iff : (childOf id target role).link? r = some l ↔
    r.resolve target id.namespaceName = .ok l.parent ∧ id = l.child := by
  rw [link?, Option.map_eq_some_iff]
  constructor
  · rintro ⟨p, hp, rfl⟩
    exact ⟨toOption_resolve_eq_some_iff.mp hp, rfl⟩
  · rintro ⟨hp, rfl⟩
    exact ⟨l.parent, toOption_resolve_eq_some_iff.mpr hp, rfl⟩

theorem link?_parentOf_eq_some_iff : (parentOf id target role).link? r = some l ↔
    id = l.parent ∧ r.resolve target id.namespaceName = .ok l.child := by
  rw [link?, Option.map_eq_some_iff]
  constructor
  · rintro ⟨c, hc, rfl⟩
    exact ⟨rfl, toOption_resolve_eq_some_iff.mp hc⟩
  · rintro ⟨rfl, hc⟩
    exact ⟨l.child, toOption_resolve_eq_some_iff.mpr hc, rfl⟩

theorem exists_link?_of_relates {p c : ObjectRef} (h : s.Relates r p c) :
    ∃ st ∈ s.statements r, st.link? r = some ⟨p, c⟩ := by
  simp only [Snapshot.statements, List.mem_append, List.mem_flatMap]
  cases h with
  | @ofClass g _ _ hg hid _ hcls =>
    have hst : childOf c g.spec.classRef .gatewayClass ∈ ofGateway r g :=
      mem_about_iff_names.mpr ⟨c, hid, List.mem_cons_of_mem _ List.mem_cons_self⟩
    exact ⟨_, .inl (.inr ⟨g, hg, hst⟩), link?_childOf_eq_some_iff.mpr ⟨hcls, rfl⟩⟩
  | @toParent h _ _ target hh hid htarget _ hp =>
    have hmem : target.completedAs .gateway ∈ h.spec.parentRefs :=
      RouteSpec.mem_parentRefs_iff.mpr ⟨target, htarget, rfl⟩
    have hst : childOf c (target.completedAs .gateway) .gateway ∈ ofRoute r h :=
      mem_about_iff_names.mpr
        ⟨c, hid, List.mem_cons_of_mem _ (List.mem_append_left _ (List.mem_map_of_mem hmem))⟩
    exact ⟨_, .inr ⟨h, hh, hst⟩, link?_childOf_eq_some_iff.mpr ⟨hp, rfl⟩⟩
  | @toBackend h _ _ target hh hid htarget _ hb =>
    have hmem : target.completedAs .service ∈ h.spec.backendRefs :=
      RouteSpec.mem_backendRefs_iff.mpr ⟨target, htarget, rfl⟩
    have hst : parentOf p (target.completedAs .service) .backend ∈ ofRoute r h :=
      mem_about_iff_names.mpr
        ⟨p, hid, List.mem_cons_of_mem _ (List.mem_append_right _ (List.mem_map_of_mem hmem))⟩
    exact ⟨_, .inr ⟨h, hh, hst⟩, link?_parentOf_eq_some_iff.mpr ⟨rfl, hb⟩⟩

theorem relates_of_link? {st : Statement} (hst : st ∈ s.statements r) (hl : st.link? r = some l) :
    s.Relates r l.parent l.child := by
  have hname : ∀ {target context o}, r.resolve target context = .ok o → target.name.getD "" ≠ "" :=
    fun h => Resolver.exists_resolve_eq_ok_iff.mp ⟨_, h⟩
  simp only [Snapshot.statements, List.mem_append, List.mem_flatMap] at hst
  rcases hst with (((⟨o, _, hst⟩ | ⟨o, _, hst⟩) | ⟨o, _, hst⟩) | ⟨g, hg, hst⟩) | ⟨h, hh, hst⟩
  iterate 3
    obtain ⟨ref, _, hst⟩ := mem_about.mp hst
    obtain rfl := List.mem_singleton.mp hst
    cases hl
  · obtain ⟨id, hid, hst⟩ := mem_about_iff_names.mp hst
    simp only [List.mem_cons, List.not_mem_nil, or_false] at hst
    rcases hst with rfl | rfl
    · cases hl
    · obtain ⟨hcls, rfl⟩ := link?_childOf_eq_some_iff.mp hl
      exact .ofClass hg hid (hname hcls) hcls
  · obtain ⟨id, hid, hst⟩ := mem_about_iff_names.mp hst
    simp only [List.mem_cons, List.mem_append, List.mem_map] at hst
    rcases hst with rfl | ⟨_, hmem, rfl⟩ | ⟨_, hmem, rfl⟩
    · cases hl
    · obtain ⟨hp, rfl⟩ := link?_childOf_eq_some_iff.mp hl
      obtain ⟨target, htarget, rfl⟩ := RouteSpec.mem_parentRefs_iff.mp hmem
      have hnamed := hname hp
      exact .toParent hh hid htarget hnamed hp
    · obtain ⟨rfl, hb⟩ := link?_parentOf_eq_some_iff.mp hl
      obtain ⟨target, htarget, rfl⟩ := RouteSpec.mem_backendRefs_iff.mp hmem
      have hnamed := hname hb
      exact .toBackend hh hid htarget hnamed hb

theorem observed_or_link?_of_node? {st : Statement} {x : ObjectRef} (h : st.node? r = some x) :
    st.observed? = some x ∨ ∃ l, st.link? r = some l ∧ (l.parent = x ∨ l.child = x) := by
  cases st with
  | observed id kind spec => exact .inl h
  | childOf c target role =>
    simp only [node?] at h
    exact .inr ⟨⟨x, c⟩, by rw [link?, h, Option.map_some], .inl rfl⟩
  | parentOf p target role =>
    simp only [node?] at h
    exact .inr ⟨⟨p, x⟩, by rw [link?, h, Option.map_some], .inr rfl⟩

theorem node?_of_observed? {st : Statement} {x : ObjectRef} (h : st.observed? = some x) :
    st.node? r = some x := by
  cases st with
  | observed id kind spec => exact h
  | childOf c target role | parentOf p target role => cases h

theorem exists_node?_of_relates {p c : ObjectRef} (h : s.Relates r p c) :
    (∃ st ∈ s.statements r, st.node? r = some p) ∧ ∃ st ∈ s.statements r, st.node? r = some c := by
  obtain ⟨st, hst, hl⟩ := exists_link?_of_relates h
  obtain ⟨kind, spec, hobs⟩ := grounded_statements s r st hst
  rcases node?_of_link? hl with ⟨hp, hc⟩ | ⟨hc, hp⟩
  · exact ⟨⟨_, hobs, congrArg some hp.symm⟩, ⟨st, hst, hc⟩⟩
  · exact ⟨⟨st, hst, hp⟩, ⟨_, hobs, congrArg some hc.symm⟩⟩

theorem exists_node?_iff {x : ObjectRef} :
    (∃ st ∈ s.statements r, st.node? r = some x) ↔ s.Tells r x := by
  rw [Snapshot.Tells, ← Snapshot.mem_observed_iff_shows, ← filterMap_observed?, List.mem_filterMap]
  constructor
  · rintro ⟨st, hst, hx⟩
    rcases observed_or_link?_of_node? hx with hobs | ⟨l, hl, rfl | rfl⟩
    · exact .inl ⟨st, hst, hobs⟩
    · exact .inr ⟨l.child, .inl (relates_of_link? hst hl)⟩
    · exact .inr ⟨l.parent, .inr (relates_of_link? hst hl)⟩
  · rintro (⟨st, hst, hx⟩ | ⟨y, hxy | hyx⟩)
    · exact ⟨st, hst, node?_of_observed? hx⟩
    · exact (exists_node?_of_relates hxy).1
    · exact (exists_node?_of_relates hyx).2

def report? (e : ObjectRef × Reference) : Option Diagnostic :=
  if e.2.name.getD "" = "" then some ⟨e.1, .missingName e.2.groupKind⟩ else none

theorem problem?_eq_bind (r : Resolver) (st : Statement) : st.problem? r = st.reference?.bind report? := by
  cases st with
  | observed id kind spec => rfl
  | childOf id target role | parentOf id target role =>
    rw [reference?, Option.bind_some, problem?]
    by_cases hname : target.name.getD "" = ""
    · have hresolve : r.resolve target id.namespaceName = .error (.missingName target.groupKind) :=
        Resolver.resolve_eq_error_iff.mpr ⟨hname, rfl⟩
      simp only [hresolve, report?, if_pos hname]
    · obtain ⟨o, ho⟩ : ∃ o, r.resolve target id.namespaceName = .ok o :=
        Resolver.exists_resolve_eq_ok_iff.mpr hname
      simp only [ho, report?, if_neg hname]

end Statement

namespace Graph

variable {s : Snapshot} {r : Resolver} {namespaceNodes : Bool}

theorem mem_parents_build_iff {p c : ObjectRef} :
    p ∈ (build s r namespaceNodes).parents c ↔ s.Relates r p c := by
  rw [mem_parents_iff, mem_links_build]
  constructor
  · rintro ⟨st, hst, hl⟩
    exact Statement.relates_of_link? hst hl
  · exact Statement.exists_link?_of_relates

theorem mem_children_iff {g : Graph} {p c : ObjectRef} : c ∈ g.children p ↔ ⟨p, c⟩ ∈ g.links.keys := by
  simp only [children, List.mem_map, List.mem_filter, decide_eq_true_eq]
  constructor
  · rintro ⟨l, ⟨hl, rfl⟩, rfl⟩
    exact hl
  · intro h
    exact ⟨⟨p, c⟩, ⟨h, rfl⟩, rfl⟩

theorem mem_children_iff_mem_parents {g : Graph} {p c : ObjectRef} : c ∈ g.children p ↔ p ∈ g.parents c := by
  rw [mem_children_iff, mem_parents_iff]

theorem pairwise_map_filter_links (g : Graph) {here : Link → Bool} {other : Link → ObjectRef}
    (h : ∀ l l', here l = true → here l' = true → compare l l' = compare (other l) (other l')) :
    ((g.links.keys.filter here).map other).Pairwise fun p q => compare p q = .lt := by
  apply List.pairwise_map.mpr
  refine (g.links.pairwise_keys.filter _).imp_of_mem ?_
  intro l l' hl hl' hlt
  rwa [← h l l' (List.mem_filter.mp hl).2 (List.mem_filter.mp hl').2]

theorem compare_link (p p' c c' : ObjectRef) :
    compare (⟨p, c⟩ : Link) ⟨p', c'⟩ = (compare p p').then (compare c c') := rfl

theorem pairwise_parents (g : Graph) (c : ObjectRef) :
    (g.parents c).Pairwise fun p q => compare p q = .lt := by
  apply pairwise_map_filter_links
  rintro ⟨p, c₁⟩ ⟨p', c₂⟩ hc hc'
  obtain rfl : c₁ = c := of_decide_eq_true hc
  obtain rfl : c₂ = c₁ := of_decide_eq_true hc'
  simp [compare_link]

theorem pairwise_children (g : Graph) (p : ObjectRef) :
    (g.children p).Pairwise fun c d => compare c d = .lt := by
  apply pairwise_map_filter_links
  rintro ⟨p₁, c⟩ ⟨p₂, c'⟩ hp hp'
  obtain rfl : p₁ = p := of_decide_eq_true hp
  obtain rfl : p₂ = p₁ := of_decide_eq_true hp'
  simp [compare_link]

theorem nodup_parents (g : Graph) (c : ObjectRef) : (g.parents c).Nodup :=
  SortedMap.nodup_of_pairwise_lt (g.pairwise_parents c)

theorem nodup_children (g : Graph) (p : ObjectRef) : (g.children p).Nodup :=
  SortedMap.nodup_of_pairwise_lt (g.pairwise_children p)

theorem contains_build_iff {x : ObjectRef} : (build s r namespaceNodes).contains x = true ↔
    s.Tells r x ∨ namespaceNodes = true ∧
      ∃ y, s.Tells r y ∧ y.namespaceName ≠ "" ∧ ObjectRef.ofNamespace y.namespaceName = x := by
  have hrecorded : ∀ y, y ∈ ((s.statements r).foldl (Statement.record r) empty).ids ↔ s.Tells r y := by
    intro y
    rw [Statement.mem_ids_foldl, Statement.exists_node?_iff]
    simp [empty, ids]
  rw [contains_iff_mem_ids]
  unfold build
  split
  · rename_i hns
    rw [withNamespaces, mem_ids_foldl_mention fun id => .ofNamespace id.namespaceName]
    simp [hrecorded, hns, ObjectRef.isClusterScoped, and_assoc]
  · rename_i hns
    simp [hrecorded, hns]

theorem contains_build_of_observed {x : ObjectRef} (h : x ∈ s.observed r) :
    (build s r namespaceNodes).contains x = true :=
  contains_build_iff.mpr (.inl (.inl (Snapshot.mem_observed_iff_shows.mp h)))

theorem problems_eq (s : Snapshot) (r : Resolver) : problems s r =
    ((s.references r).filter fun e => e.2.name.getD "" = "").map fun e =>
      ⟨e.1, .missingName e.2.groupKind⟩ := by
  have hbind : problems s r = (s.references r).filterMap Statement.report? := by
    rw [← Statement.filterMap_reference?, List.filterMap_filterMap]
    exact congrArg (List.filterMap · _) (funext (Statement.problem?_eq_bind r))
  rw [hbind, ← List.filterMap_eq_map, List.filterMap_filter]
  simp only [decide_eq_true_eq]
  rfl

end Graph

end PolicyAttachment
