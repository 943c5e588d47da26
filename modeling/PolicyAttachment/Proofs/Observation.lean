import PolicyAttachment.Loader
import PolicyAttachment.Model
import PolicyAttachment.Proofs.Construction

namespace PolicyAttachment

namespace Snapshot

inductive Observes (s : Snapshot) (r : Resolver) : ObjectRef → NodeKind → Option Document → Prop
  | ofNamespace {n : NamespaceObject} {ref : ObjectRef} : n ∈ s.namespaces → n.ref? = some ref →
      Observes s r (r.place ref) .coreNamespace (some n.spec)
  | ofClass {c : GatewayClass} {ref : ObjectRef} : c ∈ s.gatewayClasses → c.ref? = some ref →
      Observes s r (r.place ref) .gatewayClass (some c.spec)
  | ofBackend {o : DynamicObject} {ref : ObjectRef} : o ∈ s.backends → o.ref? = some ref →
      Observes s r (r.place ref) .backend (o.spec.map fun fs => .object fs.entries)
  | ofGateway {g : Gateway} {ref : ObjectRef} : g ∈ s.gateways → g.ref? = some ref →
      Observes s r (r.place ref) .gateway (some g.spec.document)
  | ofRoute {h : HttpRoute} {ref : ObjectRef} : h ∈ s.routes → h.ref? = some ref →
      Observes s r (r.place ref) .httpRoute (some h.spec.document)

variable {s : Snapshot} {r : Resolver} {x : ObjectRef} {kind : NodeKind} {spec : Option Document}

theorem observed_mem_statements_iff :
    .observed x kind spec ∈ s.statements r ↔ s.Observes r x kind spec := by
  simp only [statements, List.mem_append, List.mem_flatMap]
  constructor
  · rintro ((((⟨n, hn, hst⟩ | ⟨c, hc, hst⟩) | ⟨o, ho, hst⟩) | ⟨g, hg, hst⟩) | ⟨h, hh, hst⟩) <;>
      obtain ⟨ref, href, hst⟩ := Statement.mem_about.mp hst
    · cases List.mem_singleton.mp hst
      exact .ofNamespace hn href
    · cases List.mem_singleton.mp hst
      exact .ofClass hc href
    · cases List.mem_singleton.mp hst
      exact .ofBackend ho href
    · obtain ⟨rfl, rfl, rfl⟩ : x = r.place ref ∧ kind = .gateway ∧ spec = some g.spec.document := by
        simpa using hst
      exact .ofGateway hg href
    · obtain ⟨rfl, rfl, rfl⟩ : x = r.place ref ∧ kind = .httpRoute ∧ spec = some h.spec.document := by
        simpa using hst
      exact .ofRoute hh href
  · rintro (⟨hn, href⟩ | ⟨hc, href⟩ | ⟨ho, href⟩ | ⟨hg, href⟩ | ⟨hh, href⟩)
    · exact .inl (.inl (.inl (.inl ⟨_, hn, Statement.mem_about.mpr ⟨_, href, List.mem_cons_self⟩⟩)))
    · exact .inl (.inl (.inl (.inr ⟨_, hc, Statement.mem_about.mpr ⟨_, href, List.mem_cons_self⟩⟩)))
    · exact .inl (.inl (.inr ⟨_, ho, Statement.mem_about.mpr ⟨_, href, List.mem_cons_self⟩⟩))
    · exact .inl (.inr ⟨_, hg, Statement.mem_about.mpr ⟨_, href, List.mem_cons_self⟩⟩)
    · exact .inr ⟨_, hh, Statement.mem_about.mpr ⟨_, href, List.mem_cons_self⟩⟩

theorem mem_observed_iff : x ∈ s.observed r ↔ ∃ kind spec, s.Observes r x kind spec := by
  rw [← Statement.filterMap_observed?, List.mem_filterMap]
  constructor
  · rintro ⟨st, hst, hx⟩
    cases st with
    | observed id kind spec =>
      obtain rfl := Option.some.inj hx
      exact ⟨kind, spec, observed_mem_statements_iff.mp hst⟩
    | childOf child target role | parentOf parent target role => cases hx
  · rintro ⟨kind, spec, h⟩
    exact ⟨_, observed_mem_statements_iff.mpr h, rfl⟩

theorem Observes.exists_bare_backend (h : s.Observes r x kind none) :
    ∃ o ∈ s.backends, ∃ ref, o.ref? = some ref ∧ o.spec = none ∧ r.place ref = x := by
  generalize hspec : (none : Option Document) = spec at h
  cases h with
  | @ofBackend o ref ho href => exact ⟨o, ho, ref, href, Option.map_eq_none_iff.mp hspec.symm, rfl⟩
  | ofNamespace | ofClass | ofGateway | ofRoute => cases hspec

end Snapshot

theorem getLast?_filterMap_cons {α β : Type} (f : α → Option β) (a : α) (as : List α) :
    ((a :: as).filterMap f).getLast? = (as.filterMap f).getLast?.or (f a) := by
  rw [List.getLast?_filterMap, List.reverse_cons, List.findSome?_append, ← List.getLast?_filterMap,
    List.findSome?_singleton]

def Statement.spec? (x : ObjectRef) : Statement → Option Document
  | observed id _ spec => if id = x then spec else none
  | childOf .. | parentOf .. => none

namespace Graph

def spec? (g : Graph) (x : ObjectRef) : Option Document := (g.nodes.get? x).bind (·.spec)

theorem spec?_observe (g : Graph) (id : ObjectRef) (kind : NodeKind) (spec : Option Document)
    (x : ObjectRef) :
    (g.observe id kind spec).spec? x = (if id = x then spec else none).or (g.spec? x) := by
  by_cases h : id = x
  · subst h
    simp [spec?, observe, SortedMap.get?_insert]
  · simp [spec?, observe, SortedMap.get?_insert, h, Ne.symm h]

theorem spec?_mention (g : Graph) (id : ObjectRef) (role : NodeKind) (x : ObjectRef) :
    (g.mention id role).spec? x = g.spec? x := by
  unfold mention
  split
  · rfl
  · rename_i h
    by_cases hx : x = id
    · subst hx
      have hnone : g.nodes.get? x = none := by simpa [contains, SortedMap.contains] using h
      simp [spec?, SortedMap.get?_insert, hnone]
    · simp [spec?, SortedMap.get?_insert, hx]

theorem spec?_link (g : Graph) (p c x : ObjectRef) : (g.link p c).spec? x = g.spec? x := rfl

theorem spec?_record (r : Resolver) (g : Graph) (st : Statement) (x : ObjectRef) :
    (st.record r g).spec? x = (st.spec? x).or (g.spec? x) := by
  cases st with
  | observed id kind spec => exact spec?_observe g id kind spec x
  | childOf child target role =>
    cases h : r.resolve target child.namespaceName with
    | error e => simp [Statement.record, Statement.spec?, h]
    | ok p => simp [Statement.record, Statement.spec?, h, spec?_link, spec?_mention]
  | parentOf parent target role =>
    cases h : r.resolve target parent.namespaceName with
    | error e => simp [Statement.record, Statement.spec?, h]
    | ok c => simp [Statement.record, Statement.spec?, h, spec?_link, spec?_mention]

theorem spec?_foldl (r : Resolver) (g : Graph) (sts : List Statement) (x : ObjectRef) :
    (sts.foldl (Statement.record r) g).spec? x =
      (sts.filterMap (Statement.spec? x)).getLast?.or (g.spec? x) := by
  -- a graph is carried along, as each statement that has a spec takes the place of the one before
  induction sts generalizing g with
  | nil => rfl
  | cons st sts ih =>
    rw [List.foldl_cons, ih, spec?_record, getLast?_filterMap_cons, Option.or_assoc]

theorem spec?_foldl_mention (g : Graph) (f : ObjectRef → ObjectRef) (role : NodeKind)
    (ids : List ObjectRef) (x : ObjectRef) :
    (ids.foldl (fun h id => h.mention (f id) role) g).spec? x = g.spec? x := by
  induction ids generalizing g with
  | nil => rfl
  | cons id ids ih => rw [List.foldl_cons, ih, spec?_mention]

theorem spec?_build (s : Snapshot) (r : Resolver) (namespaceNodes : Bool) (x : ObjectRef) :
    (build s r namespaceNodes).spec? x = ((s.statements r).filterMap (Statement.spec? x)).getLast? := by
  have hrecorded : ((s.statements r).foldl (Statement.record r) empty).spec? x =
      ((s.statements r).filterMap (Statement.spec? x)).getLast? := by
    rw [spec?_foldl]
    exact Option.or_none
  unfold build
  split
  · exact (spec?_foldl_mention _ (fun id => .ofNamespace id.namespaceName) _ _ x).trans hrecorded
  · exact hrecorded

theorem spec?_build_eq_none_iff {s : Snapshot} {r : Resolver} {namespaceNodes : Bool} {x : ObjectRef} :
    (build s r namespaceNodes).spec? x = none ↔ ∀ kind spec, ¬ s.Observes r x kind (some spec) := by
  rw [spec?_build, List.getLast?_eq_none_iff, List.filterMap_eq_nil_iff]
  constructor
  · intro h kind spec hobs
    have hnone := h _ (Snapshot.observed_mem_statements_iff.mpr hobs)
    simp [Statement.spec?] at hnone
  · intro h st hst
    cases st with
    | childOf child target role | parentOf parent target role => rfl
    | observed id kind spec =>
      by_cases hid : id = x
      · subst hid
        cases spec with
        | none => simp [Statement.spec?]
        | some spec => exact absurd (Snapshot.observed_mem_statements_iff.mp hst) (h kind spec)
      · simp [Statement.spec?, hid]

end Graph

namespace View

variable {v : View} {id : ObjectRef} {n : NodePolicies}

theorem policiesFor?_eq_some_iff :
    v.policiesFor? id = some n ↔ ∃ node, v.graph.nodes.get? id = some node ∧ v.record id node = n :=
  Option.map_eq_some_iff

theorem mem_records_iff : n ∈ v.records ↔ v.policiesFor? n.resource = some n := by
  rw [policiesFor?_eq_some_iff, records, List.mem_map]
  constructor
  · rintro ⟨⟨id, node⟩, he, rfl⟩
    exact ⟨node, SortedMap.get?_eq_some_iff.mpr he, rfl⟩
  · rintro ⟨node, hnode, hn⟩
    exact ⟨(n.resource, node), SortedMap.get?_eq_some_iff.mp hnode, hn⟩

theorem resource_of_policiesFor? {id : ObjectRef} (h : v.policiesFor? id = some n) : n.resource = id := by
  obtain ⟨node, _, rfl⟩ := policiesFor?_eq_some_iff.mp h
  rfl

theorem exists_policiesFor? (h : v.graph.contains id = true) : ∃ n, v.policiesFor? id = some n := by
  obtain ⟨node, hnode⟩ := Option.isSome_iff_exists.mp h
  exact ⟨_, policiesFor?_eq_some_iff.mpr ⟨node, hnode, rfl⟩⟩

theorem placeholder_iff (h : v.policiesFor? id = some n) :
    n.placeholder = true ↔ v.graph.spec? id = none := by
  obtain ⟨node, hnode, rfl⟩ := policiesFor?_eq_some_iff.mp h
  simp [record, Node.isPlaceholder, Graph.spec?, hnode]

end View

namespace Model

theorem placeholder_exact (s : Snapshot) (config : Config) :
    let m := discover s config
    let r := s.resolver config.defaultNamespace
    (∀ id, m.graph.contains id = true → ∃ n, m.policiesFor? id = some n ∧
      (n.placeholder = true ↔ ∀ kind spec, ¬ s.Observes r id kind (some spec))) ∧
    ((∀ id n, m.policiesFor? id = some n → (n.placeholder = true ↔ id ∉ s.observed r)) ↔
      ∀ o ∈ s.backends, ∀ ref, o.ref? = some ref → o.spec = none →
        ∃ kind spec, s.Observes r (r.place ref) kind (some spec)) := by
  intro m r
  have hflag : ∀ {id n}, m.policiesFor? id = some n →
      (n.placeholder = true ↔ ∀ kind spec, ¬ s.Observes r id kind (some spec)) :=
    fun h => (View.placeholder_iff h).trans Graph.spec?_build_eq_none_iff
  refine ⟨?_, ?_, ?_⟩
  · intro id hid
    obtain ⟨n, hn⟩ := View.exists_policiesFor? (v := m.view) hid
    exact ⟨n, hn, hflag hn⟩
  · intro hclaim o ho ref href hbare
    have hobserved : r.place ref ∈ s.observed r := Snapshot.mem_observed_iff.mpr ⟨_, _, .ofBackend ho href⟩
    have hcontains : m.graph.contains (r.place ref) = true :=
      Graph.contains_build_of_observed hobserved
    obtain ⟨n, hn⟩ := View.exists_policiesFor? (v := m.view) hcontains
    have hshown : ¬ n.placeholder = true := fun h => (hclaim _ n hn).mp h hobserved
    simpa using mt (hflag hn).mpr hshown
  · intro hbare id n hn
    rw [hflag hn, Snapshot.mem_observed_iff]
    constructor
    · rintro hnone ⟨kind, spec, hobs⟩
      cases spec with
      | some spec => exact hnone kind spec hobs
      | none =>
        obtain ⟨o, ho, ref, href, hspec, rfl⟩ := hobs.exists_bare_backend
        obtain ⟨kind', spec', hobs'⟩ := hbare o ho ref href hspec
        exact hnone kind' spec' hobs'
    · intro hnever kind spec hobs
      exact hnever ⟨kind, some spec, hobs⟩

end Model

namespace Sample

def bareService : Document :=
  .object [("apiVersion", .string "v1"), ("kind", .string "Service"),
    ("metadata", .object [("name", .string "web"), ("namespace", .string "default")])]

end Sample

theorem bare_service_is_placeholder :
    let s := Snapshot.ofObjects standardLabelKey [Sample.bareService]
    let id := ObjectRef.ofKind .service "default" "web"
    id ∈ s.observed (s.resolver "default") ∧
      ((Model.discover s {}).policiesFor? id).map (·.placeholder) = some true := by
  decide +kernel

end PolicyAttachment
