import PolicyAttachment.Proofs.PolicyKinds
import PolicyAttachment.Proofs.Replacement
import PolicyAttachment.Proofs.Unnaming

/-!
What it costs a gateway or a route that some of its references have no name. The object is read all the same, each
such reference is reported, and no link is lost but those that the references would have made.
-/

namespace PolicyAttachment

def Problem.isMalformedReference : Problem → Bool
  | missingName _ | missingReference _ => true
  | _ => false

def Model.malformedReferences (m : Model) : List Diagnostic :=
  m.diagnostics.filter fun x => x.problem.isMalformedReference

namespace Binding

theorem filter_problem?_toTarget (g g' : Graph) (r : Resolver) (o : DynamicObject) (k : GroupKind)
    (c : Classification) (id : ObjectRef) :
    (toTarget g r o k c id).problem?.filter (fun x => x.problem.isMalformedReference) =
      (toTarget g' r o k c id).problem?.filter fun x => x.problem.isMalformedReference := by
  cases htarget : o.targetRef? with
  | none => simp only [toTarget, htarget]
  | some target =>
    cases hn : r.resolve target id.namespaceName with
    | error e => simp only [toTarget, htarget, hn]
    | ok n =>
      -- whether the target is there decides if there is a problem, but not one that is a malformed reference
      have hnone : ∀ g : Graph,
          (toTarget g r o k c id).problem?.filter (fun x => x.problem.isMalformedReference) = none := by
        intro g
        simp only [toTarget, htarget, hn]
        split_ifs
        · cases PolicyBody.ofSpec? (o.spec.getD .empty) c <;> rfl
        · rfl
      rw [hnone, hnone]

theorem filter_problem?_ofObject (g g' : Graph) (ds : Descriptors) (r : Resolver) (o : DynamicObject) :
    (ofObject g ds r o).problem?.filter (fun x => x.problem.isMalformedReference) =
      (ofObject g' ds r o).problem?.filter fun x => x.problem.isMalformedReference := by
  cases href : o.ref? with
  | none => simp only [ofObject, href]
  | some ref =>
    cases hk : ds.get? ref.groupKind with
    | none => simp only [ofObject, href, hk]
    | some c =>
      cases c with
      | unknown => simp only [ofObject, href, hk]
      | direct | inherited =>
        simp only [ofObject, href, hk]
        exact filter_problem?_toTarget g g' r o _ _ _

end Binding

namespace Attachments

variable {ds : Descriptors} {r : Resolver} {ps : List DynamicObject}

theorem filter_problems (g g' : Graph) (ds : Descriptors) (r : Resolver) (ps : List DynamicObject) :
    (problems (bindings g ds r ps)).filter (fun x => x.problem.isMalformedReference) =
      (problems (bindings g' ds r ps)).filter fun x => x.problem.isMalformedReference := by
  simp only [problems, bindings, List.filterMap_map, List.filter_filterMap, Function.comp_def,
    Binding.filter_problem?_ofObject g g']

theorem exists_of_mem_problems {g : Graph} {x : Diagnostic} (h : x ∈ problems (bindings g ds r ps)) :
    ∃ o ∈ ps, o.kind = some x.resource.groupKind := by
  simp only [problems, bindings, List.filterMap_map, List.mem_filterMap, Function.comp_apply,
    Binding.problem?_eq_some_iff] at h
  obtain ⟨o, ho, hrefused⟩ := h
  refine ⟨o, ho, ?_⟩
  rcases Binding.ofObject_spec g ds r o with ⟨hignored, _⟩ | ⟨k, id, _, hnames, _, _, ⟨p, hp⟩ | ⟨e, he, _⟩⟩
  · rw [hignored] at hrefused
    cases hrefused
  · rw [hp] at hrefused
    cases hrefused
  · rw [he] at hrefused
    cases hrefused
    obtain ⟨ref, href, rfl, rfl⟩ := DynamicObject.names_iff.mp hnames
    rw [groupKind_place, DynamicObject.kind_of_ref? href]

end Attachments

namespace Snapshot

variable {labelKey : String} {docs : List Document}

theorem kind_not_mem_typed_of_mem_policies {o : DynamicObject} {k : GroupKind}
    (h : o ∈ (ofObjects labelKey docs).policies) (hk : o.kind = some k) : k ∉ GroupKind.typed := by
  obtain ⟨d, _, k', hread, _⟩ := mem_policies_iff.mp h
  obtain rfl : k' = k := Option.some.inj (hread.kind_eq.symm.trans hk)
  cases hread with
  | other _ htyped _ => exact htyped

end Snapshot

namespace Model

theorem malformedReferences_eq (config : Config) (docs : List Document) (g : Graph) :
    let s := Snapshot.ofObjects config.policyLabelKey docs
    let r := s.resolver config.defaultNamespace
    (discover s config).malformedReferences = Graph.problems s r ++
      (Attachments.problems (Attachments.bindings g (.ofDefinitions config.policyLabelKey s.definitions) r
        s.policies)).filter fun x => x.problem.isMalformedReference := by
  intro s r
  have hrejected : s.rejected.filter (fun x => x.problem.isMalformedReference) = [] := by
    apply List.filter_eq_nil_iff.mpr
    intro x hx
    obtain ⟨reason, hreason⟩ := Snapshot.exists_invalidObject_of_mem_rejected hx
    simp [hreason, Problem.isMalformedReference]
  have hdefinitions : (Descriptors.problems config.policyLabelKey s.definitions).filter
      (fun x => x.problem.isMalformedReference) = [] := by
    rw [Descriptors.problems_eq, List.filter_map]
    simp [Function.comp_def, KindDefinition.misunderstood, Problem.isMalformedReference]
  have hgraph : (Graph.problems s r).filter (fun x => x.problem.isMalformedReference) = Graph.problems s r := by
    rw [Graph.problems_eq, List.filter_map]
    simp [Function.comp_def, Problem.isMalformedReference]
  have hcycles : ∀ ids : List ObjectRef, (ids.map fun id => (⟨id, .ancestorCycle id⟩ : Diagnostic)).filter
      (fun x => x.problem.isMalformedReference) = [] := by
    simp [Problem.isMalformedReference]
  simp only [malformedReferences, discover, List.filter_append]
  rw [hrejected, hdefinitions, hgraph, hcycles, List.nil_append, List.append_nil, List.nil_append,
    Attachments.filter_problems _ g]

end Model

namespace Reference

def isNameless (t : Reference) : Bool := t.name.getD "" = ""

theorem resolve_named (r : Resolver) (t : Reference) (context : String) :
    r.resolve t.named context = r.resolve t context := rfl

theorem exists_mem_map_named {ts : List Reference} {r : Resolver} {context : String} {o : ObjectRef} :
    (∃ t ∈ ts.map named, r.resolve t context = .ok o) ↔ ∃ t ∈ ts, r.resolve t context = .ok o := by
  simp [resolve_named]

theorem filter_isNameless_named (ts : List Reference) :
    ((ts.map named).filter isNameless).map groupKind = (ts.filter isNameless).map groupKind := by
  rw [List.filter_map, List.map_map]
  rfl

end Reference

namespace Entry

variable {d d' : Document} {k : GroupKind}

theorem exists_ofDocument_eq {α : Type} {f : α → Entry} {x : Except ReadError α} (hkind : d.groupKind? = some k)
    (hread : readAs k (d.withReferenceNames k) = f <$> x) (haccepted : (ofDocument d).rejected? = none) :
    ∃ a, x = .ok a ∧ ofDocument d = f a := by
  cases x with
  | ok a => exact ⟨a, rfl, ofDocument_of_readAs (Document.states_iff.mpr hkind) hread⟩
  | error e =>
    rw [ofDocument, hkind] at haccepted
    simp only [hread] at haccepted
    cases haccepted

/-- The object that is read without some names is the one that was read with them, its references aside. -/
structure Follows (labelKey : String) (k : GroupKind) (d' : Document) (e e' : Entry) : Prop where
  kind : d'.groupKind? = some k
  accepted : e'.rejected? = none
  ref? : e'.ref? = e.ref?
  parents : d'.parents k = e'.parents.map Reference.named
  backends : d'.backends k = e'.backends.map Reference.named
  replaces : ∀ es es', Snapshot.Replaces e e' (.ofEntries labelKey (es ++ e :: es'))
    (.ofEntries labelKey (es ++ e' :: es'))

theorem follows_of_unnames (labelKey : String) (hk : k = .gateway ∨ k = .httpRoute) (hkind : d.groupKind? = some k)
    (haccepted : (ofDocument d).rejected? = none) (hd : d.Unnames k d') :
    Follows labelKey k d' (ofDocument d) (ofDocument d') := by
  have hkind' : d'.groupKind? = some k := (Document.AtReferences.groupKind?_eq hd).symm.trans hkind
  rcases hk with rfl | rfl
  · have hread : readAs .gateway (d.withReferenceNames .gateway) =
        gateway <$> Gateway.read (d.withReferenceNames .gateway) := rfl
    obtain ⟨g, hg, he⟩ := exists_ofDocument_eq hkind hread haccepted
    obtain ⟨g', hg', hmetadata⟩ := Gateway.exists_read_of_unnames hd hg
    rw [he, ofDocument_of_readAs (Document.states_iff.mpr hkind') (congrArg (gateway <$> ·) hg')]
    exact
      { kind := hkind'
        accepted := rfl
        ref? := by rw [Entry.ref?, Entry.ref?, Gateway.ref?, Gateway.ref?, hmetadata]
        parents := by
          rw [← Document.parents_withReferenceNames, Gateway.parents_of_read hg']
          rfl
        backends := rfl
        replaces := fun es es' => Snapshot.replaces_gateway labelKey es es' g g' }
  · have hread : readAs .httpRoute (d.withReferenceNames .httpRoute) =
        route <$> HttpRoute.read (d.withReferenceNames .httpRoute) := rfl
    obtain ⟨h, hh, he⟩ := exists_ofDocument_eq hkind hread haccepted
    obtain ⟨h', hh', hmetadata⟩ := HttpRoute.exists_read_of_unnames hd hh
    rw [he, ofDocument_of_readAs (Document.states_iff.mpr hkind') (congrArg (route <$> ·) hh')]
    have hbackends := (HttpRoute.references_of_read hh).2
    have hbackends' := (HttpRoute.references_of_read hh').2
    rw [Document.backends_withReferenceNames] at hbackends hbackends'
    have hkinds : h.spec.backendRefs.map Snapshot.statedKind = h'.spec.backendRefs.map Snapshot.statedKind := by
      have hstated := hd.map_statedKind_backends
      rw [hbackends, hbackends', List.map_map, List.map_map] at hstated
      exact hstated
    exact
      { kind := hkind'
        accepted := rfl
        ref? := by rw [Entry.ref?, Entry.ref?, HttpRoute.ref?, HttpRoute.ref?, hmetadata]
        parents := by rw [← Document.parents_withReferenceNames, (HttpRoute.references_of_read hh').1]; rfl
        backends := hbackends'
        replaces := fun es es' => Snapshot.replaces_route labelKey es es' hkinds }

theorem groupKind_mem_typed {e : Entry} {r : Resolver} {id : ObjectRef} (h : e.ref?.map r.place = some id) :
    id.groupKind ∈ GroupKind.typed := by
  obtain ⟨ref, href, rfl⟩ := Option.map_eq_some_iff.mp h
  rw [groupKind_place]
  cases e with
  | gateway g =>
    rw [Metadata.groupKind_of_ref? (show g.metadata.ref? .gateway = some ref from href)]
    decide
  | route route =>
    rw [Metadata.groupKind_of_ref? (show route.metadata.ref? .httpRoute = some ref from href)]
    decide
  | untyped | gatewayClass _ | coreNamespace _ | definition _ | other _ _ | rejected _ => cases href

end Entry

theorem Graph.filter_problems (s : Snapshot) (r : Resolver) (here : ObjectRef → Bool) :
    (problems s r).filter (fun x => here x.resource) =
      (((s.references r).filter fun a => here a.1).filter fun a => a.2.isNameless).map fun a =>
        ⟨a.1, .missingName a.2.groupKind⟩ := by
  rw [problems_eq, List.filter_map, List.filter_comm]
  rfl

theorem Graph.mem_parents_build_iff_links {s : Snapshot} {r : Resolver} {namespaceNodes : Bool}
    {p c : ObjectRef} : p ∈ (build s r namespaceNodes).parents c ↔ ∃ x, s.Links r x p c := by
  simp [mem_parents_iff, mem_links_build, Snapshot.Links]

theorem Snapshot.Replaces.filter_problems {e e' : Entry} {s s' : Snapshot} {r : Resolver} {id : ObjectRef}
    (h : Replaces e e' s s') (hid : e.ref?.map r.place = some id) (hid' : e'.ref?.map r.place = some id)
    (hcount : (s.observed r).count id = 1) :
    (Graph.problems s' r).filter (fun x => x.resource = id) =
        (((e'.parents ++ e'.backends).filter Reference.isNameless).map Reference.groupKind).map (fun k =>
          ⟨id, .missingName k⟩) ∧
      (Graph.problems s' r).filter (fun x => x.resource ≠ id) =
        (Graph.problems s r).filter fun x => x.resource ≠ id := by
  obtain ⟨hown, hothers⟩ := h.references_eq hid hid' hcount
  constructor
  · rw [Graph.filter_problems s' r fun x => x = id, hown, List.filter_map, List.map_map, List.map_map]
    rfl
  · rw [Graph.filter_problems s' r fun x => x ≠ id, Graph.filter_problems s r fun x => x ≠ id, hothers]

theorem Model.nameless_references_exact (config : Config) {before after : List Document} {d d' : Document}
    {k : GroupKind} (hk : k = .gateway ∨ k = .httpRoute) (hkind : d.groupKind? = some k)
    (haccepted : (Entry.ofDocument d).rejected? = none) (hd : d.Unnames k d') :
    let s := Snapshot.ofObjects config.policyLabelKey (before ++ d :: after)
    let s' := Snapshot.ofObjects config.policyLabelKey (before ++ d' :: after)
    let r := s.resolver config.defaultNamespace
    let m := discover s config
    let m' := discover s' config
    d'.groupKind? = some k ∧ (Entry.ofDocument d').rejected? = none ∧
      (Entry.ofDocument d').ref? = (Entry.ofDocument d).ref? ∧ s'.rejected = s.rejected ∧
      List.Forall₂ Reference.MayLoseName (d.parents k) (d'.parents k) ∧
      List.Forall₂ Reference.MayLoseName (d.backends k) (d'.backends k) ∧
      ∀ id, (Entry.ofDocument d).ref?.map r.place = some id → (s.observed r).count id = 1 →
        (∀ p c, p ∈ m.graph.parents c ↔ ∃ x, s.Links r x p c) ∧
        (∀ p c, p ∈ m'.graph.parents c ↔ ∃ x, s'.Links r x p c) ∧
        (∀ x p c, x ≠ id → (s'.Links r x p c ↔ s.Links r x p c)) ∧
        (∀ p c, s'.Links r id p c ↔
          (c = id ∧ ∃ t ∈ d'.parents k, r.resolve t id.namespaceName = .ok p) ∨
            p = id ∧ ∃ t ∈ d'.backends k, r.resolve t id.namespaceName = .ok c) ∧
        (∀ t : Reference, (∃ o, r.resolve t id.namespaceName = .ok o) ↔ ¬ t.isNameless = true) ∧
        m'.malformedReferences.filter (fun x => x.resource = id) =
          ((d'.parents k ++ d'.backends k).filter Reference.isNameless).map (fun t =>
            ⟨id, .missingName t.groupKind⟩) ∧
        m'.malformedReferences.filter (fun x => x.resource ≠ id) =
          m.malformedReferences.filter fun x => x.resource ≠ id := by
  intro s s' r m m'
  have hfollows := Entry.follows_of_unnames config.policyLabelKey hk hkind haccepted hd
  have hreplaces : Snapshot.Replaces (Entry.ofDocument d) (Entry.ofDocument d') s s' := by
    simpa only [s, s', Snapshot.ofObjects, List.map_append, List.map_cons] using
      hfollows.replaces (before.map Entry.ofDocument) (after.map Entry.ofDocument)
  have hr : s'.resolver config.defaultNamespace = r := by
    rw [Snapshot.resolver, ← hreplaces.definitions]
    rfl
  refine ⟨hfollows.kind, hfollows.accepted, hfollows.ref?, hreplaces.rejected.symm,
    Document.AtReferences.forall₂_parents hd Document.references_mayLoseName,
    Document.AtReferences.forall₂_backends hd Document.references_mayLoseName, fun id hid hcount => ?_⟩
  have hid' : (Entry.ofDocument d').ref?.map r.place = some id := by
    rw [hfollows.ref?]
    exact hid
  obtain ⟨hown, hothers⟩ := hreplaces.filter_problems hid hid' hcount
  -- the policies report the same malformed references, none of them as a gateway or a route
  obtain ⟨policies, hm, hm', hpolicies⟩ : ∃ policies : List Diagnostic,
      m.malformedReferences = Graph.problems s r ++ policies ∧
        m'.malformedReferences = Graph.problems s' r ++ policies ∧ ∀ x ∈ policies, x.resource ≠ id := by
    refine ⟨_, malformedReferences_eq config _ m.graph, ?_, ?_⟩
    · rw [malformedReferences_eq config _ m.graph, hr, hreplaces.definitions, hreplaces.policies]
    · rintro x hx rfl
      obtain ⟨o, ho, hkind⟩ := Attachments.exists_of_mem_problems (List.mem_filter.mp hx).1
      exact Snapshot.kind_not_mem_typed_of_mem_policies ho hkind (Entry.groupKind_mem_typed hid)
  refine ⟨fun p c => Graph.mem_parents_build_iff_links, ?_, fun x p c hx => hreplaces.links_iff_of_ne hid hid' hcount hx,
    ?_, ?_, ?_, ?_⟩
  · intro p c
    change p ∈ (Graph.build s' (s'.resolver config.defaultNamespace) config.namespaceAncestors).parents c ↔ _
    rw [hr]
    exact Graph.mem_parents_build_iff_links
  · intro p c
    rw [hreplaces.links_iff hid hid' hcount, hfollows.parents, hfollows.backends, Reference.exists_mem_map_named,
      Reference.exists_mem_map_named]
  · intro t
    rw [Resolver.exists_resolve_eq_ok_iff]
    simp [Reference.isNameless]
  · have hnone : policies.filter (fun x => x.resource = id) = [] :=
      List.filter_eq_nil_iff.mpr fun x hx => by simpa using hpolicies x hx
    rw [hm', List.filter_append, hown, hnone, List.append_nil, hfollows.parents, hfollows.backends,
      ← List.map_append, ← Reference.filter_isNameless_named, List.map_map]
    rfl
  · rw [hm', hm, List.filter_append, List.filter_append, hothers]

namespace Sample

def referenceTo (name : String) : Document := .object [("name", .string name)]

def routeBetween (parents backends : List Document) : Document :=
  .object [("apiVersion", .string "gateway.networking.k8s.io/v1"), ("kind", .string "HTTPRoute"),
    ("metadata", .object [("name", .string "r"), ("namespace", .string "default")]),
    ("spec", .object [("parentRefs", .array parents),
      ("rules", .array [.object [("backendRefs", .array backends)]])])]

def namedRoute : Document :=
  routeBetween [referenceTo "front", referenceTo "edge"] [referenceTo "shadow", referenceTo "web"]

def partlyNamedRoute : Document :=
  routeBetween [referenceTo "front", .object []] [.object [], referenceTo "web"]

theorem unnames_partlyNamedRoute : namedRoute.Unnames .httpRoute partlyNamedRoute := by
  have hrule : Document.AtRule (fun v v' => v' = v ∨ v' = v.without "name")
      (.object [("backendRefs", .array [referenceTo "shadow", referenceTo "web"])])
      (.object [("backendRefs", .array [.object [], referenceTo "web"])]) :=
    .changed (.cons ⟨rfl, .changed (.cons (.inr (by decide +kernel)) (.cons (.inl rfl) .nil))⟩ .nil)
  have hspec : Document.AtRouteSpec (fun v v' => v' = v ∨ v' = v.without "name")
      (.object [("parentRefs", .array [referenceTo "front", referenceTo "edge"]),
        ("rules", .array [.object [("backendRefs", .array [referenceTo "shadow", referenceTo "web"])]])])
      (.object [("parentRefs", .array [referenceTo "front", .object []]),
        ("rules", .array [.object [("backendRefs", .array [.object [], referenceTo "web"])]])]) :=
    .changed (.cons ⟨rfl, .changed (.cons (.inl rfl) (.cons (.inr (by decide +kernel)) .nil))⟩
      (.cons ⟨rfl, .changed (.cons hrule .nil)⟩ .nil))
  exact .changed (.cons ⟨rfl, rfl⟩ (.cons ⟨rfl, rfl⟩ (.cons ⟨rfl, rfl⟩ (.cons ⟨rfl, hspec⟩ .nil))))

end Sample

theorem nameless_references_of_route :
    let s := Snapshot.ofObjects standardLabelKey [Sample.namedRoute]
    let m' := Model.discover (Snapshot.ofObjects standardLabelKey [Sample.partlyNamedRoute]) {}
    let r := s.resolver "default"
    let id := ObjectRef.ofKind .httpRoute "default" "r"
    Sample.namedRoute.groupKind? = some .httpRoute ∧ (Entry.ofDocument Sample.namedRoute).rejected? = none ∧
      Sample.namedRoute.Unnames .httpRoute Sample.partlyNamedRoute ∧
      (Entry.ofDocument Sample.namedRoute).ref?.map r.place = some id ∧ (s.observed r).count id = 1 ∧
      .ofKind .gateway "default" "front" ∈ m'.graph.parents id ∧
      m'.malformedReferences.filter (fun x => x.resource = id) =
        [⟨id, .missingName .gateway⟩, ⟨id, .missingName .service⟩] := by
  intro s m' r id
  have hkind : Sample.namedRoute.groupKind? = some .httpRoute := by decide +kernel
  have haccepted : (Entry.ofDocument Sample.namedRoute).rejected? = none := by decide +kernel
  have hid : (Entry.ofDocument Sample.namedRoute).ref?.map r.place = some id := by decide +kernel
  have hcount : (s.observed r).count id = 1 := by decide +kernel
  obtain ⟨_, _, _, _, _, _, hall⟩ := @Model.nameless_references_exact {} [] [] _ _ _ (.inr rfl) hkind haccepted
    Sample.unnames_partlyNamedRoute
  obtain ⟨_, hgraph, _, hlinks, _, hreported, _⟩ := hall id hid hcount
  refine ⟨hkind, haccepted, Sample.unnames_partlyNamedRoute, hid, hcount, ?_, ?_⟩
  · refine (hgraph _ _).mpr ⟨id, (hlinks _ _).mpr (.inl ⟨rfl, (Reference.ofKind .gateway "front"), ?_, ?_⟩)⟩
    · decide +kernel
    · decide +kernel
  · exact hreported.trans (by decide +kernel)

end PolicyAttachment
