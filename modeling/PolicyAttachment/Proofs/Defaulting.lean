import PolicyAttachment.Proofs.Placement
import PolicyAttachment.Proofs.Rearrangement
import PolicyAttachment.Proofs.ReferenceReading
import PolicyAttachment.Proofs.Statements

/-!
Leaving a namespace out is the same as writing down the one that is meant. The namespace of an object, of a
policy and of a reference are each filled in at a place of their own, and the three agree.
-/

namespace PolicyAttachment

variable {r : Resolver} {k : GroupKind}

def Resolver.meantNamespace (r : Resolver) (home : String) : String :=
  if home = "" then r.defaultNamespace else home

def Metadata.SpelledOut (r : Resolver) (k : GroupKind) (m m' : Metadata) : Prop :=
  m' = m ∨ m.namespaceName = "" ∧ r.isClusterScoped k = false ∧
    m' = { m with namespaceName := r.defaultNamespace }

def Reference.SpelledOut (r : Resolver) (k : GroupKind) (home : String) (ref ref' : Reference) : Prop :=
  ref' = ref ∨ ref.namespaceName.getD "" = "" ∧ r.isClusterScoped k = false ∧
    ref' = { ref with namespaceName := some (r.meantNamespace home) }

structure RouteRule.SpelledOut (r : Resolver) (home : String) (rule rule' : RouteRule) : Prop where
  backends : List.Forall₂ (fun b b' => b'.filters = b.filters ∧
    b.reference.SpelledOut r b.reference.asBackend.groupKind home b'.reference) rule.backends rule'.backends
  filters : List.Forall₂ (fun f f' => Option.Rel (fun m m' => m.SpelledOut r m.asBackend.groupKind home m')
    f.mirror f'.mirror) rule.filters rule'.filters

structure Gateway.SpelledOut (r : Resolver) (g g' : Gateway) : Prop where
  metadata : g.metadata.SpelledOut r .gateway g'.metadata
  spec : g'.spec = g.spec

structure HttpRoute.SpelledOut (r : Resolver) (h h' : HttpRoute) : Prop where
  metadata : h.metadata.SpelledOut r .httpRoute h'.metadata
  parents : List.Forall₂ (fun p p' =>
    p.SpelledOut r p.asParent.groupKind (h.metadata.home r .httpRoute) p') h.spec.parents h'.spec.parents
  rules : List.Forall₂ (RouteRule.SpelledOut r (h.metadata.home r .httpRoute)) h.spec.rules h'.spec.rules

namespace DynamicObject

structure SpelledOut (r : Resolver) (o o' : DynamicObject) : Prop where
  kind : o'.kind = o.kind
  metadata : ∀ k, o.kind = some k → o.metadata.SpelledOut r k o'.metadata

inductive TargetSpelledOut (r : Resolver) (o o' : DynamicObject) : Prop
  | same (hspec : o'.spec = o.spec)
  | written {home : String} {spec : Fields} {fs : List (String × Document)}
      (hhome : ∀ k, o.kind = some k → o.metadata.home r k = home) (hspec : o.spec = some spec)
      (htarget : spec.get? "targetRef" = some (.object fs))
      (hfs : ∀ d, ("namespace", d) ∈ fs → d = .null ∨ d = .string "")
      (houtside : ∀ ref, Reference.read (.object fs) = .ok ref → r.isClusterScoped ref.groupKind = false)
      (hspec' : o'.spec = some (spec.insert "targetRef"
        (.object (SortedMap.insertEntry "namespace" (.string (r.meantNamespace home)) fs))))

end DynamicObject

/-- The second snapshot differs from the first only in that it writes down some namespaces that the first
leaves out. -/
structure Snapshot.SpelledOut (r : Resolver) (s s' : Snapshot) : Prop where
  gatewayClasses : s'.gatewayClasses = s.gatewayClasses
  gateways : List.Forall₂ (Gateway.SpelledOut r) s.gateways s'.gateways
  routes : List.Forall₂ (HttpRoute.SpelledOut r) s.routes s'.routes
  backends : List.Forall₂ (fun o o' => o.SpelledOut r o' ∧ o'.spec = o.spec) s.backends s'.backends
  namespaces : s'.namespaces = s.namespaces
  definitions : s'.definitions = s.definitions
  policies : List.Forall₂ (fun o o' => o.SpelledOut r o' ∧ o.TargetSpelledOut r o') s.policies s'.policies
  rejected : s'.rejected = s.rejected

namespace Metadata

variable {m m' : Metadata}

theorem namespaceName_of_map_place {id : ObjectRef} (h : (m.ref? k).map r.place = some id) :
    id.namespaceName = m.home r k := by
  rw [map_place_ref?] at h
  obtain ⟨_, _, rfl⟩ := Option.map_eq_some_iff.mp h
  rfl

theorem SpelledOut.home_eq (h : m.SpelledOut r k m') : m'.home r k = m.home r k := by
  obtain rfl | ⟨hm, hk, rfl⟩ := h
  · rfl
  · have himplied : r.impliedNamespace k "" = r.defaultNamespace := by simp [Resolver.impliedNamespace, hk]
    simp only [home_eq, hm, if_true, himplied, ite_self]

theorem SpelledOut.name_eq (h : m.SpelledOut r k m') : m'.name = m.name := by
  obtain rfl | ⟨_, _, rfl⟩ := h <;> rfl

theorem SpelledOut.map_place_ref? (h : m.SpelledOut r k m') :
    (m'.ref? k).map r.place = (m.ref? k).map r.place := by
  rw [Metadata.map_place_ref?, Metadata.map_place_ref?, h.name_eq, h.home_eq]

end Metadata

section

variable {home : String} {ref ref' : Reference}

theorem Resolver.resolve_meantNamespace (hk : r.isClusterScoped ref.groupKind = false)
    (href : ref.namespaceName.getD "" = "") :
    r.resolve { ref with namespaceName := some (r.meantNamespace home) } home = r.resolve ref home := by
  have himplied : r.impliedNamespace ref.groupKind home = r.meantNamespace home := by
    simp [impliedNamespace, hk, meantNamespace]
  have hkind : ({ ref with namespaceName := some (r.meantNamespace home) } : Reference).groupKind =
      ref.groupKind := rfl
  simp only [resolve, hkind, himplied, href, Option.getD_some, ite_self, if_true]

theorem Reference.SpelledOut.resolve_orKind (h : ref.SpelledOut r (ref.orKind k).groupKind home ref') :
    r.resolve (ref'.orKind k) home = r.resolve (ref.orKind k) home := by
  obtain rfl | ⟨href, hk, rfl⟩ := h
  · rfl
  · exact Resolver.resolve_meantNamespace hk href

end

namespace RouteRule

def backendRefs (rule : RouteRule) : List Reference :=
  rule.backends.map (·.reference) ++ rule.filters.filterMap (·.mirror)

theorem SpelledOut.forall₂_backendRefs {rule rule' : RouteRule} {home : String}
    (h : rule.SpelledOut r home rule') :
    List.Forall₂ (fun b b' => b.SpelledOut r b.asBackend.groupKind home b') rule.backendRefs rule'.backendRefs := by
  apply List.rel_append
  · exact List.rel_map (fun _ _ hb => hb.2) h.backends
  · exact List.rel_filterMap (fun _ _ hf => hf) h.filters

end RouteRule

theorem HttpRoute.SpelledOut.forall₂_statements {h h' : HttpRoute} (hh : h.SpelledOut r h') :
    List.Forall₂ (Statement.Alike r) (Statement.ofRoute r h) (Statement.ofRoute r h') := by
  apply Statement.forall₂_about hh.metadata.map_place_ref?
  intro id hid
  have hhome : id.namespaceName = h.metadata.home r .httpRoute := Metadata.namespaceName_of_map_place hid
  refine .cons (.observed id .httpRoute rfl) (List.rel_append ?_ ?_)
  · rw [RouteSpec.parentRefs, RouteSpec.parentRefs, List.map_map, List.map_map]
    refine List.rel_map (fun p p' hp => ?_) hh.parents
    exact .childOf id .gateway (hhome ▸ hp.resolve_orKind)
  · rw [RouteSpec.backendRefs, RouteSpec.backendRefs, List.map_flatMap, List.map_flatMap]
    refine List.rel_flatMap hh.rules fun rule rule' hrule => ?_
    rw [List.map_map, List.map_map]
    refine List.rel_map (fun b b' hb => ?_) hrule.forall₂_backendRefs
    exact .parentOf id .backend (hhome ▸ hb.resolve_orKind)

theorem Gateway.SpelledOut.forall₂_statements {g g' : Gateway} (hg : g.SpelledOut r g') :
    List.Forall₂ (Statement.Alike r) (Statement.ofGateway r g) (Statement.ofGateway r g') := by
  apply Statement.forall₂_about hg.metadata.map_place_ref?
  intro id _
  rw [hg.spec]
  exact .cons (.refl _) (.cons (.refl _) .nil)

theorem DynamicObject.SpelledOut.map_place_ref? {o o' : DynamicObject} (ho : o.SpelledOut r o') :
    o'.ref?.map r.place = o.ref?.map r.place := by
  rw [ref?, ref?, ho.kind]
  cases hk : o.kind with
  | none => rfl
  | some k => exact (ho.metadata k hk).map_place_ref?

theorem DynamicObject.SpelledOut.forall₂_statements {o o' : DynamicObject} (ho : o.SpelledOut r o')
    (hspec : o'.spec = o.spec) :
    List.Forall₂ (Statement.Alike r) (Statement.ofBackend r o) (Statement.ofBackend r o') := by
  apply Statement.forall₂_about ho.map_place_ref?
  intro id _
  rw [hspec]
  exact .cons (.refl _) .nil

theorem Snapshot.SpelledOut.forall₂_statements {s s' : Snapshot} (h : s.SpelledOut r s') :
    List.Forall₂ (Statement.Alike r) (s.statements r) (s'.statements r) := by
  rw [statements, statements, h.namespaces, h.gatewayClasses]
  refine List.rel_append (List.rel_append (List.rel_append (List.rel_append ?_ ?_) ?_) ?_) ?_
  · exact List.forall₂_same.mpr fun st _ => .refl st
  · exact List.forall₂_same.mpr fun st _ => .refl st
  · exact List.rel_flatMap h.backends fun _ _ ho => ho.1.forall₂_statements ho.2
  · exact List.rel_flatMap h.gateways fun _ _ hg => hg.forall₂_statements
  · exact List.rel_flatMap h.routes fun _ _ hh => hh.forall₂_statements

theorem PolicyBody.ofSpec?_insert_targetRef (spec : Fields) (target : Document) (c : Classification) :
    ofSpec? (spec.insert "targetRef" target) c = ofSpec? spec c := by
  have hentries : (spec.insert "targetRef" target).entries.filter (·.1 ≠ "targetRef") =
      spec.entries.filter (·.1 ≠ "targetRef") :=
    SortedMap.filter_ne_insertEntry "targetRef" target spec.entries
  have hpart : ∀ name, name ≠ "targetRef" →
      Overlay.part (spec.insert "targetRef" target) name = Overlay.part spec name := by
    intro name hname
    rw [Overlay.part, SortedMap.get?_insert, if_neg hname, Overlay.part]
  cases c with
  | direct => rw [ofSpec?, ofSpec?, directFields, hentries, directFields]
  | inherited =>
    rw [ofSpec?, ofSpec?, Overlay.ofSpec, hpart "override" (by decide), hpart "default" (by decide),
      Overlay.ofSpec]
  | unknown => rfl

namespace DynamicObject.TargetSpelledOut

variable {o o' : DynamicObject} (h : o.TargetSpelledOut r o')
include h

theorem ofSpec?_eq (c : Classification) :
    PolicyBody.ofSpec? (o'.spec.getD .empty) c = PolicyBody.ofSpec? (o.spec.getD .empty) c := by
  cases h with
  | same hspec => rw [hspec]
  | written _ hspec _ _ _ hspec' =>
    rw [hspec, hspec', Option.getD_some, Option.getD_some, PolicyBody.ofSpec?_insert_targetRef]

theorem map_resolve (hk : o.kind = some k) :
    o'.targetRef?.map (r.resolve · (o.metadata.home r k)) =
      o.targetRef?.map (r.resolve · (o.metadata.home r k)) := by
  cases h with
  | same hspec => rw [targetRef?, hspec, targetRef?]
  | @written home spec fs hhome hspec htarget hfs houtside hspec' =>
    obtain rfl := hhome k hk
    have htargetRef : o.targetRef? = (Reference.read (.object fs)).toOption := by
      simp [targetRef?, hspec, htarget]
    have htargetRef' : o'.targetRef? = (Reference.read (.object (SortedMap.insertEntry "namespace"
        (.string (r.meantNamespace (o.metadata.home r k))) fs))).toOption := by
      simp [targetRef?, hspec', SortedMap.get?_insert]
    rw [htargetRef, htargetRef']
    have hiff := @Reference.read_insertEntry_iff fs (r.meantNamespace (o.metadata.home r k)) hfs
    cases hread : Reference.read (.object fs) with
    | ok ref =>
      rw [hiff.mpr ⟨ref, hread, rfl⟩]
      exact congrArg some
        (Resolver.resolve_meantNamespace (houtside ref hread) (Reference.namespaceName_of_read hfs hread))
    | error e =>
      -- a target that cannot be read cannot be read with a namespace in it either
      cases hread' : Reference.read (.object (SortedMap.insertEntry "namespace"
          (.string (r.meantNamespace (o.metadata.home r k))) fs)) with
      | ok ref' =>
        obtain ⟨ref, href, _⟩ := hiff.mp hread'
        cases hread.symm.trans href
      | error e' => rfl

end DynamicObject.TargetSpelledOut

namespace Binding

variable {g : Graph} {ds : Descriptors} {o o' : DynamicObject}

theorem toTarget_congr {c : Classification} {id : ObjectRef}
    (htarget : o'.targetRef?.map (r.resolve · id.namespaceName) = o.targetRef?.map (r.resolve · id.namespaceName))
    (hbody : PolicyBody.ofSpec? (o'.spec.getD .empty) c = PolicyBody.ofSpec? (o.spec.getD .empty) c) :
    toTarget g r o' k c id = toTarget g r o k c id := by
  cases hs : o.targetRef? with
  | none =>
    rw [hs, Option.map_none, Option.map_eq_none_iff] at htarget
    rw [toTarget, htarget, toTarget, hs]
  | some ref =>
    rw [hs, Option.map_some, Option.map_eq_some_iff] at htarget
    obtain ⟨ref', hs', hresolve⟩ := htarget
    simp only [toTarget, hs, hs', hresolve, hbody]

theorem ofObject_eq_of_spelledOut (ho : o.SpelledOut r o') (ht : o.TargetSpelledOut r o') :
    ofObject g ds r o' = ofObject g ds r o := by
  have hplace := ho.map_place_ref?
  cases href : o.ref? with
  | none =>
    rw [href, Option.map_none, Option.map_eq_none_iff] at hplace
    rw [ofObject, hplace, ofObject, href]
  | some ref =>
    rw [href, Option.map_some, Option.map_eq_some_iff] at hplace
    obtain ⟨ref', href', hplace⟩ := hplace
    have hkind : ref'.groupKind = ref.groupKind := by
      rw [← groupKind_place r, hplace, groupKind_place]
    have htarget : ∀ c, toTarget g r o' ref.groupKind c (r.place ref) =
        toTarget g r o ref.groupKind c (r.place ref) := by
      intro c
      refine toTarget_congr ?_ (ht.ofSpec?_eq c)
      obtain ⟨k, hk, hm⟩ := Option.bind_eq_some_iff.mp href
      rw [Metadata.namespaceName_of_map_place (by rw [hm, Option.map_some])]
      exact ht.map_resolve hk
    simp only [ofObject, href, href', hkind, hplace, htarget]

end Binding

theorem Snapshot.SpelledOut.bindings_eq {s s' : Snapshot} (h : s.SpelledOut r s') (g : Graph) (ds : Descriptors) :
    Attachments.bindings g ds r s.policies = Attachments.bindings g ds r s'.policies :=
  map_eq_map_of_forall₂ h.policies fun _ _ ho => (Binding.ofObject_eq_of_spelledOut ho.1 ho.2).symm

namespace Model

/-- The two models give the same answers, and they differ in nothing but the specs of nodes. -/
structure SameAnswers (m m' : Model) : Prop where
  graph : m.graph.SameKinds m'.graph
  attachments : m.attachments = m'.attachments
  diagnostics : m.diagnostics = m'.diagnostics
  ancestors : ∀ n, m.view.ancestors n = m'.view.ancestors n
  effective : ∀ n, m.view.effective n = m'.view.effective n
  effectiveVia? : ∀ n parent, m.view.effectiveVia? n parent = m'.view.effectiveVia? n parent

theorem sameAnswers_of_spelledOut {s s' : Snapshot} {config : Config}
    (h : s.SpelledOut (s.resolver config.defaultNamespace) s') :
    (discover s config).SameAnswers (discover s' config) := by
  have hr : s'.resolver config.defaultNamespace = s.resolver config.defaultNamespace := by
    rw [Snapshot.resolver, h.definitions, Snapshot.resolver]
  have hgraph : (discover s config).graph.SameKinds (discover s' config).graph := by
    change (Graph.build s _ _).SameKinds (Graph.build s' _ _)
    rw [hr]
    exact Graph.sameKinds_build h.forall₂_statements _
  have hdescriptors : (discover s config).descriptors = (discover s' config).descriptors := by
    change Descriptors.ofDefinitions _ _ = Descriptors.ofDefinitions _ _
    rw [h.definitions]
  have hbindings : Attachments.bindings (discover s config).graph (discover s config).descriptors
      (s.resolver config.defaultNamespace) s.policies =
      Attachments.bindings (discover s' config).graph (discover s' config).descriptors
        (s'.resolver config.defaultNamespace) s'.policies := by
    rw [hr, ← hdescriptors, h.bindings_eq, Attachments.bindings, Attachments.bindings,
      Binding.ofObject_congr hgraph.sameShape ⟨rfl, rfl⟩]
  have hattachments : (discover s config).attachments = (discover s' config).attachments :=
    congrArg Attachments.ofBindings hbindings
  have hview : (discover s config).view.Alike (discover s' config).view :=
    ⟨hgraph.sameShape, fun c n => by rw [view, hattachments, view], rfl⟩
  have hdiagnostics : (discover s config).diagnostics = (discover s' config).diagnostics := by
    rw [diagnostics_discover, diagnostics_discover, omissions, omissions, hview.cyclic_eq, hbindings, hr,
      Graph.problems_eq_of_alike h.forall₂_statements, h.rejected, h.definitions]
  exact ⟨hgraph, hattachments, hdiagnostics, hview.ancestors_eq, hview.effective_eq, hview.effectiveVia?_eq⟩

end Model

namespace Sample

def terse : Snapshot where
  gateways := [⟨⟨some "gw", "", .empty⟩, ⟨"class", .null⟩⟩]
  routes := [⟨⟨some "a", "", .empty⟩, ⟨[toGateway], [], .null⟩⟩]
  definitions := [timeoutDefinition]
  policies := [⟨some timeoutTypes, ⟨some "p", "", .empty⟩, some (timeoutSpec "1")⟩]

def verbose : Snapshot where
  gateways := [⟨⟨some "gw", "default", .empty⟩, ⟨"class", .null⟩⟩]
  routes := [⟨⟨some "a", "default", .empty⟩,
    ⟨[{ toGateway with namespaceName := some "default" }], [], .null⟩⟩]
  definitions := [timeoutDefinition]
  policies := [⟨some timeoutTypes, ⟨some "p", "default", .empty⟩,
    some (.ofList [("seconds", .string "1"), ("targetRef", .ofFields [("group", .string gatewayGroup),
      ("kind", .string "Gateway"), ("name", .string "gw"), ("namespace", .string "default")])])⟩]

theorem terse_spelledOut : terse.SpelledOut (terse.resolver "default") verbose where
  gatewayClasses := rfl
  gateways := .cons ⟨.inr (by decide), rfl⟩ .nil
  routes := .cons ⟨.inr (by decide), .cons (.inr (by decide)) .nil, .nil⟩ .nil
  backends := .nil
  namespaces := rfl
  definitions := rfl
  policies := by
    refine .cons ⟨⟨rfl, fun k hk => ?_⟩, ?_⟩ .nil
    · obtain rfl := Option.some.inj hk
      exact .inr (by decide)
    · refine @DynamicObject.TargetSpelledOut.written _ _ _ "default" _ [("group", .string gatewayGroup),
        ("kind", .string "Gateway"), ("name", .string "gw")] (fun k hk => ?_) rfl (by decide +kernel) (by simp)
        (fun ref href => ?_) (by decide +kernel)
      · obtain rfl := Option.some.inj hk
        decide
      · obtain ⟨_, rfl⟩ := Reference.read_object_eq_ok_iff.mp href
        decide +kernel
  rejected := rfl

end Sample

theorem terse_answers_as_verbose :
    Sample.terse.SpelledOut (Sample.terse.resolver "default") Sample.verbose ∧
      (Model.discover Sample.terse {}).attachments.instances.map (·.target) =
        [.ofKind .gateway "default" "gw"] ∧
      (Model.discover Sample.terse {}).SameAnswers (Model.discover Sample.verbose {}) :=
  ⟨Sample.terse_spelledOut, by decide +kernel, Model.sameAnswers_of_spelledOut Sample.terse_spelledOut⟩

end PolicyAttachment
