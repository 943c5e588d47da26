import PolicyAttachment.Proofs.Conservation
import PolicyAttachment.Proofs.Construction
import PolicyAttachment.Proofs.Effective
import PolicyAttachment.Proofs.PolicyKinds
import PolicyAttachment.Proofs.Shape

namespace PolicyAttachment

namespace Snapshot

structure Rearranged (s s' : Snapshot) : Prop where
  gatewayClasses : s.gatewayClasses.Perm s'.gatewayClasses
  gateways : s.gateways.Perm s'.gateways
  routes : s.routes.Perm s'.routes
  backends : s.backends.Perm s'.backends
  namespaces : s.namespaces.Perm s'.namespaces
  definitions : s.definitions.Perm s'.definitions
  policies : s.policies.Perm s'.policies
  rejected : s.rejected.Perm s'.rejected

def policyIds (s : Snapshot) (r : Resolver) : List ObjectRef :=
  s.policies.filterMap fun o => o.ref?.map r.place

def labelledKinds (s : Snapshot) (labelKey : String) : List GroupKind :=
  (s.definitions.filter fun c => (c.label? labelKey).isSome).map (·.kind)

namespace Rearranged

variable {s s' : Snapshot} (h : s.Rearranged s')
include h

theorem symm : s'.Rearranged s where
  gatewayClasses := h.gatewayClasses.symm
  gateways := h.gateways.symm
  routes := h.routes.symm
  backends := h.backends.symm
  namespaces := h.namespaces.symm
  definitions := h.definitions.symm
  policies := h.policies.symm
  rejected := h.rejected.symm

theorem agrees_resolver (defaultNamespace : String) :
    (s.resolver defaultNamespace).Agrees (s'.resolver defaultNamespace) :=
  Resolver.agrees_foldl_register _ fun _ => ((h.definitions.filter _).map _).mem_iff

section

variable {r r' : Resolver} (hr : r.Agrees r')
include hr

theorem relates {p c : ObjectRef} (hrel : s.Relates r p c) : s'.Relates r' p c := by
  have hnames : ∀ {m : Metadata} {k : GroupKind} {id : ObjectRef}, m.Names r k id → m.Names r' k id := by
    intro m k id hid
    rwa [Metadata.names_iff, ← hr.place, ← Metadata.names_iff]
  cases hrel with
  | ofClass hg hid hname hcls => exact .ofClass (h.gateways.mem_iff.mp hg) (hnames hid) hname (hr.resolve ▸ hcls)
  | toParent hh hid htarget hname hp =>
    exact .toParent (h.routes.mem_iff.mp hh) (hnames hid) htarget hname (hr.resolve ▸ hp)
  | toBackend hh hid htarget hname hb =>
    exact .toBackend (h.routes.mem_iff.mp hh) (hnames hid) htarget hname (hr.resolve ▸ hb)

theorem relates_iff {p c : ObjectRef} : s.Relates r p c ↔ s'.Relates r' p c :=
  ⟨h.relates hr, h.symm.relates hr.symm⟩

theorem observed_perm : (s.observed r).Perm (s'.observed r') := by
  simp only [observed, hr.place]
  exact ((((h.namespaces.filterMap _).append (h.gatewayClasses.filterMap _)).append
    (h.backends.filterMap _)).append (h.gateways.filterMap _)).append (h.routes.filterMap _)

theorem tells_iff {x : ObjectRef} : s.Tells r x ↔ s'.Tells r' x := by
  simp only [Tells, ← mem_observed_iff_shows, (h.observed_perm hr).mem_iff, h.relates_iff hr]

theorem references_perm : (s.references r).Perm (s'.references r') := by
  have hhome : Metadata.home r = Metadata.home r' := by
    funext k m
    exact Metadata.home_congr hr.place k m
  have hgateway : Gateway.references r = Gateway.references r' := by
    funext g
    rw [Gateway.references, hhome, Gateway.references]
  have hroute : HttpRoute.references r = HttpRoute.references r' := by
    funext o
    rw [HttpRoute.references, hhome, HttpRoute.references]
  rw [references, hgateway, hroute]
  exact (h.gateways.flatMap_right _).append (h.routes.flatMap_right _)

theorem sameShape_build (namespaceNodes : Bool) :
    (Graph.build s r namespaceNodes).SameShape (Graph.build s' r' namespaceNodes) where
  ids := by
    apply SortedMap.keys_eq_of_mem_iff
    intro x
    rw [← SortedMap.contains_iff_mem_keys, ← SortedMap.contains_iff_mem_keys]
    refine Graph.contains_build_iff.trans (Iff.trans ?_ Graph.contains_build_iff.symm)
    simp only [h.tells_iff hr]
  links := by
    apply SortedMap.keys_eq_of_mem_iff
    intro l
    rw [← Graph.mem_parents_iff, ← Graph.mem_parents_iff, Graph.mem_parents_build_iff,
      Graph.mem_parents_build_iff]
    exact h.relates_iff hr

theorem graphProblems_perm : (Graph.problems s r).Perm (Graph.problems s' r') := by
  rw [Graph.problems_eq, Graph.problems_eq]
  exact ((h.references_perm hr).filter _).map _

end

theorem descriptors_eq {labelKey : String} (hkinds : (s.labelledKinds labelKey).Nodup) :
    Descriptors.ofDefinitions labelKey s.definitions = Descriptors.ofDefinitions labelKey s'.definitions := by
  have hkeys : (s.definitions.filterMap (KindDefinition.descriptor? labelKey)).map (·.1) =
      s.labelledKinds labelKey := by
    rw [Descriptors.filterMap_descriptor?, List.map_map]
    rfl
  apply SortedMap.ofList_eq_of_perm (h.definitions.filterMap _)
  rw [hkeys]
  exact hkinds

end Rearranged

end Snapshot

theorem Binding.ofObject_congr {g g' : Graph} {r r' : Resolver} (hg : g.SameShape g') (hr : r.Agrees r')
    (ds : Descriptors) : ofObject g ds r = ofObject g' ds r' := by
  funext o
  simp only [ofObject, toTarget, hr.resolve, hr.place, hg.contains_eq]

namespace Attachments

theorem nodup_ids_instances {g : Graph} {ds : Descriptors} {s : Snapshot} {r : Resolver}
    (hids : (s.policyIds r).Nodup) :
    ((ofBindings (bindings g ds r s.policies)).instances.map (·.id)).Nodup := by
  have hid : ∀ {o p}, (Binding.ofObject g ds r o).instance? = some p → o.ref?.map r.place = some p.id := by
    intro o p hp
    obtain ⟨ref, _, _, href, _, _, hid, _⟩ :=
      Binding.ofObject_eq_attached_iff.mp (Binding.instance?_eq_some_iff.mp hp)
    rw [href, hid, Option.map_some]
  rw [instances_ofBindings]
  refine List.pairwise_map.mpr (List.pairwise_filterMap.mpr ?_)
  refine (List.pairwise_filterMap.mp hids).imp ?_
  intro o o' hne p hp p' hp'
  exact hne _ (hid hp) _ (hid hp')

theorem on_eq_of_perm {a a' : Attachments} (h : a.instances.Perm a'.instances)
    (hids : (a.instances.map (·.id)).Nodup) (c : Classification) (n : ObjectRef) : a.on c n = a'.on c n := by
  have hperm : (a.on c n).Perm (a'.on c n) :=
    ((a.on_perm c n).trans (h.filter _)).trans (a'.on_perm c n).symm
  refine List.Perm.eq_of_pairwise ?_ (a.pairwise_on c n) (a'.pairwise_on c n) hperm
  intro p q hp hq hpq hqp
  have heq : p.id = q.id := Std.LawfulEqCmp.eq_of_compare (Std.OrientedCmp.isLE_antisymm hpq hqp)
  exact List.inj_on_of_nodup_map hids (a.mem_on_iff.mp hp).1 (a.mem_on_iff.mp (hperm.mem_iff.mpr hq)).1 heq

end Attachments

namespace Model

/-- Two models with the same answers, whose reports may be in different orders. -/
structure AnswersAlike (m m' : Model) : Prop where
  shape : m.graph.SameShape m'.graph
  ancestors : ∀ n, m.view.ancestors n = m'.view.ancestors n
  ancestry : ∀ n, m.view.ancestry n = m'.view.ancestry n
  direct : ∀ n, m.view.direct n = m'.view.direct n
  inherited : ∀ n, m.view.inherited n = m'.view.inherited n
  effective : ∀ n, m.view.effective n = m'.view.effective n
  effectiveVia? : ∀ n parent, m.view.effectiveVia? n parent = m'.view.effectiveVia? n parent
  diagnostics : m.diagnostics.Perm m'.diagnostics

section

variable {s s' : Snapshot} (h : s.Rearranged s') (config : Config)
include h

theorem bindings_perm (hkinds : (s.labelledKinds config.policyLabelKey).Nodup) :
    let m := discover s config
    let m' := discover s' config
    (Attachments.bindings m.graph m.descriptors (s.resolver config.defaultNamespace) s.policies).Perm
      (Attachments.bindings m'.graph m'.descriptors (s'.resolver config.defaultNamespace) s'.policies) := by
  intro m m'
  have hr := h.agrees_resolver config.defaultNamespace
  have hshape : m.graph.SameShape m'.graph := h.sameShape_build hr _
  have hds : m.descriptors = m'.descriptors := h.descriptors_eq hkinds
  rw [Attachments.bindings, Binding.ofObject_congr hshape hr, hds]
  exact h.policies.map _

theorem alike_view (hids : (s.policyIds (s.resolver config.defaultNamespace)).Nodup)
    (hkinds : (s.labelledKinds config.policyLabelKey).Nodup) :
    (discover s config).view.Alike (discover s' config).view where
  shape := h.sameShape_build (h.agrees_resolver config.defaultNamespace) _
  policies := Attachments.on_eq_of_perm ((bindings_perm h config hkinds).filterMap _)
    (Attachments.nodup_ids_instances hids)
  namespaceAncestors := rfl

end

theorem answersAlike_of_rearranged {s s' : Snapshot} (h : s.Rearranged s') (config : Config)
    (hids : (s.policyIds (s.resolver config.defaultNamespace)).Nodup)
    (hkinds : (s.labelledKinds config.policyLabelKey).Nodup) :
    (discover s config).AnswersAlike (discover s' config) := by
  have hr := h.agrees_resolver config.defaultNamespace
  have hview := alike_view h config hids hkinds
  have hdiagnostics : (discover s config).diagnostics.Perm (discover s' config).diagnostics := by
    rw [diagnostics_discover, diagnostics_discover, omissions, omissions, hview.cyclic_eq]
    refine h.rejected.append (.append ?_ (.refl _))
    refine .append (.append ?_ (h.graphProblems_perm hr)) ?_
    · exact h.definitions.filterMap _
    · exact (bindings_perm h config hkinds).filterMap _
  exact
    { shape := hview.shape
      ancestors := hview.ancestors_eq
      ancestry := hview.ancestry_eq
      direct := hview.direct_eq
      inherited := hview.inherited_eq
      effective := hview.effective_eq
      effectiveVia? := hview.effectiveVia?_eq
      diagnostics := hdiagnostics }

end Model

def Sample.reversed : Snapshot :=
  { contested with routes := contested.routes.reverse, policies := contested.policies.reverse }

theorem reversed_answers_alike :
    Sample.contested.Rearranged Sample.reversed ∧
      (Sample.contested.policyIds (Sample.contested.resolver "default")).Nodup ∧
      (Sample.contested.labelledKinds standardLabelKey).Nodup ∧
      (Model.discover Sample.contested {}).AnswersAlike (Model.discover Sample.reversed {}) := by
  have hrearranged : Sample.contested.Rearranged Sample.reversed :=
    { gatewayClasses := .refl _
      gateways := .refl _
      routes := (List.reverse_perm _).symm
      backends := .refl _
      namespaces := .refl _
      definitions := .refl _
      policies := (List.reverse_perm _).symm
      rejected := .refl _ }
  have hids : (Sample.contested.policyIds (Sample.contested.resolver "default")).Nodup := by decide +kernel
  have hkinds : (Sample.contested.labelledKinds standardLabelKey).Nodup := by decide +kernel
  exact ⟨hrearranged, hids, hkinds, Model.answersAlike_of_rearranged hrearranged {} hids hkinds⟩

end PolicyAttachment
