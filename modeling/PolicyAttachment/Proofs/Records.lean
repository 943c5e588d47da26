import PolicyAttachment.Proofs.Observation
import PolicyAttachment.Proofs.Coverage

namespace PolicyAttachment

open PolicyAttachment.Graph

namespace View

variable {v : View} {n : ObjectRef}

theorem get?_effectiveByParent (v : View) (n : ObjectRef) (text : String) :
    (v.effectiveByParent n).get? text =
      if 1 < (v.graph.parents n).length then
        ((v.graph.parents n).filter fun p => p.display = text).getLast?.bind (v.effectiveVia? n)
      else none := by
  unfold effectiveByParent
  simp only
  split
  · have hmap : ((v.graph.parents n).filterMap fun p => (v.effectiveVia? n p).map fun e => (p.display, e)) =
        (v.graph.parents n).map fun p => (p.display, v.effectiveAlong n (v.chainVia n p)) := by
      rw [← List.filterMap_eq_map]
      apply List.filterMap_congr
      intro p hp
      simp [effectiveVia?, hp]
    rw [SortedMap.get?_ofList, hmap, List.filter_map, List.getLast?_map, Option.map_map]
    change (((v.graph.parents n).filter fun p => p.display = text).getLast?).map
      (fun p => v.effectiveAlong n (v.chainVia n p)) = _
    cases hlast : ((v.graph.parents n).filter fun p => p.display = text).getLast? with
    | none => rfl
    | some p =>
      have hp : p ∈ v.graph.parents n := List.mem_of_mem_filter (List.mem_of_getLast? hlast)
      exact (if_pos hp).symm
  · rfl

theorem inherited_perm (hg : v.graph.WellLinked) (n : ObjectRef) :
    (v.inherited n).Perm (v.attachments.instances.filter fun p =>
      p.classification = .inherited && p.target ∈ v.ancestors n) := by
  let onChain := v.attachments.instances.filter fun p =>
    p.classification = .inherited && p.target ∈ v.ancestors n
  have htarget : ∀ p ∈ onChain, p.target ∈ v.ancestors n := by
    intro p hp
    simp only [onChain, List.mem_filter, Bool.and_eq_true, decide_eq_true_eq] at hp
    exact hp.2.2
  refine (List.Perm.flatMap_left _ fun a ha => ?_).trans
    (Attachments.flatMap_filter_perm PolicyInstance.target (nodup_ancestors hg n) htarget)
  apply (v.attachments.on_perm .inherited a).trans
  rw [List.filter_filter]
  apply List.Perm.of_eq
  apply List.filter_congr
  intro p _
  by_cases hp : p.target = a <;> simp [hp, ha]

theorem pairwise_inherited (hg : v.graph.WellLinked) (n : ObjectRef) :
    (v.inherited n).Pairwise fun p q =>
      (v.ancestors n).idxOf p.target < (v.ancestors n).idxOf q.target ∨
        p.target = q.target ∧ (compare p.id q.id).isLE = true := by
  have htarget : ∀ {a p}, p ∈ v.attachments.inherited a → p.target = a :=
    fun hp => ((v.attachments.mem_on_iff).mp hp).2.1
  rw [inherited, inheritedAlong, List.pairwise_flatMap]
  constructor
  · intro a _
    apply (v.attachments.pairwise_on .inherited a).imp_of_mem
    intro p q hp hq hle
    exact .inr ⟨(htarget hp).trans (htarget hq).symm, hle⟩
  · apply (Sorting.pairwise_idxOf_lt (nodup_ancestors hg n)).imp
    intro a b hab p hp q hq
    rw [htarget hp, htarget hq]
    exact .inl hab

theorem map_resource_records (v : View) : v.records.map (·.resource) = v.graph.ids := List.map_map

end View

namespace Model

variable {s : Snapshot} {config : Config} {n : ObjectRef} {p q : PolicyInstance}

theorem kind_ne_of_mem_direct (hp : p ∈ (discover s config).view.direct n) {chain : List ObjectRef}
    (hq : q ∈ (discover s config).view.inheritedAlong chain) : p.kind ≠ q.kind := by
  intro hkind
  obtain ⟨hp, _, hdirect⟩ := (Attachments.mem_on_iff _).mp hp
  obtain ⟨a, _, hq⟩ := View.mem_inheritedAlong.mp hq
  obtain ⟨hq, _, hinherited⟩ := (Attachments.mem_on_iff _).mp hq
  have hp' := Attachments.descriptor_of_mem hp
  rw [hkind, Attachments.descriptor_of_mem hq, hdirect, hinherited] at hp'
  cases hp'

theorem get?_effective_of_mem_direct (hp : p ∈ (discover s config).view.direct n) :
    ((discover s config).view.effective n).get? p.kind =
      some (.ofDirect (((discover s config).view.direct n).filter fun q => q.kind = p.kind)) := by
  have hinherited : ((discover s config).view.inherited n).filter (fun q => q.kind = p.kind) = [] := by
    apply List.filter_eq_nil_iff.mpr
    intro q hq hkind
    exact kind_ne_of_mem_direct hp hq (of_decide_eq_true hkind).symm
  have hne : ((discover s config).view.direct n).filter (fun q => q.kind = p.kind) ≠ [] :=
    List.ne_nil_of_mem (List.mem_filter.mpr ⟨hp, decide_eq_true rfl⟩)
  rw [View.effective, View.get?_effectiveAlong, ← View.inherited, hinherited, EffectivePolicies.value?,
    if_pos rfl, EffectivePolicies.value?, if_neg hne]
  rfl

end Model

structure NodePolicies.Coherent (m : Model) (n : NodePolicies) : Prop where
  disjoint : ∀ p ∈ n.direct, ∀ q ∈ n.inherited, p.kind ≠ q.kind
  kinds : ∀ k, k ∈ n.effective.keys ↔ (∃ p ∈ n.direct, p.kind = k) ∨ ∃ p ∈ n.inherited, p.kind = k
  direct : ∀ p ∈ n.direct,
    n.effective.get? p.kind = some (.ofDirect (n.direct.filter fun q => q.kind = p.kind))
  inherited : n.inherited.Perm (m.attachments.instances.filter fun p =>
    p.classification = .inherited && p.target ∈ m.view.ancestors n.resource)
  order : n.inherited.Pairwise fun p q =>
    (m.view.ancestors n.resource).idxOf p.target < (m.view.ancestors n.resource).idxOf q.target ∨
      p.target = q.target ∧ (compare p.id q.id).isLE = true
  parents : (m.graph.parents n.resource).Pairwise fun p q => compare p q = .lt
  byParent : ∀ text, n.effectiveByParent.get? text =
    if 1 < (m.graph.parents n.resource).length then
      ((m.graph.parents n.resource).filter fun p => p.display = text).getLast?.bind
        (m.view.effectiveVia? n.resource)
    else none

theorem Model.report_coherent (s : Snapshot) (config : Config) :
    let m := discover s config
    m.report.resources.map (·.resource) = m.graph.ids ∧
      (m.graph.ids.Pairwise fun x y => compare x y = .lt) ∧
      ∀ n ∈ m.report.resources, m.policiesFor? n.resource = some n ∧ n.Coherent m := by
  intro m
  have hg : m.view.graph.WellLinked := wellLinked_discover s config
  refine ⟨m.view.map_resource_records, m.graph.nodes.pairwise_keys, fun n hn => ?_⟩
  have hpolicies : m.policiesFor? n.resource = some n := View.mem_records_iff.mp hn
  obtain ⟨node, _, hrecord⟩ := View.policiesFor?_eq_some_iff.mp hpolicies
  generalize n.resource = id at hpolicies hrecord
  subst hrecord
  exact ⟨hpolicies,
    { disjoint := fun p hp q hq => kind_ne_of_mem_direct hp hq
      kinds := fun k => View.mem_keys_effectiveAlong
      direct := fun p hp => get?_effective_of_mem_direct hp
      inherited := View.inherited_perm hg id
      order := View.pairwise_inherited hg id
      parents := m.graph.pairwise_parents id
      byParent := View.get?_effectiveByParent m.view id }⟩

theorem looped_route_record :
    let m := Model.discover Sample.layered {}
    ∃ n ∈ m.report.resources, n.resource = Sample.routeId "a" ∧ n.Coherent m ∧
      n.inherited.Perm [Sample.onGateway, Sample.onRoute] := by
  intro m
  have hg : m.view.graph.WellLinked := Model.wellLinked_discover Sample.layered {}
  have hparents : m.view.graph.parents (Sample.routeId "a") = _ := Sample.parents_layered
  have hcontains : m.view.graph.contains (Sample.routeId "a") = true := by decide +kernel
  obtain ⟨n, hpolicies⟩ := View.exists_policiesFor? hcontains
  have hid : n.resource = Sample.routeId "a" := View.resource_of_policiesFor? hpolicies
  have hn : n ∈ m.report.resources := View.mem_records_iff.mpr (hid ▸ hpolicies)
  have hcoherent : n.Coherent m := ((Model.report_coherent Sample.layered {}).2.2 n hn).2
  have habove : ∀ p ∈ m.view.graph.parents (Sample.routeId "a"), p ∈ m.view.ancestors n.resource := by
    intro p hp
    exact (View.mem_ancestors_iff hg rfl).mpr (.inr (.single (hid ▸ hp)))
  refine ⟨n, hn, hid, hcoherent, hcoherent.inherited.trans (.of_eq ?_)⟩
  rw [Sample.instances_layered]
  apply List.filter_eq_self.mpr
  intro p hp
  rcases List.mem_pair.mp hp with rfl | rfl
  · simpa using ⟨rfl, habove Sample.gatewayId (by simp [hparents])⟩
  · simpa using ⟨rfl, habove (Sample.routeId "b") (by simp [hparents])⟩

end PolicyAttachment
