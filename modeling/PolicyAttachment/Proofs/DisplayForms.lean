import PolicyAttachment.Proofs.Records
import PolicyAttachment.Proofs.Selection

namespace PolicyAttachment

namespace Selector

variable {o p : ObjectRef}

theorem resolve_selecting_eq_self (h : Writable o) {r : Resolver}
    (hr : o.namespaceName ≠ "" ∨ r.isClusterScoped o.groupKind = true) : r.resolve o.selecting "" = .ok o := by
  have hplace : r.place o = o := Resolver.place_eq_self_iff.mpr fun hempty =>
    .inl (hr.resolve_left fun hne => hne hempty)
  rw [resolve_selecting r h.group.2 h.name.1, hplace]

theorem display_injective (ho : Writable o) (hp : Writable p) (h : o.display = p.display) : o = p := by
  have hparse : some o.selecting = some p.selecting := by
    rw [← parse?_display ho, h, parse?_display hp]
  -- to a resolver with both kinds outside namespaces both references are complete
  let r : Resolver := ⟨"", [o.groupKind, p.groupKind]⟩
  have hor : r.resolve o.selecting "" = .ok o :=
    resolve_selecting_eq_self ho (.inr (by simp [r, Resolver.isClusterScoped]))
  have hpr : r.resolve p.selecting "" = .ok p :=
    resolve_selecting_eq_self hp (.inr (by simp [r, Resolver.isClusterScoped]))
  rw [Option.some.inj hparse, hpr] at hor
  exact (Except.ok.inj hor).symm

end Selector

namespace View

variable {v : View} {n p : ObjectRef}

theorem effectiveByParent_of_mem_records {r : NodePolicies} (h : r ∈ v.records) :
    r.effectiveByParent = v.effectiveByParent r.resource := by
  obtain ⟨node, _, hr⟩ := policiesFor?_eq_some_iff.mp (mem_records_iff.mp h)
  conv_lhs => rw [← hr]
  rfl

theorem get?_effectiveByParent_display (hmany : 1 < (v.graph.parents n).length)
    (hw : ∀ q ∈ v.graph.parents n, Selector.Writable q) (hp : p ∈ v.graph.parents n) :
    (v.effectiveByParent n).get? p.display = v.effectiveVia? n p := by
  have hfilter : (v.graph.parents n).filter (fun q => q.display = p.display) = [p] := by
    rw [← Graph.filter_parents_eq hp]
    apply List.filter_congr
    intro q hq
    have hiff : q.display = p.display ↔ q = p :=
      ⟨Selector.display_injective (hw q hq) (hw p hp), congrArg ObjectRef.display⟩
    rw [decide_eq_decide.mpr hiff]
  rw [get?_effectiveByParent, if_pos hmany, hfilter]
  rfl

theorem keys_effectiveByParent_perm (hmany : 1 < (v.graph.parents n).length)
    (hw : ∀ q ∈ v.graph.parents n, Selector.Writable q) :
    (v.effectiveByParent n).keys.Perm ((v.graph.parents n).map ObjectRef.display) := by
  have hdisplays : ((v.graph.parents n).map ObjectRef.display).Nodup :=
    (Graph.nodup_parents v.graph n).map_on fun q hq p hp => Selector.display_injective (hw q hq) (hw p hp)
  apply (List.perm_ext_iff_of_nodup (v.effectiveByParent n).nodup_keys hdisplays).mpr
  intro text
  rw [SortedMap.mem_keys_iff, List.mem_map]
  constructor
  · rintro ⟨e, he⟩
    rw [get?_effectiveByParent, if_pos hmany] at he
    obtain ⟨p, hlast, _⟩ := Option.bind_eq_some_iff.mp he
    obtain ⟨hp, htext⟩ := List.mem_filter.mp (List.mem_of_getLast? hlast)
    exact ⟨p, hp, of_decide_eq_true htext⟩
  · rintro ⟨p, hp, rfl⟩
    exact ⟨_, (get?_effectiveByParent_display hmany hw hp).trans (if_pos hp)⟩

end View

theorem display_forms_read_back (o : ObjectRef) (ho : Selector.Writable o) :
    (∃ ref, Selector.parse? o.display = some ref ∧
      ∀ r : Resolver, o.namespaceName ≠ "" ∨ r.isClusterScoped o.groupKind = true →
        r.resolve ref "" = .ok o) ∧
    (∀ p, Selector.Writable p → p.display = o.display → p = o) ∧
    ∀ (s : Snapshot) (config : Config),
      let m := Model.discover s config
      ∀ n ∈ m.report.resources, o ∈ m.graph.parents n.resource → 1 < (m.graph.parents n.resource).length →
        (∀ p ∈ m.graph.parents n.resource, Selector.Writable p) →
          (∃ e, m.view.effectiveVia? n.resource o = some e ∧ n.effectiveByParent.get? o.display = some e) ∧
            n.effectiveByParent.keys.Perm ((m.graph.parents n.resource).map ObjectRef.display) := by
  refine ⟨⟨o.selecting, Selector.parse?_display ho, fun r hr => Selector.resolve_selecting_eq_self ho hr⟩,
    fun p hp h => Selector.display_injective hp ho h, ?_⟩
  intro s config m n hn hparent hmany hw
  have hvia : m.view.effectiveVia? n.resource o = some _ := if_pos hparent
  rw [View.effectiveByParent_of_mem_records hn]
  exact ⟨⟨_, hvia, (View.get?_effectiveByParent_display hmany hw hparent).trans hvia⟩,
    View.keys_effectiveByParent_perm hmany hw⟩

theorem parents_of_looped_route_read_back :
    let m := Model.discover Sample.layered {}
    Selector.Writable Sample.gatewayId ∧
      (∃ ref, Selector.parse? Sample.gatewayId.display = some ref ∧
        (Resolver.ofDefault "default").resolve ref "" = .ok Sample.gatewayId) ∧
      ∃ n ∈ m.report.resources, n.resource = Sample.routeId "a" ∧
        n.effectiveByParent.keys.Perm [Sample.gatewayId.display, (Sample.routeId "b").display] := by
  intro m
  have hgateway : Selector.Writable Sample.gatewayId := by constructor <;> decide +kernel
  have hroute : Selector.Writable (Sample.routeId "b") := by constructor <;> decide +kernel
  have hcontains : m.view.graph.contains (Sample.routeId "a") = true := by decide +kernel
  obtain ⟨n, hpolicies⟩ := View.exists_policiesFor? hcontains
  have hid : n.resource = Sample.routeId "a" := View.resource_of_policiesFor? hpolicies
  have hn : n ∈ m.report.resources := View.mem_records_iff.mpr (hid ▸ hpolicies)
  have hparents : (Model.discover Sample.layered {}).graph.parents n.resource =
      [Sample.gatewayId, Sample.routeId "b"] := by
    rw [hid]
    exact Sample.parents_layered
  obtain ⟨⟨ref, href, hresolve⟩, _, hmodel⟩ := display_forms_read_back Sample.gatewayId hgateway
  have hw : ∀ p ∈ (Model.discover Sample.layered {}).graph.parents n.resource, Selector.Writable p := by
    simp [hparents, hgateway, hroute]
  have hkeys := (hmodel Sample.layered {} n hn (by simp [hparents]) (by simp [hparents]) hw).2
  rw [hparents] at hkeys
  exact ⟨hgateway, ⟨ref, href, hresolve _ (.inl (by decide))⟩, n, hn, hid, hkeys⟩

end PolicyAttachment
