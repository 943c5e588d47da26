import PolicyAttachment.Proofs.Attached
import PolicyAttachment.Proofs.Construction

namespace PolicyAttachment

namespace Resolver

variable {r : Resolver} {o : ObjectRef} {k : GroupKind} {context : String}

theorem impliedNamespace_eq_empty_iff : r.impliedNamespace k context = "" ↔
    r.isClusterScoped k = true ∨ context = "" ∧ r.defaultNamespace = "" := by
  unfold impliedNamespace
  by_cases hk : r.isClusterScoped k = true
  · simp [hk]
  · by_cases hcontext : context = "" <;> simp [hk, hcontext]

theorem place_eq_self_iff : r.place o = o ↔
    (o.namespaceName = "" → r.isClusterScoped o.groupKind = true ∨ r.defaultNamespace = "") := by
  unfold place
  split
  · rename_i hempty
    have hplaced : ({ o with namespaceName := r.impliedNamespace o.groupKind "" } : ObjectRef) = o ↔
        r.impliedNamespace o.groupKind "" = "" := by
      rw [ObjectRef.mk.injEq, hempty]
      simp
    simp [hplaced, impliedNamespace_eq_empty_iff, hempty]
  · rename_i hstated
    simp [hstated]

theorem place_place (r : Resolver) (o : ObjectRef) : r.place (r.place o) = r.place o := by
  apply place_eq_self_iff.mpr
  rw [groupKind_place]
  unfold place
  split
  · intro himplied
    simpa using impliedNamespace_eq_empty_iff.mp himplied
  · rename_i hstated
    exact fun hempty => absurd hempty hstated

theorem resolve_eq_ok_iff {ref : Reference} : r.resolve ref context = .ok o ↔
    ref.name.getD "" ≠ "" ∧ ObjectRef.ofKind ref.groupKind
      (if ref.namespaceName.getD "" = "" then r.impliedNamespace ref.groupKind context
        else ref.namespaceName.getD "") (ref.name.getD "") = o := by
  by_cases hname : ref.name.getD "" = "" <;> simp [resolve, hname]

theorem place_of_resolve {ref : Reference} (h : r.resolve ref context = .ok o) : r.place o = o := by
  obtain ⟨_, rfl⟩ := resolve_eq_ok_iff.mp h
  apply place_eq_self_iff.mpr
  rw [ObjectRef.groupKind_ofKind, ObjectRef.ofKind]
  split
  · intro himplied
    exact (impliedNamespace_eq_empty_iff.mp himplied).imp_right And.right
  · rename_i hstated
    exact fun hempty => absurd hempty hstated

end Resolver

namespace Snapshot

variable {s : Snapshot} {r : Resolver}

def DefinesOutside (s : Snapshot) (k : GroupKind) : Prop :=
  ∃ c ∈ s.definitions, c.isClusterScoped = true ∧ c.kind = k

theorem isClusterScoped_resolver_iff {d : String} {k : GroupKind} :
    (s.resolver d).isClusterScoped k = true ↔
      s.DefinesOutside k ∨ (Resolver.ofDefault d).isClusterScoped k = true := by
  simp only [resolver, Resolver.foldl_register, Resolver.isClusterScoped, decide_eq_true_eq,
    List.mem_append, List.mem_reverse, List.mem_map, List.mem_filter, DefinesOutside, and_assoc]

theorem isClusterScoped_coreNamespace (s : Snapshot) (d : String) :
    (s.resolver d).isClusterScoped .coreNamespace = true :=
  isClusterScoped_resolver_iff.mpr (.inr (by simp [Resolver.isClusterScoped, Resolver.ofDefault]))

theorem defaultNamespace_resolver (s : Snapshot) (d : String) : (s.resolver d).defaultNamespace = d := by
  rw [resolver, Resolver.foldl_register]
  rfl

theorem place_of_mem_observed {x : ObjectRef} (h : x ∈ s.observed r) : r.place x = x := by
  simp only [observed, List.mem_append, List.mem_filterMap, Option.map_eq_some_iff] at h
  obtain (((⟨_, _, ref, _, rfl⟩ | ⟨_, _, ref, _, rfl⟩) | ⟨_, _, ref, _, rfl⟩) | ⟨_, _, ref, _, rfl⟩) |
    ⟨_, _, ref, _, rfl⟩ := h <;> exact Resolver.place_place r ref

theorem Relates.place_eq {p c : ObjectRef} (h : s.Relates r p c) : r.place p = p ∧ r.place c = c := by
  have hplace : ∀ {m : Metadata} {k : GroupKind} {id : ObjectRef}, m.Names r k id → r.place id = id := by
    intro m k id hid
    obtain ⟨ref, _, rfl⟩ := Metadata.names_iff_exists.mp hid
    exact Resolver.place_place r ref
  cases h with
  | ofClass _ hid _ hcls => exact ⟨Resolver.place_of_resolve hcls, hplace hid⟩
  | toParent _ hid _ _ hp => exact ⟨Resolver.place_of_resolve hp, hplace hid⟩
  | toBackend _ hid _ _ hb => exact ⟨hplace hid, Resolver.place_of_resolve hb⟩

theorem Tells.place_eq {x : ObjectRef} (h : s.Tells r x) : r.place x = x := by
  rcases h with hshows | ⟨y, hxy | hyx⟩
  · exact place_of_mem_observed (mem_observed_iff_shows.mpr hshows)
  · exact hxy.place_eq.1
  · exact hyx.place_eq.2

end Snapshot

namespace Graph

theorem place_of_contains_build {s : Snapshot} {d : String} {namespaceNodes : Bool} {x : ObjectRef}
    (h : (build s (s.resolver d) namespaceNodes).contains x = true) : (s.resolver d).place x = x := by
  rcases contains_build_iff.mp h with htells | ⟨_, y, _, _, rfl⟩
  · exact htells.place_eq
  · apply Resolver.place_eq_self_iff.mpr
    exact fun _ => .inl (s.isClusterScoped_coreNamespace d)

end Graph

end PolicyAttachment
