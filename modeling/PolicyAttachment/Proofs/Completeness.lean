import PolicyAttachment.Proofs.Conservation
import PolicyAttachment.Proofs.Effective
import PolicyAttachment.Proofs.Identity

namespace PolicyAttachment

namespace Resolver

/-- Nothing of the reference is left to a referrer: it has a name, does not call the core group by its alias, and
has a namespace unless its kind is outside namespaces. -/
structure Complete (r : Resolver) (o : ObjectRef) : Prop where
  name : o.name ≠ ""
  group : o.group ≠ "core"
  namespaceName : o.namespaceName = "" → r.isClusterScoped o.groupKind = true

variable {r : Resolver} {ref : Reference} {o : ObjectRef} {context : String}

theorem exists_resolve_eq_error_iff :
    (∃ e, r.resolve ref context = .error e) ↔ ref.name = none ∨ ref.name = some "" := by
  simp only [resolve_eq_error_iff, exists_and_left, exists_eq', and_true]
  cases ref.name <;> simp

theorem complete_of_resolve (hdefault : r.defaultNamespace ≠ "") (h : r.resolve ref context = .ok o) :
    r.Complete o := by
  obtain ⟨hname, rfl⟩ := resolve_eq_ok_iff.mp h
  refine ⟨hname, Reference.group_groupKind_ne_core ref, ?_⟩
  rw [ObjectRef.groupKind_ofKind, ObjectRef.ofKind]
  intro hempty
  split at hempty
  · exact (impliedNamespace_eq_empty_iff.mp hempty).resolve_right fun h => hdefault h.2
  · contradiction

theorem Complete.resolve_ofRef (h : r.Complete o) (context : String) :
    r.resolve (.ofRef o) context = .ok o := by
  have hkind : (Reference.ofRef o).groupKind = o.groupKind := by
    rw [Reference.groupKind, Reference.ofRef, ObjectRef.groupKind]
    simp [h.group]
  have hnamespace : (if o.namespaceName = "" then r.impliedNamespace o.groupKind context
      else o.namespaceName) = o.namespaceName := by
    split
    · rename_i hempty
      -- the kind is outside namespaces, so that the context does not count
      rw [impliedNamespace_of_isClusterScoped (h.namespaceName hempty), hempty]
    · rfl
  rw [resolve_eq_ok_iff, hkind]
  exact ⟨h.name, congrArg (ObjectRef.ofKind o.groupKind · o.name) hnamespace⟩

theorem resolution_canonical (r : Resolver) (hdefault : r.defaultNamespace ≠ "") (ref : Reference)
    (context : String) :
    ((∃ e, r.resolve ref context = .error e) ↔ ref.name = none ∨ ref.name = some "") ∧
      ∀ o, r.resolve ref context = .ok o →
        (∀ context', r.resolve (.ofRef o) context' = .ok o) ∧ o.group ≠ "core" ∧
          (o.namespaceName = "" → r.isClusterScoped o.groupKind = true) := by
  refine ⟨exists_resolve_eq_error_iff, fun o h => ?_⟩
  have hcomplete := complete_of_resolve hdefault h
  exact ⟨hcomplete.resolve_ofRef, hcomplete.group, hcomplete.namespaceName⟩

end Resolver

theorem service_resolves_once :
    let r := Resolver.ofDefault "default"
    let ref : Reference := { group := some "core", kind := some "Service", name := some "web" }
    let o := ObjectRef.ofKind .service "app" "web"
    r.defaultNamespace ≠ "" ∧ r.resolve ref "app" = .ok o ∧ r.resolve ref "other" ≠ .ok o ∧
      r.resolve (.ofRef o) "other" = .ok o := by
  intro r ref o
  have hdefault : r.defaultNamespace ≠ "" := by decide
  have hresolve : r.resolve ref "app" = .ok o := by decide
  exact ⟨hdefault, hresolve, by decide, ((r.resolution_canonical hdefault ref "app").2 o hresolve).1 "other"⟩

namespace Model

inductive Stores (m : Model) : ObjectRef → Prop
  | node {id : ObjectRef} : m.graph.contains id = true → Stores m id
  | parent {p c : ObjectRef} : p ∈ m.graph.parents c → Stores m p
  | child {p c : ObjectRef} : c ∈ m.graph.children p → Stores m c
  | policy {p : PolicyInstance} : p ∈ m.attachments.instances → Stores m p.id
  | target {p : PolicyInstance} : p ∈ m.attachments.instances → Stores m p.target
  | key {n : ObjectRef} : n ∈ m.attachments.targets → Stores m n

section

variable {s : Snapshot} {config : Config} {p : PolicyInstance} {x o : ObjectRef}

theorem place_of_contains (hx : (discover s config).graph.contains x = true) :
    (s.resolver config.defaultNamespace).place x = x :=
  Graph.place_of_contains_build hx

theorem Stores.place_eq (h : (discover s config).Stores o) :
    (s.resolver config.defaultNamespace).place o = o := by
  cases h with
  | node hid => exact place_of_contains hid
  | parent hp => exact place_of_contains (wellLinked_discover s config _ _ hp).1
  | child hc =>
    have hp := Graph.mem_children_iff_mem_parents.mp hc
    exact place_of_contains (wellLinked_discover s config _ _ hp).2
  | policy hp =>
    obtain ⟨o, ho⟩ := exists_attached_of_mem_instances hp
    obtain ⟨ref, _, _, _, _, _, hid, _⟩ := Binding.ofObject_eq_attached_iff.mp ho
    rw [hid, Resolver.place_place]
  | target hp => exact place_of_contains (contains_target hp)
  | key hn =>
    obtain ⟨p, hp, rfl⟩ := (Attachments.mem_targets_iff _).mp hn
    exact place_of_contains (contains_target hp)

end

theorem stored_references_have_namespaces (s : Snapshot) (config : Config)
    (hdefault : config.defaultNamespace ≠ "") :
    let m := discover s config
    (∀ o, m.Stores o → o.namespaceName = "" →
      o.groupKind = .gatewayClass ∨ o.groupKind = .coreNamespace ∨ s.DefinesOutside o.groupKind) ∧
    (∀ p ∈ m.attachments.instances, m.graph.contains p.target = true) ∧
    ∀ p c, p ∈ m.graph.parents c ∨ c ∈ m.graph.children p →
      m.graph.contains p = true ∧ m.graph.contains c = true := by
  intro m
  refine ⟨fun o ho hempty => ?_, fun p hp => contains_target hp, fun p c h => ?_⟩
  · have hscoped := Resolver.place_eq_self_iff.mp ho.place_eq hempty
    rw [Snapshot.defaultNamespace_resolver, Snapshot.isClusterScoped_resolver_iff] at hscoped
    rcases hscoped.resolve_right hdefault with hdefined | hbuiltIn
    · exact .inr (.inr hdefined)
    · have hbuiltIn : o.groupKind = .gatewayClass ∨ o.groupKind = .coreNamespace := by
        simpa [Resolver.isClusterScoped, Resolver.ofDefault] using hbuiltIn
      exact hbuiltIn.imp_right .inl
  · rw [Graph.mem_children_iff_mem_parents, or_self] at h
    exact wellLinked_discover s config c p h

end Model

namespace Sample

def meshKind : GroupKind := ⟨"Mesh", "example.com"⟩

def meshed : Snapshot where
  routes := [route "a" [{ group := some "example.com", kind := some "Mesh", name := some "m" }]]
  definitions := [⟨⟨some "meshes.example.com", "", .empty⟩, meshKind, "CLUSTER"⟩]

end Sample

theorem mesh_is_defined_outside :
    let config : Config := {}
    let mesh := ObjectRef.ofKind Sample.meshKind "" "m"
    config.defaultNamespace ≠ "" ∧ (Model.discover Sample.meshed config).Stores mesh ∧
      Sample.meshed.DefinesOutside mesh.groupKind := by
  intro config mesh
  have hdefault : config.defaultNamespace ≠ "" := by decide
  have hstored : (Model.discover Sample.meshed config).Stores mesh := .node (by decide +kernel)
  refine ⟨hdefault, hstored, ?_⟩
  rcases (Model.stored_references_have_namespaces Sample.meshed config hdefault).1 mesh hstored rfl with
    hclass | hnamespace | hdefined
  · exact absurd hclass (by decide)
  · exact absurd hnamespace (by decide)
  · exact hdefined

end PolicyAttachment
