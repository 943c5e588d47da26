import Mathlib.Data.List.Flatten
import Mathlib.Data.List.Perm.Basic
import PolicyAttachment.Loader
import PolicyAttachment.Model
import PolicyAttachment.Proofs.Construction

namespace PolicyAttachment

def Reference.completed (t : Reference) : Reference := t.completedAs .service

def RouteBackend.mirrors (b : RouteBackend) : List Reference := b.filters.filterMap (·.mirror)

namespace RouteRule

def mirrors (rule : RouteRule) : List Reference := rule.filters.filterMap (·.mirror)

def references (rule : RouteRule) : List Reference :=
  rule.backends.flatMap (fun b => b.reference :: b.mirrors) ++ rule.mirrors

def entryMirrors (rule : RouteRule) : List Reference := rule.backends.flatMap RouteBackend.mirrors

def outerReferences (rule : RouteRule) : List Reference :=
  rule.backends.map (·.reference) ++ rule.mirrors

theorem outerReferences_sublist (rule : RouteRule) : rule.outerReferences.Sublist rule.references := by
  apply List.Sublist.append_right
  rw [List.map_eq_flatMap]
  apply List.Sublist.flatMap_right
  intro b _
  exact (List.nil_sublist b.mirrors).cons_cons b.reference

theorem references_perm (rule : RouteRule) :
    rule.references.Perm (rule.outerReferences ++ rule.entryMirrors) := by
  have hentries : (rule.backends.flatMap fun b => b.reference :: b.mirrors).Perm
      (rule.backends.map (·.reference) ++ rule.entryMirrors) :=
    (List.map_append_flatMap_perm rule.backends (·.reference) RouteBackend.mirrors).symm
  refine (hentries.append_right rule.mirrors).trans ?_
  rw [outerReferences, List.append_assoc, List.append_assoc]
  exact List.perm_append_comm.append_left _

end RouteRule

namespace RouteSpec

def namedBackends (spec : RouteSpec) : List Reference :=
  (spec.rules.flatMap RouteRule.references).map Reference.completed

def entryMirrors (spec : RouteSpec) : List Reference := spec.rules.flatMap RouteRule.entryMirrors

theorem backendRefs_eq (spec : RouteSpec) :
    spec.backendRefs = (spec.rules.flatMap RouteRule.outerReferences).map Reference.completed :=
  spec.backendRefs_eq_map

theorem backendRefs_sublist (spec : RouteSpec) : spec.backendRefs.Sublist spec.namedBackends := by
  rw [backendRefs_eq]
  exact (List.Sublist.flatMap_right _ fun rule _ => rule.outerReferences_sublist).map _

theorem namedBackends_perm (spec : RouteSpec) :
    spec.namedBackends.Perm (spec.backendRefs ++ spec.entryMirrors.map Reference.completed) := by
  rw [backendRefs_eq, ← List.map_append]
  have hrules : (spec.rules.flatMap RouteRule.references).Perm
      (spec.rules.flatMap fun rule => rule.outerReferences ++ rule.entryMirrors) :=
    (List.Perm.refl _).flatMap fun rule _ => rule.references_perm
  exact (hrules.trans (List.flatMap_append_perm _ _ _).symm).map _

theorem backendRefs_eq_namedBackends_iff (spec : RouteSpec) :
    spec.backendRefs = spec.namedBackends ↔ spec.entryMirrors = [] := by
  have hlength := spec.namedBackends_perm.length_eq
  rw [List.length_append, List.length_map] at hlength
  constructor
  · intro heq
    apply List.eq_nil_of_length_eq_zero
    rw [heq] at hlength
    omega
  · intro hnone
    apply spec.backendRefs_sublist.eq_of_length
    rw [hlength, hnone, List.length_nil, Nat.add_zero]

theorem backendRefs_exact (spec : RouteSpec) :
    spec.backendRefs.Sublist spec.namedBackends ∧
      spec.namedBackends.Perm (spec.backendRefs ++ spec.entryMirrors.map Reference.completed) ∧
      (spec.backendRefs = spec.namedBackends ↔ spec.entryMirrors = []) ∧
      ∀ (s : Snapshot) (r : Resolver) (namespaceNodes : Bool) (h : HttpRoute) (ref : ObjectRef),
        h ∈ s.routes → h.ref? = some ref → h.spec = spec →
          ∀ target ∈ spec.backendRefs, target.name.getD "" ≠ "" →
            ∃ b, r.resolve target (r.place ref).namespaceName = .ok b ∧
              b ∈ (Graph.build s r namespaceNodes).children (r.place ref) := by
  refine ⟨spec.backendRefs_sublist, spec.namedBackends_perm, spec.backendRefs_eq_namedBackends_iff, ?_⟩
  rintro s r namespaceNodes h ref hh href rfl target htarget hname
  obtain ⟨b, hb⟩ : ∃ b, r.resolve target (r.place ref).namespaceName = .ok b :=
    Resolver.exists_resolve_eq_ok_iff.mpr hname
  refine ⟨b, hb, ?_⟩
  rw [Graph.mem_children_iff, ← Graph.mem_parents_iff, Graph.mem_parents_build_iff]
  obtain ⟨u, hu, rfl⟩ := mem_backendRefs_iff.mp htarget
  exact .toBackend hh (Metadata.names_iff_exists.mpr ⟨ref, href, rfl⟩) hu hname hb

end RouteSpec

namespace Sample

def mirroringRoute : Document :=
  .object [("apiVersion", .string "gateway.networking.k8s.io/v1"), ("kind", .string "HTTPRoute"),
    ("metadata", .object [("name", .string "r"), ("namespace", .string "default")]),
    ("spec", .object [("rules", .array [.object [("backendRefs", .array [.object [
      ("filters", .array [.object [("requestMirror", .object [("backendRef",
        .object [("name", .string "shadow")])]), ("type", .string "RequestMirror")]]),
      ("name", .string "web")]])]])])]

end Sample

theorem mirror_of_entry_is_missed :
    let s := Snapshot.ofObjects standardLabelKey [Sample.mirroringRoute]
    (s.routes.map fun h => h.spec.backendRefs) = [[.ofKind .service "web"]] ∧
      (s.routes.map fun h => h.spec.namedBackends) =
        [[.ofKind .service "web", .ofKind .service "shadow"]] ∧
      (Model.discover s {}).graph.contains (.ofKind .service "default" "shadow") = false := by
  decide +kernel

end PolicyAttachment
