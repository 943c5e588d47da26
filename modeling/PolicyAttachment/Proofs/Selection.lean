import PolicyAttachment.CommandLine
import PolicyAttachment.Proofs.Observation
import PolicyAttachment.Proofs.Placement

namespace PolicyAttachment

def ObjectRef.selecting (o : ObjectRef) : Reference :=
  { Reference.ofRef o with
    namespaceName := if o.namespaceName = "" then none else some o.namespaceName }

namespace Selector

variable {c : Char} {xs ys : List Char} {o : ObjectRef}

theorem cut_append (h : c ∉ xs) : cut c (xs ++ c :: ys) = some (xs, ys) := by
  induction xs with
  | nil => simp [cut]
  | cons x xs ih =>
    have hx : c ≠ x := List.ne_of_not_mem_cons h
    simp [cut, hx.symm, ih (List.not_mem_of_not_mem_cons h)]

theorem cut_eq_none (h : c ∉ xs) : cut c xs = none := by
  induction xs with
  | nil => rfl
  | cons x xs ih =>
    have hx : c ≠ x := List.ne_of_not_mem_cons h
    simp [cut, hx.symm, ih (List.not_mem_of_not_mem_cons h)]

/-- The text that shows the resource names it as a selector: none of its parts holds a mark that ends
the part, and its group is not one that a selector fills in or takes for another. -/
structure Writable (o : ObjectRef) : Prop where
  kind : o.kind ≠ "" ∧ '.' ∉ o.kind.toList ∧ '/' ∉ o.kind.toList
  group : '/' ∉ o.group.toList ∧ o.group ≠ "core"
  namespaceName : '/' ∉ o.namespaceName.toList
  name : o.name ≠ "" ∧ '/' ∉ o.name.toList
  qualified : o.group = "" → ¬ (o.kind = "GatewayClass" ∨ o.kind = "Gateway" ∨ o.kind = "HTTPRoute")

theorem toList_display_groupKind (o : ObjectRef) : o.groupKind.display.toList =
    if o.group = "" then o.kind.toList else o.kind.toList ++ '.' :: o.group.toList := by
  by_cases h : o.group = "" <;> simp [GroupKind.display, ObjectRef.groupKind, h]

theorem toList_display (o : ObjectRef) : o.display.toList = o.groupKind.display.toList ++ '/' ::
    if o.namespaceName = "" then o.name.toList
    else o.namespaceName.toList ++ '/' :: o.name.toList := by
  by_cases h : o.namespaceName = "" <;> simp [ObjectRef.display, h]

theorem parse?_display (h : Writable o) : parse? o.display = some o.selecting := by
  obtain ⟨⟨hkind, hdot, hslash⟩, ⟨hgroup, _⟩, hnamespace, ⟨hname, hend⟩, hqualified⟩ := h
  have himplied : o.group = "" → impliedGroup o.kind = "" := fun hg => if_neg (hqualified hg)
  have hfirst : '/' ∉ o.groupKind.display.toList := by
    rw [toList_display_groupKind]
    split <;> simp [hslash, hgroup]
  have hkind' : o.kind.toList ≠ [] := by simpa using hkind
  have hname' : o.name.toList ≠ [] := by simpa using hname
  -- the first mark cut at ends the kind and group; what follows depends on which parts are shown
  unfold parse?
  rw [toList_display, cut_append hfirst, toList_display_groupKind]
  by_cases hg : o.group = "" <;> by_cases hn : o.namespaceName = "" <;>
    simp [hg, hn, cut_append, cut_eq_none, hdot, hend, hnamespace, hkind', hname', himplied,
      ObjectRef.selecting, Reference.ofRef]

theorem resolve_selecting (r : Resolver) (hgroup : o.group ≠ "core") (hname : o.name ≠ "") :
    r.resolve o.selecting "" = .ok (r.place o) := by
  have hkind : o.selecting.groupKind = o.groupKind := by
    simp [Reference.groupKind, ObjectRef.selecting, Reference.ofRef, ObjectRef.groupKind, hgroup]
  apply Resolver.resolve_eq_ok_iff.mpr
  refine ⟨hname, ?_⟩
  rw [hkind]
  by_cases hn : o.namespaceName = "" <;>
    simp [Resolver.place, ObjectRef.selecting, Reference.ofRef, ObjectRef.ofKind, ObjectRef.groupKind, hn]

end Selector

/-- The resource is outside namespaces by no more than a definition of the snapshot, so that one who does
not know the definition looks for it in the default namespace. -/
structure Snapshot.OutsideByDefinition (s : Snapshot) (d : String) (o : ObjectRef) : Prop where
  namespaceName : o.namespaceName = ""
  defaultNamespace : d ≠ ""
  notBuiltIn : ¬ (Resolver.ofDefault d).isClusterScoped o.groupKind = true
  defined : s.DefinesOutside o.groupKind

theorem Model.place_ofDefault_eq_self_iff {s : Snapshot} {config : Config} {x : ObjectRef}
    (hx : (discover s config).graph.contains x = true) :
    (Resolver.ofDefault config.defaultNamespace).place x = x ↔
      ¬ s.OutsideByDefinition config.defaultNamespace x := by
  have hplaced := Resolver.place_eq_self_iff.mp (Graph.place_of_contains_build hx)
  rw [Snapshot.isClusterScoped_resolver_iff, Snapshot.defaultNamespace_resolver] at hplaced
  rw [Resolver.place_eq_self_iff]
  constructor
  · rintro hbuiltIn ⟨hnamespace, hdefault, hnot, _⟩
    exact (hbuiltIn hnamespace).elim hnot hdefault
  · intro hfound hnamespace
    by_contra hlost
    obtain ⟨hnot, hdefault⟩ := not_or.mp hlost
    rcases hplaced hnamespace with (hdefined | hbuiltIn) | hempty
    · exact hfound ⟨hnamespace, hdefault, hnot, hdefined⟩
    · exact hnot hbuiltIn
    · exact hdefault hempty

namespace View

variable {v : View} {n : NodePolicies}

theorem policiesFor?_eq_some_iff_eq_resource {id : ObjectRef} (h : v.policiesFor? n.resource = some n) :
    v.policiesFor? id = some n ↔ id = n.resource := by
  constructor
  · exact fun hid => (resource_of_policiesFor? hid).symm
  · rintro rfl
    exact h

theorem contains_of_policiesFor? {id : ObjectRef} (h : v.policiesFor? id = some n) :
    v.graph.contains id = true := by
  obtain ⟨node, hnode, _⟩ := policiesFor?_eq_some_iff.mp h
  exact Option.isSome_iff_exists.mpr ⟨node, hnode⟩

end View

namespace Invocation

theorem resolve_selecting {i : Invocation} {o : ObjectRef} (h : Selector.Writable o) :
    i.resolve o.selecting = .ok ((Resolver.ofDefault i.config.defaultNamespace).place o) := by
  rw [resolve, Selector.resolve_selecting _ h.group.2 h.name.1]
  rfl

theorem records_eq_singleton_iff {i : Invocation} {ref : Reference} {id : ObjectRef} {m : Model}
    {n : NodePolicies} (href : i.resource = some ref) (hid : i.resolve ref = .ok id) :
    i.records m = .ok [n] ↔ m.policiesFor? id = some n := by
  cases hfound : m.policiesFor? id <;> simp [records, href, hid, hfound, bind, Except.bind]

theorem run_eq_ok {i : Invocation} {contents : String → Option String} {ds : List Document}
    {ns : List NodePolicies} (hds : i.objects contents = .ok ds) (hns : i.records (i.model ds) = .ok ns) :
    i.run contents = .ok (i.format.print ⟨ns, (i.model ds).diagnostics⟩) := by
  rw [run, hds]
  simp only [bind, Except.bind, hns]

theorem selection_exact (i : Invocation) (ds : List Document) (n : NodePolicies)
    (hn : n ∈ (i.model ds).report.resources) (hw : Selector.Writable n.resource) :
    ∃ ref, Selector.parse? n.resource.display = some ref ∧
      let asked := { i with resource := some ref }
      let found := ¬ (Snapshot.ofObjects i.config.policyLabelKey ds).OutsideByDefinition
        i.config.defaultNamespace n.resource
      (asked.resolve ref = .ok n.resource ↔ found) ∧ (asked.records (asked.model ds) = .ok [n] ↔ found) ∧
        (found → ∀ contents, asked.objects contents = .ok ds →
          asked.run contents = .ok (i.format.print ⟨[n], (i.model ds).report.diagnostics⟩)) := by
  refine ⟨n.resource.selecting, Selector.parse?_display hw, ?_⟩
  intro asked found
  have hpolicies : (asked.model ds).policiesFor? n.resource = some n := View.mem_records_iff.mp hn
  have hfound : (Resolver.ofDefault i.config.defaultNamespace).place n.resource = n.resource ↔ found :=
    Model.place_ofDefault_eq_self_iff (View.contains_of_policiesFor? hpolicies)
  have hresolve : asked.resolve n.resource.selecting = _ := resolve_selecting hw
  have hrecords : asked.records (asked.model ds) = .ok [n] ↔ found :=
    (records_eq_singleton_iff rfl hresolve).trans
      ((View.policiesFor?_eq_some_iff_eq_resource hpolicies).trans hfound)
  refine ⟨?_, hrecords, ?_⟩
  · rw [hresolve, Except.ok.injEq]
    exact hfound
  · intro h contents hds
    exact run_eq_ok hds (hrecords.mpr h)

end Invocation

namespace Sample

def meshObjects : List Document :=
  [.object [("apiVersion", .string "apiextensions.k8s.io/v1"),
      ("kind", .string "CustomResourceDefinition"),
      ("metadata", .object [("name", .string "meshes.example.com")]),
      ("spec", .object [("group", .string "example.com"), ("names", .object [("kind", .string "Mesh")]),
        ("scope", .string "Cluster")])],
    .object [("apiVersion", .string "gateway.networking.k8s.io/v1"), ("kind", .string "HTTPRoute"),
      ("metadata", .object [("name", .string "r"), ("namespace", .string "default")]),
      ("spec", .object [("parentRefs", .array [.object [("group", .string "example.com"),
        ("kind", .string "Mesh"), ("name", .string "m")]])])]]

def run : Invocation := { files := ["manifests.yaml"] }

def meshId : ObjectRef := .ofKind ⟨"Mesh", "example.com"⟩ "" "m"

def meshRouteId : ObjectRef := .ofKind .httpRoute "default" "r"

end Sample

theorem route_is_found : ∃ n ∈ (Sample.run.model Sample.meshObjects).report.resources,
    n.resource = Sample.meshRouteId ∧ Selector.Writable n.resource ∧
      ∃ ref, Selector.parse? n.resource.display = some ref ∧
        { Sample.run with resource := some ref }.records (Sample.run.model Sample.meshObjects) = .ok [n] := by
  have hcontains : (Sample.run.model Sample.meshObjects).view.graph.contains Sample.meshRouteId = true := by
    decide +kernel
  obtain ⟨n, hpolicies⟩ := View.exists_policiesFor? hcontains
  have hid : n.resource = Sample.meshRouteId := View.resource_of_policiesFor? hpolicies
  have hn : n ∈ (Sample.run.model Sample.meshObjects).report.resources :=
    View.mem_records_iff.mpr (hid ▸ hpolicies)
  have hw : Selector.Writable n.resource := by
    rw [hid]
    constructor <;> decide +kernel
  have hfound : ¬ (Snapshot.ofObjects Sample.run.config.policyLabelKey Sample.meshObjects).OutsideByDefinition
      Sample.run.config.defaultNamespace n.resource := by
    rw [hid]
    exact fun h => absurd h.namespaceName (by decide +kernel)
  obtain ⟨ref, href, _, hrecords, _⟩ := Sample.run.selection_exact Sample.meshObjects n hn hw
  exact ⟨n, hn, hid, hw, ref, href, hrecords.mpr hfound⟩

theorem mesh_is_not_found :
    let m := Sample.run.model Sample.meshObjects
    Selector.Writable Sample.meshId ∧ (∃ n ∈ m.report.resources, n.resource = Sample.meshId) ∧
      ∃ ref, Selector.parse? Sample.meshId.display = some ref ∧
        { Sample.run with resource := some ref }.records m =
          .error (.notFound { Sample.meshId with namespaceName := "default" }) := by
  intro m
  have hw : Selector.Writable Sample.meshId := by constructor <;> decide +kernel
  refine ⟨hw, by decide +kernel, Sample.meshId.selecting, Selector.parse?_display hw, ?_⟩
  decide +kernel

end PolicyAttachment
