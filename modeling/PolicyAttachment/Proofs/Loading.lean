import PolicyAttachment.Proofs.Backends
import PolicyAttachment.Proofs.Observation
import PolicyAttachment.Proofs.Placement
import PolicyAttachment.Proofs.Reading

namespace PolicyAttachment

theorem DynamicObject.types_of_read {d : Document} {o : DynamicObject} (h : read d = .ok o) :
    o.types = TypeMeta.ofDocument? d := by
  unfold read at h
  cases hknown : Schema.dynamicObject.read d with
  | error e =>
    rw [hknown] at h
    cases h
  | ok known =>
    rw [hknown] at h
    cases h
    rfl

theorem TypeMeta.ofDocument?_eq_some_iff {d : Document} {types : TypeMeta} : ofDocument? d = some types ↔
    d.stringField? "apiVersion" = some types.apiVersion ∧ d.stringField? "kind" = some types.kind := by
  obtain ⟨apiVersion, kind⟩ := types
  rw [ofDocument?]
  cases d.stringField? "apiVersion" <;> cases d.stringField? "kind" <;> simp [bind, Option.bind]

theorem DynamicObject.states_iff_of_read {d : Document} {o : DynamicObject} (h : read d = .ok o) {k : GroupKind} :
    o.States k ↔ d.States k := by
  rw [States, types_of_read h]
  simp only [TypeMeta.ofDocument?_eq_some_iff, Document.stringField?_eq_some_iff]
  constructor
  · rintro ⟨types, ⟨hversion, hkind⟩, hk, hne, hgroup⟩
    exact ⟨⟨types.apiVersion, hversion, hgroup⟩, hk ▸ hkind, hne⟩
  · rintro ⟨⟨version, hversion, hgroup⟩, hkind, hne⟩
    exact ⟨⟨version, k.kind⟩, ⟨hversion, hkind⟩, rfl, hne, hgroup⟩

theorem DynamicObject.kind_of_read {d : Document} {o : DynamicObject} (h : read d = .ok o) :
    o.kind = d.groupKind? := by
  apply Option.ext
  intro k
  rw [kind_eq_some_iff, states_iff_of_read h, Document.states_iff]

theorem Entry.Reads.kind_eq {d : Document} {k : GroupKind} {o : DynamicObject} (h : Reads d (.other k o)) :
    o.kind = some k := by
  cases h with
  | other hk _ ho => rw [DynamicObject.kind_of_read ho, Document.states_iff.mp hk]

theorem Metadata.groupKind_of_ref? {m : Metadata} {k : GroupKind} {ref : ObjectRef}
    (h : m.ref? k = some ref) : ref.groupKind = k := by
  obtain ⟨name, _, rfl⟩ := Option.map_eq_some_iff.mp h
  exact ObjectRef.groupKind_ofKind k m.namespaceName name

theorem DynamicObject.kind_of_ref? {o : DynamicObject} {ref : ObjectRef} (h : o.ref? = some ref) :
    o.kind = some ref.groupKind := by
  obtain ⟨k, hk, href⟩ := Option.bind_eq_some_iff.mp h
  rw [hk, Metadata.groupKind_of_ref? href]

theorem Reference.group_groupKind_ne_core (t : Reference) : t.groupKind.group ≠ "core" := by
  unfold groupKind
  split
  · simp
  · rename_i g _
    by_cases hcore : g = "core" <;> simp [hcore]

theorem Resolver.groupKind_of_resolve {r : Resolver} {t : Reference} {context : String} {o : ObjectRef}
    (h : r.resolve t context = .ok o) : o.groupKind = t.groupKind := by
  obtain ⟨_, rfl⟩ := resolve_eq_ok_iff.mp h
  exact ObjectRef.groupKind_ofKind _ _ _

theorem Reference.statedKind_eq_iff {t : Reference} {k : GroupKind} (ht : t.group.isSome = true)
    (hk : k.group ≠ "core") :
    Snapshot.statedKind t = k ↔ t.groupKind = k ∧ t.group ≠ some "core" := by
  obtain ⟨g, hg⟩ := Option.isSome_iff_exists.mp ht
  obtain ⟨kind, group⟩ := k
  simp only [Snapshot.statedKind, groupKind, hg, Option.getD_some, GroupKind.mk.injEq, ne_eq,
    Option.some.injEq]
  -- a stated group and the group referred to differ only where the stated one is the alias
  by_cases hcore : g = "core"
  · subst hcore
    simp [Ne.symm hk]
  · simp [hcore]

theorem RouteSpec.isSome_group_of_mem_backendRefs {spec : RouteSpec} {t : Reference}
    (ht : t ∈ spec.backendRefs) : t.group.isSome = true := by
  rw [backendRefs_eq, List.mem_map] at ht
  obtain ⟨_, _, rfl⟩ := ht
  rfl

namespace Snapshot

theorem mem_backendKinds_iff {routes : List HttpRoute} {k : GroupKind} : k ∈ backendKinds routes ↔
    k = .service ∨ ∃ h ∈ routes, ∃ t ∈ h.spec.backendRefs, statedKind t = k := by
  simp [backendKinds]

theorem mem_backends_ofEntries_iff {labelKey : String} {es : List Entry} {o : DynamicObject} :
    o ∈ (ofEntries labelKey es).backends ↔ ∃ k, .other k o ∈ es ∧
      k ∉ policyKinds labelKey (ofEntries labelKey es).definitions ∧
        k ∈ backendKinds (ofEntries labelKey es).routes := by
  simp [ofEntries, Entry.other?_eq_some_iff]

theorem mem_policies_ofEntries_iff {labelKey : String} {es : List Entry} {o : DynamicObject} :
    o ∈ (ofEntries labelKey es).policies ↔ ∃ k, .other k o ∈ es ∧
      k ∈ policyKinds labelKey (ofEntries labelKey es).definitions := by
  simp [ofEntries, Entry.other?_eq_some_iff]

variable {labelKey : String} {ds : List Document} {k : GroupKind} {o : DynamicObject}

/-- An object of the manifest has this kind and reads as `o`. The kind has no type of its own, nor does a
definition make it a kind of policy. -/
structure Untyped (labelKey : String) (ds : List Document) (k : GroupKind) (o : DynamicObject) : Prop where
  stated : ∃ d ∈ ds, d.groupKind? = some k ∧ DynamicObject.read d = .ok o
  kind : k ∉ GroupKind.typed
  unlabelled : k ∉ policyKinds labelKey (ofObjects labelKey ds).definitions

def LeadsTo (s : Snapshot) (r : Resolver) (t : Reference) (x : ObjectRef) : Prop :=
  ∃ h ∈ s.routes, ∃ own ∈ h.ref?, t ∈ h.spec.backendRefs ∧
    r.resolve t (r.place own).namespaceName = .ok x

instance (s : Snapshot) (r : Resolver) (t : Reference) (x : ObjectRef) : Decidable (s.LeadsTo r t x) :=
  inferInstanceAs (Decidable (∃ h ∈ s.routes, ∃ own ∈ h.ref?, t ∈ h.spec.backendRefs ∧
    r.resolve t (r.place own).namespaceName = .ok x))

def NamesBackendKind (s : Snapshot) (k : GroupKind) : Prop :=
  k = .service ∨ ∃ h ∈ s.routes, ∃ t ∈ h.spec.backendRefs, t.groupKind = k ∧ t.group ≠ some "core"

instance (s : Snapshot) (k : GroupKind) : Decidable (s.NamesBackendKind k) :=
  inferInstanceAs (Decidable (k = .service ∨
    ∃ h ∈ s.routes, ∃ t ∈ h.spec.backendRefs, t.groupKind = k ∧ t.group ≠ some "core"))

theorem Untyped.kind_eq (h : Untyped labelKey ds k o) : o.kind = some k := by
  obtain ⟨d, _, hk, ho⟩ := h.stated
  rw [DynamicObject.kind_of_read ho, hk]

theorem kind_of_mem_backends (h : o ∈ (ofObjects labelKey ds).backends) :
    ∃ k, o.kind = some k ∧ k ∈ backendKinds (ofObjects labelKey ds).routes := by
  obtain ⟨k, he, _, hk⟩ := mem_backends_ofEntries_iff.mp h
  obtain ⟨d, _, hd⟩ := List.mem_map.mp he
  exact ⟨k, (Entry.reads_iff.mpr hd).kind_eq, hk⟩

theorem Untyped.mem_backends_iff (h : Untyped labelKey ds k o) :
    o ∈ (ofObjects labelKey ds).backends ↔ k ∈ backendKinds (ofObjects labelKey ds).routes := by
  constructor
  · intro ho
    obtain ⟨k', hk', hnamed⟩ := kind_of_mem_backends ho
    obtain rfl := Option.some.inj (h.kind_eq.symm.trans hk')
    exact hnamed
  · intro hk
    obtain ⟨d, hd, hkind, ho⟩ := h.stated
    apply mem_backends_ofEntries_iff.mpr
    refine ⟨k, ?_, h.unlabelled, hk⟩
    have hother := Entry.ofDocument_eq_other_iff.mpr ⟨Document.states_iff.mpr hkind, h.kind, ho⟩
    exact List.mem_map.mpr ⟨d, hd, hother⟩

theorem mem_backendKinds_iff_namesBackendKind {s : Snapshot} (hk : k.group ≠ "core") :
    k ∈ backendKinds s.routes ↔ s.NamesBackendKind k := by
  rw [mem_backendKinds_iff, NamesBackendKind]
  apply or_congr_right
  refine exists_congr fun h => and_congr_right fun _ => exists_congr fun t => and_congr_right fun ht => ?_
  exact Reference.statedKind_eq_iff (RouteSpec.isSome_group_of_mem_backendRefs ht) hk

theorem Observes.exists_backend {s : Snapshot} {r : Resolver} {x : ObjectRef} {kind : NodeKind}
    {spec : Option Document} (h : s.Observes r x kind spec) (hx : x.groupKind ∉ GroupKind.typed) :
    ∃ o ∈ s.backends, o.kind = some x.groupKind := by
  obtain ⟨hclass, hgateway, hroute, hnamespace, _⟩ := GroupKind.not_mem_typed.mp hx
  cases h with
  | ofNamespace _ href =>
    exact absurd ((groupKind_place r _).trans (Metadata.groupKind_of_ref? href)) hnamespace
  | ofClass _ href => exact absurd ((groupKind_place r _).trans (Metadata.groupKind_of_ref? href)) hclass
  | ofGateway _ href => exact absurd ((groupKind_place r _).trans (Metadata.groupKind_of_ref? href)) hgateway
  | ofRoute _ href => exact absurd ((groupKind_place r _).trans (Metadata.groupKind_of_ref? href)) hroute
  | ofBackend ho href => exact ⟨_, ho, by rw [groupKind_place, DynamicObject.kind_of_ref? href]⟩

theorem loaded_backend_exact (config : Config) {ref : ObjectRef} {t : Reference}
    (ho : Untyped config.policyLabelKey ds k o) (href : o.ref? = some ref)
    (ht : (ofObjects config.policyLabelKey ds).LeadsTo
      ((ofObjects config.policyLabelKey ds).resolver config.defaultNamespace) t
      (((ofObjects config.policyLabelKey ds).resolver config.defaultNamespace).place ref)) :
    let s := ofObjects config.policyLabelKey ds
    let r := s.resolver config.defaultNamespace
    (o ∈ s.backends ↔ s.NamesBackendKind k) ∧ (r.place ref ∈ s.observed r ↔ s.NamesBackendKind k) := by
  intro s r
  obtain rfl : ref.groupKind = k :=
    Option.some.inj ((DynamicObject.kind_of_ref? href).symm.trans ho.kind_eq)
  obtain ⟨_, _, _, _, _, hresolve⟩ := ht
  have hkind : ref.groupKind = t.groupKind := by
    rw [← Resolver.groupKind_of_resolve hresolve, groupKind_place]
  have hkept : o ∈ s.backends ↔ s.NamesBackendKind ref.groupKind :=
    ho.mem_backends_iff.trans
      (mem_backendKinds_iff_namesBackendKind (hkind ▸ t.group_groupKind_ne_core))
  refine ⟨hkept, ?_⟩
  constructor
  · intro hobserved
    obtain ⟨kind, spec, hobs⟩ := mem_observed_iff.mp hobserved
    have hplaced : (r.place ref).groupKind = ref.groupKind := groupKind_place r ref
    -- the object that was observed may be another one, but it is of the same kind
    obtain ⟨o', ho', hk'⟩ := hobs.exists_backend (hplaced ▸ ho.kind)
    obtain ⟨k', hk'', hnamed⟩ := kind_of_mem_backends ho'
    obtain rfl := Option.some.inj (hk''.symm.trans (hplaced ▸ hk'))
    exact hkept.mp (ho.mem_backends_iff.mpr hnamed)
  · intro hnamed
    exact mem_observed_iff.mpr ⟨_, _, .ofBackend (hkept.mpr hnamed) href⟩

end Snapshot

namespace Sample

def backendObjects (group version kind : String) : List Document :=
  [.object [("apiVersion", .string "gateway.networking.k8s.io/v1"), ("kind", .string "HTTPRoute"),
      ("metadata", .object [("name", .string "r"), ("namespace", .string "default")]),
      ("spec", .object [("rules", .array [.object [("backendRefs", .array [.object
        [("group", .string group), ("kind", .string kind), ("name", .string "b")]])]])])],
    .object [("apiVersion", .string version), ("kind", .string kind),
      ("metadata", .object [("name", .string "b"), ("namespace", .string "default")])]]

def backendObject (version kind : String) : DynamicObject where
  types := some ⟨version, kind⟩
  metadata := ⟨some "b", "default", .empty⟩
  spec := none

def importKind : GroupKind := ⟨"ServiceImport", "multicluster.x-k8s.io"⟩

def importObjects : List Document :=
  backendObjects "multicluster.x-k8s.io" "multicluster.x-k8s.io/v1alpha1" "ServiceImport"

def serviceImport : DynamicObject := backendObject "multicluster.x-k8s.io/v1alpha1" "ServiceImport"

def configMapKind : GroupKind := ⟨"ConfigMap", ""⟩

def configMapObjects : List Document := backendObjects "core" "v1" "ConfigMap"

def configMap : DynamicObject := backendObject "v1" "ConfigMap"

end Sample

theorem import_is_backend :
    let s := Snapshot.ofObjects standardLabelKey Sample.importObjects
    let r := s.resolver "default"
    let ref := ObjectRef.ofKind Sample.importKind "default" "b"
    Snapshot.Untyped standardLabelKey Sample.importObjects Sample.importKind Sample.serviceImport ∧
      Sample.serviceImport.ref? = some ref ∧ s.LeadsTo r (.ofKind Sample.importKind "b") (r.place ref) ∧
      Sample.serviceImport ∈ s.backends ∧ r.place ref ∈ s.observed r := by
  intro s r ref
  have huntyped : Snapshot.Untyped standardLabelKey Sample.importObjects Sample.importKind
      Sample.serviceImport := {
    stated := ⟨_, List.mem_cons_of_mem _ List.mem_cons_self, by decide +kernel, by rfl⟩
    kind := by decide
    unlabelled := by decide +kernel }
  have href : Sample.serviceImport.ref? = some ref := rfl
  have hleads : s.LeadsTo r (.ofKind Sample.importKind "b") (r.place ref) := by decide +kernel
  have hnamed : s.NamesBackendKind Sample.importKind := by decide +kernel
  obtain ⟨hkept, hobserved⟩ := Snapshot.loaded_backend_exact {} huntyped href hleads
  exact ⟨huntyped, href, hleads, hkept.mpr hnamed, hobserved.mpr hnamed⟩

theorem config_map_is_not_backend :
    let s := Snapshot.ofObjects standardLabelKey Sample.configMapObjects
    let r := s.resolver "default"
    let ref := ObjectRef.ofKind Sample.configMapKind "default" "b"
    Snapshot.Untyped standardLabelKey Sample.configMapObjects Sample.configMapKind Sample.configMap ∧
      Sample.configMap.ref? = some ref ∧ (∃ t, s.LeadsTo r t (r.place ref)) ∧
      Sample.configMap ∉ s.backends ∧ r.place ref ∉ s.observed r := by
  intro s r ref
  have huntyped : Snapshot.Untyped standardLabelKey Sample.configMapObjects Sample.configMapKind
      Sample.configMap := {
    stated := ⟨_, List.mem_cons_of_mem _ List.mem_cons_self, by decide +kernel, by rfl⟩
    kind := by decide
    unlabelled := by decide +kernel }
  have hleads : s.LeadsTo r { Reference.ofKind Sample.configMapKind "b" with group := some "core" }
      (r.place ref) := by
    decide +kernel
  exact ⟨huntyped, rfl, ⟨_, hleads⟩, by decide +kernel, by decide +kernel⟩

end PolicyAttachment
