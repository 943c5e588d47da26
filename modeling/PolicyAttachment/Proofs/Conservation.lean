import PolicyAttachment.Proofs.Cycles
import PolicyAttachment.Proofs.TargetIndex

/-!
What becomes of the policies of a snapshot. Each policy of a kind that is understood is attached once or
reported once, an attached one is stored under its target and classification only, and nothing else is.
-/

namespace PolicyAttachment

namespace Binding

/-- The policy `id`, of kind `k` and classified as `c`, is attached to the target that it states. -/
structure Fits (g : Graph) (r : Resolver) (o : DynamicObject) (k : GroupKind) (id : ObjectRef)
    (c : Classification) (p : PolicyInstance) : Prop where
  id_eq : p.id = id
  kind_eq : p.kind = k
  classification_eq : p.classification = c
  target : ∃ target, o.Targets target ∧ r.resolve target id.namespaceName = .ok p.target
  contains : g.contains p.target = true

theorem fits_of_attached {g : Graph} {ds : Descriptors} {r : Resolver} {o : DynamicObject} {k : GroupKind}
    {id : ObjectRef} {c : Classification} {p : PolicyInstance} (hnames : o.Names r k id)
    (hk : ds.get? k = some c) (h : ofObject g ds r o = .attached p) : Fits g r o k id c p := by
  obtain ⟨ref, href, rfl, rfl⟩ := DynamicObject.names_iff.mp hnames
  obtain ⟨ref', target, c', href', htarget, hk', hid, hkind, hn, hmem, hbody⟩ := ofObject_eq_attached_iff.mp h
  obtain rfl := Option.some.inj (href.symm.trans href')
  obtain rfl := Option.some.inj (hk.symm.trans hk')
  exact
    { id_eq := hid
      kind_eq := hkind
      classification_eq := PolicyBody.classification_of_ofSpec? hbody
      target := ⟨target, DynamicObject.targetRef?_eq_some_iff.mp htarget, hn⟩
      contains := hmem }

end Binding

namespace Attachments

variable (a : Attachments)

theorem on_perm (c : Classification) (n : ObjectRef) :
    (a.on c n).Perm (a.instances.filter fun p => p.target = n && p.classification = c) :=
  List.mergeSort_perm _ _

theorem mem_on_iff {c : Classification} {n : ObjectRef} {p : PolicyInstance} :
    p ∈ a.on c n ↔ p ∈ a.instances ∧ p.target = n ∧ p.classification = c := by
  simp [(a.on_perm c n).mem_iff]

theorem pairwise_on (c : Classification) (n : ObjectRef) :
    (a.on c n).Pairwise fun p q => (compare p.id q.id).isLE = true := by
  apply List.pairwise_mergeSort
  · intro p q q' h h'
    exact Std.TransCmp.isLE_trans h h'
  · intro p q
    exact Sorting.isLE_total p.id q.id

theorem attached_perm (n : ObjectRef) :
    (a.attached n).Perm (a.instances.filter fun p => p.target = n) := by
  have hsplit := TargetIndex.filter_classification_perm (a.instances.filter fun p => p.target = n)
  simp only [List.filter_filter, Bool.and_comm (decide (PolicyInstance.classification _ = _))] at hsplit
  exact ((a.on_perm .direct n).append (a.on_perm .inherited n)).trans hsplit

theorem mem_targets_iff {n : ObjectRef} : n ∈ a.targets ↔ ∃ p ∈ a.instances, p.target = n := by
  simp [targets, SortedMap.mem_keys_ofList]

theorem instances_ofBindings (g : Graph) (ds : Descriptors) (r : Resolver) (os : List DynamicObject) :
    (ofBindings (bindings g ds r os)).instances = os.filterMap fun o => (Binding.ofObject g ds r o).instance? :=
  List.filterMap_map

theorem problems_bindings (g : Graph) (ds : Descriptors) (r : Resolver) (os : List DynamicObject) :
    problems (bindings g ds r os) = os.filterMap fun o => (Binding.ofObject g ds r o).problem? :=
  List.filterMap_map

end Attachments

namespace Model

section

variable {s : Snapshot} {config : Config} {p : PolicyInstance}

theorem exists_attached_of_mem_instances (hp : p ∈ (discover s config).attachments.instances) :
    ∃ o, Binding.ofObject (discover s config).graph (discover s config).descriptors
      (s.resolver config.defaultNamespace) o = .attached p := by
  have hp : p ∈ s.policies.filterMap fun o => (Binding.ofObject _ _ _ o).instance? :=
    Attachments.instances_ofBindings _ _ _ s.policies ▸ hp
  obtain ⟨o, _, ho⟩ := List.mem_filterMap.mp hp
  exact ⟨o, Binding.instance?_eq_some_iff.mp ho⟩

theorem contains_target (hp : p ∈ (discover s config).attachments.instances) :
    (discover s config).graph.contains p.target = true := by
  obtain ⟨o, ho⟩ := exists_attached_of_mem_instances hp
  obtain ⟨_, _, _, _, _, _, _, _, _, hmem, _⟩ := Binding.ofObject_eq_attached_iff.mp ho
  exact hmem

end

theorem policies_conserved (s : Snapshot) (config : Config) :
    let m := discover s config
    let r := s.resolver config.defaultNamespace
    let before := s.rejected ++ Descriptors.problems config.policyLabelKey s.definitions ++ Graph.problems s r
    let x := TargetIndex.build m.graph m.descriptors r before s.policies
    let outcome := Binding.ofObject m.graph m.descriptors r
    let attached := s.policies.filterMap fun o => (outcome o).instance?
    (∀ o ∈ s.policies,
      (outcome o = .ignored ∧ ∀ k id c, o.Names r k id → m.descriptors.get? k = some c → c = .unknown) ∨
      ∃ k id c, o.Names r k id ∧ m.descriptors.get? k = some c ∧ c ≠ .unknown ∧
        ((∃ p, outcome o = .attached p ∧ Binding.Fits m.graph r o k id c p) ∨
          ∃ e, outcome o = .refused ⟨id, e⟩ ∧ Binding.Obstacle m.graph r o id e)) ∧
    (∀ c n, ((x.of c).on n).Perm (attached.filter fun p => p.target = n && p.classification = c) ∧
      ((x.of c).on n).Pairwise (fun p q => (compare p.id q.id).isLE = true) ∧
      (n ∈ (x.of c).keys ↔ ∃ p ∈ attached, p.classification = c ∧ p.target = n) ∧
      ∀ p ∈ (x.of c).on n, p.target = n ∧ p.classification = c ∧ p.kind = p.id.groupKind ∧
        m.graph.contains n = true) ∧
    (x.direct.values ++ x.inherited.values).flatten.Perm attached ∧
    x.size = s.policies.countP (fun o => (outcome o).instance?.isSome) ∧
    x.problems = before ++ s.policies.filterMap (fun o => (outcome o).problem?) ∧
    (∀ c n, m.attachments.on c n = (x.of c).on n) ∧ m.attachments.size = x.size ∧
    m.diagnostics = x.problems ++ m.view.cyclic.map fun id => ⟨id, .ancestorCycle id⟩ := by
  intro m r before x outcome attached
  have hinstances : m.attachments.instances = attached :=
    Attachments.instances_ofBindings m.graph m.descriptors r s.policies
  have hon : ∀ c n, (x.of c).on n = m.attachments.on c n := TargetIndex.on_build _ _ _ _ _
  have hsize : x.size = m.attachments.size := TargetIndex.size_build _ _ _ _ _
  have hproblems : x.problems = before ++ Attachments.problems _ := TargetIndex.problems_build _ _ _ _ _
  refine ⟨?_, ?_, ?_, ?_, ?_, fun c n => (hon c n).symm, hsize.symm, ?_⟩
  · intro o _
    rcases Binding.ofObject_spec m.graph m.descriptors r o with hignored | ⟨k, id, c, hnames, hk, hc, h⟩
    · exact .inl hignored
    · refine .inr ⟨k, id, c, hnames, hk, hc, h.imp_left ?_⟩
      rintro ⟨p, hp⟩
      exact ⟨p, hp, Binding.fits_of_attached hnames hk hp⟩
  · intro c n
    rw [hon, ← hinstances]
    refine ⟨m.attachments.on_perm c n, m.attachments.pairwise_on c n, TargetIndex.mem_keys_build_iff _ _ _ _ _,
      fun p hp => ?_⟩
    obtain ⟨hmem, rfl, hc⟩ := m.attachments.mem_on_iff.mp hp
    obtain ⟨o, ho⟩ := exists_attached_of_mem_instances hmem
    exact ⟨rfl, hc, Binding.kind_of_attached ho, contains_target hmem⟩
  · rw [← hinstances]
    exact TargetIndex.values_build_perm _ _ _ _ _
  · rw [hsize, Attachments.size, hinstances, List.length_filterMap_eq_countP]
  · rw [hproblems, Attachments.problems_bindings]
  · rw [hproblems]
    rfl

end Model

end PolicyAttachment
