import PolicyAttachment.Proofs.Conservation
import PolicyAttachment.Proofs.Effective

namespace PolicyAttachment

def Snapshot.insertPolicy (s : Snapshot) (i : Nat) (o : DynamicObject) : Snapshot :=
  { s with policies := s.policies.take i ++ o :: s.policies.drop i }

theorem exists_filterMap_insert {α β : Type} (f : α → Option β) (xs : List α) (i : Nat) (x : α) :
    ∃ before after, xs.filterMap f = before ++ after ∧
      (xs.take i ++ x :: xs.drop i).filterMap f = before ++ (f x).toList ++ after := by
  refine ⟨(xs.take i).filterMap f, (xs.drop i).filterMap f, ?_, ?_⟩
  · rw [← List.filterMap_append, List.take_append_drop]
  · rw [List.filterMap_append, List.filterMap_cons]
    cases f x <;> simp

theorem Attachments.filter_kind_on_insert {a a' : Attachments} {p : PolicyInstance}
    {before after : List PolicyInstance} (ha : a.instances = before ++ after)
    (ha' : a'.instances = before ++ p :: after) {c : Classification} {n : ObjectRef} {k : GroupKind}
    (hp : p.kind = k → p.target = n → p.classification ≠ c) :
    (a'.on c n).filter (fun q => q.kind = k) = (a.on c n).filter fun q => q.kind = k := by
  have hdrop : (decide (p.kind = k) && (decide (p.target = n) && decide (p.classification = c))) = false := by
    simpa using hp
  rw [on, on, filter_inOrder, filter_inOrder, List.filter_filter, List.filter_filter, ha, ha',
    List.filter_append, List.filter_append, List.filter_cons_of_neg (by simp [hdrop])]

namespace Model

def binding (s : Snapshot) (config : Config) (o : DynamicObject) : Binding :=
  .ofObject (discover s config).graph (discover s config).descriptors (s.resolver config.defaultNamespace) o

/-- Where a policy of the model may count: a direct one on its target only, an inherited one for all whose chain
holds its target. -/
def Reaches (m : Model) (p : PolicyInstance) (n : ObjectRef) (k : GroupKind) : Prop :=
  k = p.kind ∧ (m.descriptors.get? k = some .direct ∧ n = p.target ∨
    m.descriptors.get? k = some .inherited ∧ p.target ∈ m.view.ancestors n)

section

variable (s : Snapshot) (config : Config) (i : Nat) (o : DynamicObject)

theorem exists_instances_insertPolicy : ∃ before after,
    (discover s config).attachments.instances = before ++ after ∧
      (discover (s.insertPolicy i o) config).attachments.instances =
        before ++ (binding s config o).instance?.toList ++ after := by
  obtain ⟨before, after, hs, hs'⟩ :=
    exists_filterMap_insert (fun o => (binding s config o).instance?) s.policies i o
  exact ⟨before, after, (Attachments.instances_ofBindings _ _ _ _).trans hs,
    (Attachments.instances_ofBindings _ _ _ _).trans hs'⟩

theorem exists_diagnostics_insertPolicy : ∃ before after,
    (discover s config).diagnostics = before ++ after ∧
      (discover (s.insertPolicy i o) config).diagnostics =
        before ++ (binding s config o).problem?.toList ++ after := by
  obtain ⟨before, after, hs, hs'⟩ :=
    exists_filterMap_insert (fun o => (binding s config o).problem?) s.policies i o
  let earlier := s.rejected ++ Descriptors.problems config.policyLabelKey s.definitions ++
    Graph.problems s (s.resolver config.defaultNamespace)
  let cycles := (discover s config).view.cyclic.map fun id => (⟨id, .ancestorCycle id⟩ : Diagnostic)
  have hproblems : (discover s config).diagnostics =
      earlier ++ (s.policies.filterMap fun o => (binding s config o).problem?) ++ cycles :=
    congrArg (earlier ++ · ++ cycles) (Attachments.problems_bindings _ _ _ _)
  have hproblems' : (discover (s.insertPolicy i o) config).diagnostics =
      earlier ++ ((s.insertPolicy i o).policies.filterMap fun o => (binding s config o).problem?) ++ cycles :=
    congrArg (earlier ++ · ++ cycles) (Attachments.problems_bindings _ _ _ _)
  refine ⟨earlier ++ before, after ++ cycles, ?_, ?_⟩
  · rw [hproblems, hs]
    simp only [List.append_assoc]
  · rw [hproblems', Snapshot.insertPolicy, hs']
    simp only [List.append_assoc]

variable {s config o} {p : PolicyInstance} {n : ObjectRef} {k : GroupKind}

theorem filter_kind_on_insertPolicy (hp : binding s config o = .attached p) {c : Classification}
    (hnot : p.kind = k → p.target = n → p.classification ≠ c) :
    ((discover (s.insertPolicy i o) config).attachments.on c n).filter (fun q => q.kind = k) =
      ((discover s config).attachments.on c n).filter fun q => q.kind = k := by
  obtain ⟨before, after, hs, hs'⟩ := exists_instances_insertPolicy s config i o
  rw [hp, List.append_assoc] at hs'
  exact Attachments.filter_kind_on_insert hs hs' hnot

theorem get?_effectiveAlong_insertPolicy (hp : binding s config o = .attached p)
    (hnot : ¬ (discover s config).Reaches p n k) {chain : List ObjectRef}
    (hchain : chain ⊆ (discover s config).view.ancestors n) :
    ((discover (s.insertPolicy i o) config).view.effectiveAlong n chain).get? k =
      ((discover s config).view.effectiveAlong n chain).get? k := by
  have hdescriptor := Binding.descriptor_of_attached hp
  have hdirect : ((discover (s.insertPolicy i o) config).view.direct n).filter (fun q => q.kind = k) =
      ((discover s config).view.direct n).filter fun q => q.kind = k := by
    apply filter_kind_on_insertPolicy i hp
    rintro rfl rfl hc
    exact hnot ⟨rfl, .inl ⟨hc ▸ hdescriptor, rfl⟩⟩
  have hinherited : ((discover (s.insertPolicy i o) config).view.inheritedAlong chain).filter
      (fun q => q.kind = k) = ((discover s config).view.inheritedAlong chain).filter fun q => q.kind = k := by
    rw [View.inheritedAlong, View.inheritedAlong, List.filter_flatMap, List.filter_flatMap]
    apply List.flatMap_congr
    intro a ha
    apply filter_kind_on_insertPolicy i hp
    rintro rfl rfl hc
    exact hnot ⟨rfl, .inr ⟨hc ▸ hdescriptor, hchain ha⟩⟩
  rw [View.get?_effectiveAlong, View.get?_effectiveAlong, hdirect, hinherited]

end

theorem policy_affects_only (s : Snapshot) (config : Config) (i : Nat) (o : DynamicObject) :
    let m := discover s config
    let m' := discover (s.insertPolicy i o) config
    m'.graph = m.graph ∧ m'.descriptors = m.descriptors ∧
    (∃ before after, m.diagnostics = before ++ after ∧
      m'.diagnostics = before ++ (binding s config o).problem?.toList ++ after) ∧
    ((∀ p, binding s config o ≠ .attached p) → m'.view = m.view) ∧
    ∀ p, binding s config o = .attached p → m'.diagnostics = m.diagnostics ∧
      ∀ n k, ¬ m.Reaches p n k → (m'.view.effective n).get? k = (m.view.effective n).get? k ∧
        ∀ parent, (m'.view.effectiveVia? n parent).map (·.get? k) =
          (m.view.effectiveVia? n parent).map (·.get? k) := by
  intro m m'
  have hdiagnostics := exists_diagnostics_insertPolicy s config i o
  refine ⟨rfl, rfl, hdiagnostics, ?_, ?_⟩
  · intro hp
    have hnone : (binding s config o).instance? = none := by
      apply Option.eq_none_iff_forall_ne_some.mpr
      intro p hsome
      exact hp p (Binding.instance?_eq_some_iff.mp hsome)
    obtain ⟨before, after, hs, hs'⟩ := exists_instances_insertPolicy s config i o
    rw [hnone, Option.toList_none, List.append_nil, ← hs] at hs'
    have hattachments : m'.attachments = m.attachments := congrArg Attachments.mk hs'
    exact congrArg (View.mk m.graph · config.namespaceAncestors) hattachments
  · intro p hp
    obtain ⟨before, after, hs, hs'⟩ := hdiagnostics
    have hsame : m'.diagnostics = m.diagnostics := by
      rw [hs, hs', hp]
      exact congrArg (· ++ after) (List.append_nil before)
    refine ⟨hsame, fun n k hnot => ⟨?_, fun parent => ?_⟩⟩
    · exact get?_effectiveAlong_insertPolicy i hp hnot (List.Subset.refl _)
    · by_cases hparent : parent ∈ m.graph.parents n
      · have hvia : (m'.view.effectiveAlong n (m.view.chainVia n parent)).get? k =
            (m.view.effectiveAlong n (m.view.chainVia n parent)).get? k :=
          get?_effectiveAlong_insertPolicy i hp hnot
            (View.ancestryThrough_subset (wellLinked_discover s config) n (· = parent))
        have hsome : m.view.effectiveVia? n parent =
            some (m.view.effectiveAlong n (m.view.chainVia n parent)) := if_pos hparent
        have hsome' : m'.view.effectiveVia? n parent =
            some (m'.view.effectiveAlong n (m.view.chainVia n parent)) := if_pos hparent
        rw [hsome, hsome', Option.map_some, Option.map_some, hvia]
      · have hnone : m.view.effectiveVia? n parent = none := if_neg hparent
        have hnone' : m'.view.effectiveVia? n parent = none := if_neg hparent
        rw [hnone, hnone']

end Model

namespace Sample

def thirdTimeout : PolicyInstance :=
  ⟨.ofKind timeoutKind "ns" "c", timeoutKind, gatewayId, .direct (.ofList [("seconds", .string "3")])⟩

end Sample

theorem gateway_policy_leaves_route_alone :
    let m := Model.discover Sample.contested {}
    let m' := Model.discover (Sample.contested.insertPolicy 1 (Sample.timeoutPolicy "c" "3")) {}
    Model.binding Sample.contested {} (Sample.timeoutPolicy "c" "3") = .attached Sample.thirdTimeout ∧
      Sample.thirdTimeout.target ∈ m.view.ancestors (Sample.routeId "a") ∧
      m'.diagnostics = m.diagnostics ∧
      (m'.view.effective (Sample.routeId "a")).get? Sample.timeoutKind =
        (m.view.effective (Sample.routeId "a")).get? Sample.timeoutKind := by
  intro m m'
  have hattached : Model.binding Sample.contested {} (Sample.timeoutPolicy "c" "3") =
      .attached Sample.thirdTimeout := by decide +kernel
  have hlink : (⟨Sample.gatewayId, Sample.routeId "a"⟩ : Link) ∈ m.graph.links.keys := by decide +kernel
  have hg : m.view.graph.WellLinked := Model.wellLinked_discover Sample.contested {}
  have habove : Sample.thirdTimeout.target ∈ m.view.ancestors (Sample.routeId "a") :=
    (View.mem_ancestors_iff hg rfl).mpr (.inr (.single (Graph.mem_parents_iff.mpr hlink)))
  have hnot : ¬ m.Reaches Sample.thirdTimeout (Sample.routeId "a") Sample.timeoutKind := by
    have hdirect : m.descriptors.get? Sample.timeoutKind = some .direct := by decide +kernel
    rintro ⟨_, ⟨_, htarget⟩ | ⟨hinherited, _⟩⟩
    · exact absurd htarget (by decide)
    · simp [hdirect] at hinherited
  obtain ⟨_, _, _, _, hbound⟩ :=
    Model.policy_affects_only Sample.contested {} 1 (Sample.timeoutPolicy "c" "3")
  obtain ⟨hdiagnostics, hanswers⟩ := hbound Sample.thirdTimeout hattached
  exact ⟨hattached, habove, hdiagnostics, (hanswers _ _ hnot).1⟩

end PolicyAttachment
