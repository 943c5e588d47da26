import PolicyAttachment.Proofs.ParentView

namespace PolicyAttachment

open PolicyAttachment.Graph

def Overlay.Sets (o : Overlay) (field : String) : Prop := field ∈ o.defaults.keys ∨ field ∈ o.overrides.keys

theorem mem_keys_lastWins {part : Overlay → Fields} {chain : List Overlay} {field : String} :
    field ∈ (lastWins part chain).keys ↔ ∃ o ∈ chain, field ∈ (part o).keys := by
  have hfrom : ∀ fs : Fields, field ∈ (chain.foldl (fun fs o => fs.insertMany (part o).entries) fs).keys ↔
      field ∈ fs.keys ∨ ∃ o ∈ chain, field ∈ (part o).keys := by
    induction chain with
    | nil => simp
    | cons o chain ih =>
      intro fs
      rw [List.foldl_cons, ih, SortedMap.mem_keys_insertMany, List.exists_mem_cons_iff, or_assoc]
      simp [SortedMap.keys]
  rw [lastWins, hfrom]
  simp

theorem mem_keys_merge {chain : List Overlay} {field : String} :
    field ∈ (merge chain).keys ↔ ∃ o ∈ chain, o.Sets field := by
  have hentries : ∀ fs : Fields, (∃ e ∈ fs.entries, e.1 = field) ↔ field ∈ fs.keys := fun fs =>
    List.mem_map.symm
  rw [merge, SortedMap.mem_keys_insertMany, hentries, mem_keys_lastWins, mem_keys_lastWins]
  simp only [Overlay.Sets, and_or_left, exists_or]

namespace Graph

variable {g : Graph} {n p x : ObjectRef}

theorem WellLinked.mem_walk_parent (hg : g.WellLinked) (hp : p ∈ g.parents n) :
    p ∈ (g.walk n (· = p)).chain ++ [n] := by
  have hwalk := hg.surveyed_walk n (· = p)
  rcases hwalk.first p (List.mem_filter.mpr ⟨hp, decide_eq_true rfl⟩) with hc | ⟨_, rfl⟩
  · exact List.mem_append_left _ (hwalk.mem_chain_iff.mpr hc)
  · exact List.mem_append_right _ (List.mem_singleton_self p)

theorem WellLinked.exists_mem_walk_parent (hg : g.WellLinked) (hx : g.Above n x) :
    ∃ p ∈ g.parents n, x ∈ (g.walk n (· = p)).chain ++ [n] := by
  -- a way up that comes back to `n` leaves it again through a parent, maybe another one
  induction hx with
  | @single p hp => exact ⟨p, hp, hg.mem_walk_parent hp⟩
  | @tail x p _ hp ih =>
    obtain ⟨q, hq, hmem⟩ := ih
    rcases List.mem_append.mp hmem with hmem | hmem
    · refine ⟨q, hq, List.mem_append.mpr ?_⟩
      rw [List.mem_singleton]
      exact ((hg.surveyed_walk n (· = q)).parent_mem_chain hmem hp).symm
    · obtain rfl := List.mem_singleton.mp hmem
      exact ⟨p, hp, hg.mem_walk_parent hp⟩

end Graph

namespace View

variable {v : View} {n : ObjectRef}

theorem mem_ancestors_iff_exists_chainVia (hg : v.graph.WellLinked) (hn : v.graph.parents n ≠ [])
    {a : ObjectRef} : a ∈ v.ancestors n ↔ ∃ p ∈ v.graph.parents n, a ∈ v.chainVia n p := by
  obtain ⟨p₀, hp₀⟩ := List.exists_mem_of_ne_nil _ hn
  have hcontains : v.graph.contains n = true := (hg n p₀ hp₀).2
  constructor
  · intro ha
    obtain ⟨x, hx, hax⟩ := (mem_ancestryThrough_iff hcontains _).mp ha
    obtain ⟨p, hp, hmem⟩ : ∃ p ∈ v.graph.parents n, x ∈ (v.graph.walk n (· = p)).chain ++ [n] := by
      rcases ((surveyed_ancestors hg n).mem_chain_append_iff (List.Subset.refl _)).mp hx with rfl | habove
      · exact ⟨p₀, hp₀, List.mem_append_right _ (List.mem_singleton_self _)⟩
      · exact hg.exists_mem_walk_parent habove
    exact ⟨p, hp, (mem_ancestryThrough_iff hcontains _).mpr ⟨x, hmem, hax⟩⟩
  · rintro ⟨p, _, ha⟩
    exact ancestryThrough_subset hg n (· = p) ha

theorem mem_chainVia_parent (hg : v.graph.WellLinked) {p : ObjectRef} (hp : p ∈ v.graph.parents n) :
    p ∈ v.chainVia n p :=
  (mem_ancestryThrough_iff (hg n p hp).2 _).mpr ⟨p, hg.mem_walk_parent hp, .inl rfl⟩

theorem mem_inheritedAlong {chain : List ObjectRef} {q : PolicyInstance} :
    q ∈ v.inheritedAlong chain ↔ ∃ a ∈ chain, q ∈ v.attachments.inherited a := List.mem_flatMap

theorem exists_mem_inherited_iff (hg : v.graph.WellLinked) (hn : v.graph.parents n ≠ [])
    {R : PolicyInstance → Prop} : (∃ q ∈ v.inherited n, R q) ↔
      ∃ p ∈ v.graph.parents n, ∃ q ∈ v.inheritedAlong (v.chainVia n p), R q := by
  simp only [inherited, mem_inheritedAlong, mem_ancestors_iff_exists_chainVia hg hn]
  constructor
  · rintro ⟨q, ⟨a, ⟨p, hp, ha⟩, hq⟩, hr⟩
    exact ⟨p, hp, q, ⟨a, ha, hq⟩, hr⟩
  · rintro ⟨p, hp, q, ⟨a, ha, hq⟩, hr⟩
    exact ⟨q, ⟨a, ⟨p, hp, ha⟩, hq⟩, hr⟩

theorem effectiveVia?_eq_some_iff {p : ObjectRef} {e : EffectivePolicies} : v.effectiveVia? n p = some e ↔
    p ∈ v.graph.parents n ∧ v.effectiveAlong n (v.chainVia n p) = e := by
  unfold effectiveVia?
  split <;> simp_all

theorem effectiveVia?_eq_none_iff {p : ObjectRef} : v.effectiveVia? n p = none ↔ p ∉ v.graph.parents n := by
  unfold effectiveVia?
  split <;> simp_all

theorem effective_iff_exists_via (hg : v.graph.WellLinked) (hn : v.graph.parents n ≠ [])
    {P : EffectivePolicies → Prop} {Q : Prop} {R : PolicyInstance → Prop}
    (h : ∀ chain, P (v.effectiveAlong n chain) ↔ Q ∨ ∃ q ∈ v.inheritedAlong chain, R q) :
    P (v.effective n) ↔ ∃ p ∈ v.graph.parents n, ∃ e, v.effectiveVia? n p = some e ∧ P e := by
  have hparents : (∃ p ∈ v.graph.parents n, ∃ e, v.effectiveVia? n p = some e ∧ P e) ↔
      ∃ p ∈ v.graph.parents n, P (v.effectiveAlong n (v.chainVia n p)) := by
    apply exists_congr
    intro p
    apply and_congr_right
    intro hp
    simp [effectiveVia?_eq_some_iff, hp]
  obtain ⟨p₀, hp₀⟩ := List.exists_mem_of_ne_nil _ hn
  rw [hparents]
  refine (h _).trans ?_
  rw [← inherited, exists_mem_inherited_iff hg hn]
  simp only [h]
  constructor
  · rintro (hq | ⟨p, hp, hr⟩)
    · exact ⟨p₀, hp₀, .inl hq⟩
    · exact ⟨p, hp, .inr hr⟩
  · rintro ⟨p, hp, hq | hr⟩
    · exact .inl hq
    · exact .inr ⟨p, hp, hr⟩

end View

def EffectivePolicies.Defines (e : EffectivePolicies) (k : GroupKind) (field : String) : Prop :=
  ∃ fs, e.get? k = some (.resolved fs) ∧ field ∈ fs.keys

namespace View

section

variable {v : View} {n : ObjectRef} {k : GroupKind} {chain : List ObjectRef}
  (hdirect : (v.direct n).filter (fun p => p.kind = k) = [])
include hdirect

theorem isResolved_of_no_direct {value : EffectivePolicy}
    (h : (v.effectiveAlong n chain).get? k = some value) : value.isResolved = true := by
  rw [get?_effectiveAlong_of_no_direct hdirect, EffectivePolicies.value?] at h
  split at h
  · cases h
  · obtain rfl := Option.some.inj h
    rfl

theorem defines_effectiveAlong_iff {field : String} : (v.effectiveAlong n chain).Defines k field ↔
    ∃ p ∈ v.inheritedAlong chain, p.kind = k ∧ ∃ o, p.overlay? = some o ∧ o.Sets field := by
  have hfields : (v.effectiveAlong n chain).Defines k field ↔
      field ∈ (merge (((v.inheritedAlong chain).filter fun p => p.kind = k).filterMap
        PolicyInstance.overlay?)).keys := by
    rw [EffectivePolicies.Defines, get?_effectiveAlong_of_no_direct hdirect, EffectivePolicies.value?]
    split
    · rename_i hnone
      simp [hnone, mem_keys_merge]
    · simp [EffectivePolicy.ofInherited]
  rw [hfields, mem_keys_merge]
  simp only [List.mem_filterMap, List.mem_filter, decide_eq_true_eq]
  constructor
  · rintro ⟨o, ⟨p, ⟨hp, hkind⟩, ho⟩, hsets⟩
    exact ⟨p, hp, hkind, o, ho, hsets⟩
  · rintro ⟨p, hp, hkind, o, ho, hsets⟩
    exact ⟨o, ⟨p, ⟨hp, hkind⟩, ho⟩, hsets⟩

end

end View

theorem Model.parent_views_cover (s : Snapshot) (config : Config) (n : ObjectRef)
    (hn : (discover s config).graph.parents n ≠ []) :
    let m := discover s config
    (∀ q, m.view.effectiveVia? n q = none ↔ q ∉ m.graph.parents n) ∧
    (∀ k, k ∈ (m.view.effective n).keys ↔
      ∃ p ∈ m.graph.parents n, ∃ e, m.view.effectiveVia? n p = some e ∧ k ∈ e.keys) ∧
    (∀ k, m.descriptors.get? k = some .direct →
      ∀ p e, m.view.effectiveVia? n p = some e → e.get? k = (m.view.effective n).get? k) ∧
    ∀ k, m.descriptors.get? k = some .inherited →
      (∀ value, (m.view.effective n).get? k = some value → value.isResolved = true) ∧
      (∀ p e value, m.view.effectiveVia? n p = some e → e.get? k = some value → value.isResolved = true) ∧
      ∀ field, (m.view.effective n).Defines k field ↔
        ∃ p ∈ m.graph.parents n, ∃ e, m.view.effectiveVia? n p = some e ∧ e.Defines k field := by
  intro m
  have hg : m.view.graph.WellLinked := wellLinked_discover s config
  refine ⟨fun q => View.effectiveVia?_eq_none_iff, ?_, ?_, ?_⟩
  · intro k
    exact View.effective_iff_exists_via (P := fun e => k ∈ e.keys) hg hn
      fun chain => View.mem_keys_effectiveAlong
  · rintro k hk p _ he
    obtain ⟨hp, rfl⟩ := View.effectiveVia?_eq_some_iff.mp he
    have hcontains : m.graph.contains n = true := (hg n p hp).2
    exact (get?_effectiveAlong_of_direct hk hcontains _).trans
      (get?_effectiveAlong_of_direct hk hcontains _).symm
  · intro k hk
    have hdirect : (m.view.direct n).filter (fun p => p.kind = k) = [] :=
      filter_kind_direct_eq_nil (fun h => by cases hk.symm.trans h) n
    refine ⟨fun value => View.isResolved_of_no_direct hdirect, ?_, ?_⟩
    · rintro p _ value he
      obtain ⟨_, rfl⟩ := View.effectiveVia?_eq_some_iff.mp he
      exact View.isResolved_of_no_direct hdirect
    · intro field
      apply View.effective_iff_exists_via (P := fun e => e.Defines k field) (Q := False) hg hn
      intro chain
      rw [false_or, View.defines_effectiveAlong_iff hdirect]

namespace Sample

def retryKind : GroupKind := ⟨"RetryPolicy", "bar.com"⟩

def retryTypes : TypeMeta := ⟨"bar.com/v1", "RetryPolicy"⟩

def retryDefinition : KindDefinition :=
  ⟨⟨some "retrypolicies", "", .ofList [(standardLabelKey, "inherited")]⟩, retryKind, "Namespaced"⟩

def retryPolicy (name kind target part field : String) : DynamicObject :=
  ⟨some retryTypes, metadata name, some (.ofList [(part, .ofFields [(field, .string "3")]),
    ("targetRef", .ofFields [("group", .string gatewayGroup), ("kind", .string kind),
      ("name", .string target)])])⟩

def layered : Snapshot :=
  { cycle with
    definitions := [retryDefinition]
    policies := [retryPolicy "x" "Gateway" "gw" "default" "pause",
      retryPolicy "y" "HTTPRoute" "b" "override" "tries"] }

def onGateway : PolicyInstance :=
  ⟨.ofKind retryKind "ns" "x", retryKind, gatewayId, .inherited ⟨.empty, .ofList [("pause", .string "3")]⟩⟩

def onRoute : PolicyInstance :=
  ⟨.ofKind retryKind "ns" "y", retryKind, routeId "b", .inherited ⟨.ofList [("tries", .string "3")], .empty⟩⟩

theorem parents_layered :
    (Model.discover layered {}).graph.parents (routeId "a") = [gatewayId, routeId "b"] := by
  have hlinks : (Model.discover layered {}).graph.links.keys = _ := links_cycle
  rw [parents, hlinks]
  decide

theorem instances_layered : (Model.discover layered {}).attachments.instances = [onGateway, onRoute] := by
  decide +kernel

end Sample

theorem looped_route_is_covered :
    let m := Model.discover Sample.layered {}
    let a := Sample.routeId "a"
    m.graph.Above a a ∧ m.graph.parents a = [Sample.gatewayId, Sample.routeId "b"] ∧
      m.graph.parents a ≠ [] ∧ (m.view.effective a).Defines Sample.retryKind "pause" ∧
      (m.view.effective a).Defines Sample.retryKind "tries" := by
  intro m a
  have hg : m.view.graph.WellLinked := Model.wellLinked_discover Sample.layered {}
  have hlinks : m.graph.links.keys = _ := Sample.links_cycle
  have hparents : m.graph.parents a = [Sample.gatewayId, Sample.routeId "b"] := Sample.parents_layered
  have hgateway : Sample.gatewayId ∈ m.graph.parents a := by simp [hparents]
  have hroute : Sample.routeId "b" ∈ m.graph.parents a := by simp [hparents]
  have hloop : a ∈ m.graph.parents (Sample.routeId "b") := mem_parents_iff.mpr (by simp [hlinks, a])
  have hne : m.graph.parents a ≠ [] := List.ne_nil_of_mem hgateway
  have hk : m.descriptors.get? Sample.retryKind = some .inherited := by decide +kernel
  have hdirect : (m.view.direct a).filter (fun p => p.kind = Sample.retryKind) = [] :=
    Model.filter_kind_direct_eq_nil (fun h => by cases hk.symm.trans h) a
  obtain ⟨_, _, _, hinherited⟩ := Model.parent_views_cover Sample.layered {} a hne
  have hdefines : ∀ p ∈ m.graph.parents a, ∀ q ∈ m.attachments.inherited p, q.kind = Sample.retryKind →
      ∀ o field, q.overlay? = some o → o.Sets field → (m.view.effective a).Defines Sample.retryKind field := by
    intro p hp q hq hkind o field ho hsets
    refine ((hinherited _ hk).2.2 field).mpr
      ⟨p, hp, _, View.effectiveVia?_eq_some_iff.mpr ⟨hp, rfl⟩, ?_⟩
    apply (View.defines_effectiveAlong_iff hdirect).mpr
    exact ⟨q, View.mem_inheritedAlong.mpr ⟨p, View.mem_chainVia_parent hg hp, hq⟩, hkind, o, ho, hsets⟩
  have hinstances : m.attachments.instances = [Sample.onGateway, Sample.onRoute] := Sample.instances_layered
  have hx : Sample.onGateway ∈ m.attachments.inherited Sample.gatewayId :=
    (m.attachments.mem_on_iff).mpr ⟨by simp [hinstances], rfl, rfl⟩
  have hy : Sample.onRoute ∈ m.attachments.inherited (Sample.routeId "b") :=
    (m.attachments.mem_on_iff).mpr ⟨by simp [hinstances], rfl, rfl⟩
  exact ⟨.head hroute (.single hloop), hparents, hne,
    hdefines _ hgateway _ hx rfl _ _ rfl (.inl (by decide)),
    hdefines _ hroute _ hy rfl _ _ rfl (.inr (by decide))⟩

end PolicyAttachment
