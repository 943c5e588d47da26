import PolicyAttachment.Proofs.Chain

namespace PolicyAttachment

open PolicyAttachment.Graph

theorem Graph.not_above_self_of_rank {g : Graph} (rank : ObjectRef → Nat)
    (h : ∀ l ∈ g.links.keys, rank l.child < rank l.parent) (x : ObjectRef) : ¬ g.Above x x := by
  have hlt : ∀ {c a}, g.Above c a → rank c < rank a := by
    intro c a ha
    induction ha with
    | single hp => exact h _ (mem_parents_iff.mp hp)
    | tail _ hp ih => exact ih.trans (h _ (mem_parents_iff.mp hp))
  exact fun hx => Nat.lt_irrefl _ (hlt hx)

namespace View

variable {v : View}

theorem surveyed_ancestors (hg : v.graph.WellLinked) (n : ObjectRef) :
    v.graph.Surveyed n (v.graph.parents n) (v.graph.walk n fun _ => true) := by
  simpa using hg.surveyed_walk n fun _ => true

theorem mem_ancestors_iff (hg : v.graph.WellLinked) (hv : v.namespaceAncestors = false)
    {n a : ObjectRef} : a ∈ v.ancestors n ↔ a = n ∨ v.graph.Above n a := by
  rw [ancestors_eq hg hv]
  exact (surveyed_ancestors hg n).mem_chain_append_iff (List.Subset.refl _)

theorem idxOf_parent_lt (hg : v.graph.WellLinked) (hv : v.namespaceAncestors = false)
    {n c p : ObjectRef} (hp : p ∈ v.graph.parents c) (hc : c ∈ v.ancestors n)
    (hac : ¬ v.graph.Above p c) :
    p ∈ v.ancestors n ∧ (v.ancestors n).idxOf p < (v.ancestors n).idxOf c := by
  rw [ancestors_eq hg hv] at hc ⊢
  exact (surveyed_ancestors hg n).idxOf_parent_lt (List.Subset.refl _) hp hc hac

theorem mem_keepLast {x : ObjectRef} {xs : List ObjectRef} : x ∈ keepLast xs ↔ x ∈ xs := by
  induction xs with
  | nil => simp [keepLast]
  | cons y xs ih =>
    rw [keepLast]
    split
    · rename_i hy
      rw [ih, List.mem_cons]
      constructor
      · exact Or.inr
      · rintro (rfl | hx)
        · exact hy
        · exact hx
    · rw [List.mem_cons, List.mem_cons, ih]

theorem nodup_keepLast (xs : List ObjectRef) : (keepLast xs).Nodup := by
  induction xs with
  | nil => exact .nil
  | cons x xs ih =>
    rw [keepLast]
    split
    · exact ih
    · rename_i hx
      exact List.nodup_cons.mpr ⟨fun h => hx (mem_keepLast.mp h), ih⟩

theorem nodup_ancestors (hg : v.graph.WellLinked) (n : ObjectRef) : (v.ancestors n).Nodup := by
  rw [ancestors, ancestry, ancestryThrough]
  split
  · simp only
    split
    · exact nodup_keepLast _
    · exact (surveyed_ancestors hg n).nodup_chain_append
  · simp

theorem mem_interleaveNamespaces {g : Graph} {chain : List ObjectRef} {a : ObjectRef} :
    a ∈ g.interleaveNamespaces chain ↔ ∃ x ∈ chain, a = x ∨ x.isClusterScoped = false ∧
      a = .ofNamespace x.namespaceName ∧ g.contains a = true := by
  rw [interleaveNamespaces, mem_keepLast, List.mem_flatMap]
  apply exists_congr
  intro x
  apply and_congr_right
  intro _
  simp only
  split
  · rename_i hns
    rw [Bool.and_eq_true, Bool.not_eq_true'] at hns
    rw [List.mem_pair]
    constructor
    · rintro (rfl | rfl)
      · exact .inr ⟨hns.1, rfl, hns.2⟩
      · exact .inl rfl
    · rintro (rfl | ⟨_, rfl, _⟩)
      · exact .inr rfl
      · exact .inl rfl
  · rename_i hns
    rw [List.mem_singleton]
    refine ⟨.inl, fun h => h.resolve_right ?_⟩
    rintro ⟨hscope, rfl, hcontains⟩
    simp [hscope, hcontains] at hns

theorem mem_ancestryThrough_iff {g : Graph} {namespaceAncestors : Bool} {n a : ObjectRef}
    (hn : g.contains n = true) (through : ObjectRef → Bool) :
    a ∈ (g.ancestryThrough namespaceAncestors n through).chain ↔
      ∃ x ∈ (g.walk n through).chain ++ [n], a = x ∨ namespaceAncestors = true ∧
        x.isClusterScoped = false ∧ a = .ofNamespace x.namespaceName ∧ g.contains a = true := by
  cases namespaceAncestors with
  | false => simp [ancestryThrough, hn]
  | true => simp [ancestryThrough, hn, mem_interleaveNamespaces]

theorem contains_of_mem_ancestors (hg : v.graph.WellLinked) {n a : ObjectRef}
    (hn : v.graph.contains n = true) (ha : a ∈ v.ancestors n) : v.graph.contains a = true := by
  obtain ⟨x, hx, rfl | ⟨_, _, _, hcontains⟩⟩ := (mem_ancestryThrough_iff hn _).mp ha
  · rcases ((surveyed_ancestors hg n).mem_chain_append_iff (List.Subset.refl _)).mp hx with rfl | hx
    · exact hn
    · cases hx with
      | single hp => exact (hg _ _ hp).1
      | tail _ hp => exact (hg _ _ hp).1
  · exact hcontains

theorem ancestryThrough_subset (hg : v.graph.WellLinked) (n : ObjectRef) (through : ObjectRef → Bool) :
    (v.graph.ancestryThrough v.namespaceAncestors n through).chain ⊆ v.ancestors n := by
  by_cases hn : v.graph.contains n = true
  · intro a ha
    obtain ⟨x, hx, hax⟩ := (mem_ancestryThrough_iff hn through).mp ha
    refine (mem_ancestryThrough_iff hn _).mpr ⟨x, ?_, hax⟩
    rw [(surveyed_ancestors hg n).mem_chain_append_iff (List.Subset.refl _)]
    rcases List.mem_append.mp hx with hx | hx
    · exact .inr ((hg.surveyed_walk n through).above_of_mem_chain hx)
    · exact .inl (List.mem_singleton.mp hx)
  · rw [ancestors, ancestry, ancestryThrough, if_neg hn, ancestryThrough, if_neg hn]
    exact List.Subset.refl _

/-- The chain of `n` lists what is above it by the longest way up, in whatever order parents are
visited and depths are enumerated. -/
structure LongestClimbFirst (v : View) (n : ObjectRef) : Prop where
  depth : ∀ a d, (v.graph.walk n fun _ => true).depths.get? a = some d ↔
    v.graph.Above n a ∧ IsGreatest {k | v.graph.Climb n k a} d
  chain : ∃ as : List (ObjectRef × Nat), v.ancestors n = as.map (·.1) ++ [n] ∧
    as.Pairwise Trail.Farther ∧
    ∀ a d, (a, d) ∈ as ↔ v.graph.Above n a ∧ IsGreatest {k | v.graph.Climb n k a} d
  walk : v.graph.Ascent [n] 1 (v.graph.parents n) .empty (v.graph.walk n fun _ => true)
  anyOrder : ∀ (ps : List ObjectRef) (t : Trail) (es : List (ObjectRef × Nat)),
    ps.Perm (v.graph.parents n) → v.graph.Ascent [n] 1 ps .empty t → es.Perm t.depths.entries →
      t.depths = (v.graph.walk n fun _ => true).depths ∧
        (es.mergeSort Trail.precedes).map (·.1) ++ [n] = v.ancestors n

theorem longestClimbFirst (hg : v.graph.WellLinked) (hv : v.namespaceAncestors = false) {n : ObjectRef}
    (hac : ∀ x, x = n ∨ v.graph.Above n x → ¬ v.graph.Above x x) : v.LongestClimbFirst n := by
  have hwalk := surveyed_ancestors hg n
  have hdepth : ∀ a d, (v.graph.walk n fun _ => true).depths.get? a = some d ↔
      v.graph.Above n a ∧ IsGreatest {k | v.graph.Climb n k a} d :=
    fun a d => hwalk.depths_eq_some_iff hac (List.Subset.refl _)
  constructor
  · exact hdepth
  · refine ⟨(v.graph.walk n fun _ => true).ranked, ancestors_eq hg hv n, ?_, ?_⟩
    · exact Trail.pairwise_mergeSort_farther (.refl _)
    · intro a d
      rw [Trail.mem_ranked, hdepth]
  · simpa [Graph.walk] using hg.ascent_visitAll [n] 1 (v.graph.parents n) .empty
  · intro ps t es hps ht hes
    have hdepths : t.depths = (v.graph.walk n fun _ => true).depths := by
      apply SortedMap.ext_get?
      intro a
      apply Option.ext
      intro d
      rw [hdepth, (ht.surveyed hps.subset).depths_eq_some_iff hac hps.symm.subset]
    refine ⟨hdepths, ?_⟩
    rw [ancestors_eq hg hv, Trail.mergeSort_eq_ranked hes, Trail.ranked, hdepths]
    rfl

end View

theorem ancestors_exact (s : Snapshot) (r : Resolver) (namespaceNodes : Bool) (as : Attachments)
    (n : ObjectRef) :
    let v : View := ⟨build s r namespaceNodes, as, false⟩
    (v.ancestors n).Nodup ∧ (v.ancestors n).getLast? = some n ∧
      ∀ a, a ∈ v.ancestors n ↔ a = n ∨ v.graph.Above n a := by
  intro v
  have hg : v.graph.WellLinked := wellLinked_build s r namespaceNodes
  refine ⟨View.nodup_ancestors hg n, ?_, fun a => View.mem_ancestors_iff hg rfl⟩
  rw [View.ancestors_eq hg rfl]
  simp

theorem parents_precede_children (s : Snapshot) (r : Resolver) (namespaceNodes : Bool) (as : Attachments)
    (n : ObjectRef) :
    let v : View := ⟨build s r namespaceNodes, as, false⟩
    (∀ c p, p ∈ v.graph.parents c → c ∈ v.ancestors n → ¬ v.graph.Above p c →
      p ∈ v.ancestors n ∧ (v.ancestors n).idxOf p < (v.ancestors n).idxOf c) ∧
    ∀ gw ∈ s.gateways, ∀ ref cls, gw.ref? = some ref →
      r.resolve gw.spec.classRef (r.place ref).namespaceName = .ok cls →
      r.place ref ∈ v.ancestors n → ¬ v.graph.Above cls (r.place ref) →
      cls ∈ v.ancestors n ∧ (v.ancestors n).idxOf cls < (v.ancestors n).idxOf (r.place ref) := by
  intro v
  have hg : v.graph.WellLinked := wellLinked_build s r namespaceNodes
  constructor
  · intro c p hp hc hac
    exact View.idxOf_parent_lt hg rfl hp hc hac
  · intro gw hgw ref cls href hcls hc hac
    exact View.idxOf_parent_lt hg rfl (class_mem_parents_build namespaceNodes hgw href hcls) hc hac

namespace Sample

def metadata (name : String) : Metadata := ⟨some name, "ns", .empty⟩

def gateway : Gateway := ⟨metadata "gw", ⟨"class", .null⟩⟩

def route (name : String) (parents : List Reference) : HttpRoute :=
  ⟨metadata name, ⟨parents, [], .null⟩⟩

def toGateway : Reference := { name := some "gw" }

def toRoute (name : String) : Reference := { kind := some "HTTPRoute", name := some name }

def classId : ObjectRef := .ofKind .gatewayClass "" "class"

def gatewayId : ObjectRef := .ofKind .gateway "ns" "gw"

def routeId (name : String) : ObjectRef := .ofKind .httpRoute "ns" name

def resolver : Resolver := .ofDefault "default"

def cycle : Snapshot where
  gateways := [gateway]
  routes := [route "a" [toGateway, toRoute "b"], route "b" [toRoute "a"]]

def diamond : Snapshot where
  gateways := [gateway]
  routes := [route "a" [toGateway, toRoute "b"], route "b" [toGateway]]

theorem links_cycle : (build cycle resolver false).links.keys =
    [⟨gatewayId, routeId "a"⟩, ⟨classId, gatewayId⟩, ⟨routeId "a", routeId "b"⟩,
      ⟨routeId "b", routeId "a"⟩] := by decide +kernel

theorem links_diamond : (build diamond resolver false).links.keys =
    [⟨gatewayId, routeId "a"⟩, ⟨gatewayId, routeId "b"⟩, ⟨classId, gatewayId⟩,
      ⟨routeId "b", routeId "a"⟩] := by decide +kernel

end Sample

theorem class_precedes_gateway_beside_cycle :
    let v : View := ⟨build Sample.cycle Sample.resolver false, ⟨[]⟩, false⟩
    v.graph.Above (Sample.routeId "b") (Sample.routeId "b") ∧
      Sample.classId ∈ v.graph.parents Sample.gatewayId ∧
      Sample.gatewayId ∈ v.ancestors (Sample.routeId "a") ∧
      ¬ v.graph.Above Sample.classId Sample.gatewayId ∧
      Sample.classId ∈ v.ancestors (Sample.routeId "a") ∧
      (v.ancestors (Sample.routeId "a")).idxOf Sample.classId <
        (v.ancestors (Sample.routeId "a")).idxOf Sample.gatewayId := by
  intro v
  have hlinks : v.graph.links.keys =
      [⟨Sample.gatewayId, Sample.routeId "a"⟩, ⟨Sample.classId, Sample.gatewayId⟩,
        ⟨Sample.routeId "a", Sample.routeId "b"⟩, ⟨Sample.routeId "b", Sample.routeId "a"⟩] :=
    Sample.links_cycle
  have hb : v.graph.Parent (Sample.routeId "b") (Sample.routeId "a") :=
    mem_parents_iff.mpr (by simp [hlinks])
  have ha : v.graph.Parent (Sample.routeId "a") (Sample.routeId "b") :=
    mem_parents_iff.mpr (by simp [hlinks])
  have hgw : v.graph.Parent (Sample.routeId "a") Sample.gatewayId :=
    mem_parents_iff.mpr (by simp [hlinks])
  have hclass : Sample.classId ∈ v.graph.parents Sample.gatewayId :=
    mem_parents_iff.mpr (by simp [hlinks])
  have hmem : Sample.gatewayId ∈ v.ancestors (Sample.routeId "a") :=
    (View.mem_ancestors_iff (wellLinked_build _ _ _) rfl).mpr (.inr (.single hgw))
  have htop : ¬ v.graph.Above Sample.classId Sample.gatewayId := by
    have hnone : ∀ l ∈ v.graph.links.keys, l.child ≠ Sample.classId := by
      rw [hlinks]
      decide
    intro h
    obtain ⟨p, hp, _⟩ := Relation.TransGen.head'_iff.mp h
    exact hnone _ (mem_parents_iff.mp hp) rfl
  exact ⟨.head hb (.single ha), hclass, hmem, htop,
    (parents_precede_children Sample.cycle Sample.resolver false ⟨[]⟩ (Sample.routeId "a")).1 _ _
      hclass hmem htop⟩

theorem ancestors_by_longest_climb (s : Snapshot) (r : Resolver) (namespaceNodes : Bool)
    (as : Attachments) (n : ObjectRef)
    (hac : ∀ x, x = n ∨ (build s r namespaceNodes).Above n x → ¬ (build s r namespaceNodes).Above x x) :
    View.LongestClimbFirst ⟨build s r namespaceNodes, as, false⟩ n :=
  View.longestClimbFirst (wellLinked_build s r namespaceNodes) rfl hac

theorem diamond_by_longest_climb :
    (∀ x, x = Sample.routeId "a" ∨ (build Sample.diamond Sample.resolver false).Above (Sample.routeId "a") x →
      ¬ (build Sample.diamond Sample.resolver false).Above x x) ∧
    View.LongestClimbFirst ⟨build Sample.diamond Sample.resolver false, ⟨[]⟩, false⟩ (Sample.routeId "a") := by
  -- every link leads to something of a higher rank
  have hac : ∀ x, ¬ (build Sample.diamond Sample.resolver false).Above x x := by
    apply not_above_self_of_rank fun x =>
      if x = Sample.classId then 3 else if x = Sample.gatewayId then 2
      else if x = Sample.routeId "b" then 1 else 0
    rw [Sample.links_diamond]
    decide
  exact ⟨fun x _ => hac x, ancestors_by_longest_climb Sample.diamond Sample.resolver false ⟨[]⟩
    (Sample.routeId "a") fun x _ => hac x⟩

end PolicyAttachment
