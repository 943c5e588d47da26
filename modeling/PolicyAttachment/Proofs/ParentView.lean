import PolicyAttachment.Proofs.Ancestors
import PolicyAttachment.Proofs.Conservation
import PolicyAttachment.Proofs.Construction
import PolicyAttachment.Proofs.Effective

/-!
A resource seen through one of its parents. The walk from a resource through a parent is the walk from that
parent, one step deeper, as long as the resource is not its own ancestor. So its chain through the parent is
the chain of the parent with the resource at the end, and what the parent inherits goes on to it.
-/

namespace PolicyAttachment

open PolicyAttachment.Graph

namespace Trail

/-- The second trail is the first as it looks from one step below `p`. -/
structure Lifts (p : ObjectRef) (t u : Trail) : Prop where
  depths : ∀ x, u.depths.get? x = if x = p then some 1 else (t.depths.get? x).map (· + 1)
  cycles : u.cycles = t.cycles

namespace Lifts

variable {p id : ObjectRef} {t u : Trail} {depth : Nat}

theorem closeCycle (h : Lifts p t u) (id : ObjectRef) : Lifts p (t.closeCycle id) (u.closeCycle id) where
  depths x := by
    rw [depths_closeCycle, depths_closeCycle]
    exact h.depths x
  cycles := by
    unfold Trail.closeCycle
    rw [h.cycles]
    split
    · exact h.cycles
    · rfl

theorem covers_iff (h : Lifts p t u) (hid : id ≠ p) :
    u.covers id (depth + 1) = true ↔ t.covers id depth = true := by
  simp [Trail.covers_iff, h.depths, hid]

theorem record (h : Lifts p t u) (hid : id ≠ p) (depth : Nat) :
    Lifts p (t.record id depth) (u.record id (depth + 1)) where
  depths x := by
    rw [depths_record, depths_record, h.depths]
    by_cases hx : x = id
    · subst hx
      simp [hid]
    · simp [hx]
  cycles := h.cycles

theorem start (p : ObjectRef) : Lifts p .empty (Trail.empty.record p 1) where
  depths x := by
    rw [depths_record]
    rfl
  cycles := rfl

end Lifts

theorem ranked_eq {u : Trail} {es : List (ObjectRef × Nat)} (h : es.Pairwise Farther)
    (hmem : ∀ x d, (x, d) ∈ es ↔ u.depths.get? x = some d) : u.ranked = es := by
  have hranked : u.ranked.Pairwise Farther := pairwise_mergeSort_farther (.refl _)
  have hnodup : ∀ {as : List (ObjectRef × Nat)}, as.Pairwise Farther → as.Nodup := by
    intro as has
    apply has.imp
    rintro a _ hab rfl
    exact hab.asymm hab
  apply List.Perm.eq_of_pairwise _ hranked h
  · rw [List.perm_ext_iff_of_nodup (hnodup hranked) (hnodup h)]
    rintro ⟨x, d⟩
    rw [mem_ranked, hmem]
  · intro a b _ _ hab hba
    exact absurd hba hab.asymm

theorem Lifts.chain_eq {g : Graph} {p : ObjectRef} {ps : List ObjectRef} {t u : Trail}
    (h : Lifts p t u) (ht : g.Surveyed p ps t) : u.chain = t.chain ++ [p] := by
  have hranked : u.ranked = t.ranked.map (fun e => (e.1, e.2 + 1)) ++ [(p, 1)] := by
    apply ranked_eq
    · rw [List.pairwise_append]
      refine ⟨?_, by simp, ?_⟩
      · apply List.pairwise_map.mpr
        apply (pairwise_mergeSort_farther (.refl t.depths.entries)).imp
        intro a b hab
        exact hab.imp Nat.succ_lt_succ fun ⟨he, hlt⟩ => ⟨congrArg (· + 1) he, hlt⟩
      -- whatever lies above `p` is at least two steps away
      · intro a ha b hb
        obtain ⟨⟨x, d⟩, hx, rfl⟩ := List.mem_map.mp ha
        obtain rfl := List.mem_singleton.mp hb
        have hpos := (ht.climb x d (mem_ranked.mp hx)).1
        exact .inl (Nat.succ_lt_succ hpos)
    · intro x d
      rw [List.mem_append, List.mem_map, List.mem_singleton, h.depths]
      by_cases hx : x = p
      · subst hx
        have hstart : ∀ d, (x, d) ∉ t.ranked := by
          intro d hd
          exact (ht.climb x d (mem_ranked.mp hd)).2.1 rfl
        simp [hstart, eq_comm]
      · simp [hx, mem_ranked]
  rw [chain, ← ranked, hranked, List.map_append, List.map_map]
  rfl

end Trail

namespace Graph

variable {g : Graph} {n p : ObjectRef}

def Below (g : Graph) (n id : ObjectRef) : Prop := id = n ∨ g.Above id n

theorem not_below_parent {id q : ObjectRef} (h : ¬ g.Below n id) (hq : q ∈ g.parents id) :
    ¬ g.Below n q := by
  rintro (rfl | hqn)
  · exact h (.inr (.single hq))
  · exact h (.inr (.head hq hqn))

theorem WellLinked.lifts_visitAll (hg : g.WellLinked) (n : ObjectRef) (path : List ObjectRef)
    (depth : Nat) (ids : List ObjectRef) (t u : Trail) (hp : p ∈ path) (hn : ∀ id ∈ ids, ¬ g.Below n id)
    (h : Trail.Lifts p t u) :
    Trail.Lifts p (g.visitAll path depth ids t) (g.visitAll (path ++ [n]) (depth + 1) ids u) := by
  -- `n` ends both paths, but nothing that is visited is `n`, so both walks turn back at the same places
  have hmem : ∀ {id path}, ¬ g.Below n id → (id ∈ path ++ [n] ↔ id ∈ path) := by
    intro id path hid
    have hne : id ≠ n := fun he => hid (.inl he)
    simp [hne]
  have hne : ∀ {id} {path : List ObjectRef}, p ∈ path → id ∉ path → id ≠ p := by
    rintro id path hp hid rfl
    exact hid hp
  revert u hp hn
  apply visitAll.induct g
    (fun path depth id t => ∀ u, p ∈ path → ¬ g.Below n id → Trail.Lifts p t u →
      Trail.Lifts p (g.visit path depth id t) (g.visit (path ++ [n]) (depth + 1) id u))
    (fun path depth ids t => ∀ u, p ∈ path → (∀ id ∈ ids, ¬ g.Below n id) → Trail.Lifts p t u →
      Trail.Lifts p (g.visitAll path depth ids t) (g.visitAll (path ++ [n]) (depth + 1) ids u))
  · intro path depth id t hid u hp hn h
    rw [visit_eq, if_pos hid, visit_eq, if_pos ((hmem hn).mpr hid)]
    exact h.closeCycle id
  · intro path depth id t hid hc u hp hn h
    rw [visit_eq, if_neg hid, if_pos hc, visit_eq, if_neg (mt (hmem hn).mp hid),
      if_pos ((h.covers_iff (hne hp hid)).mpr hc)]
    exact h
  · intro path depth id t hid hc _ ih u hp hn h
    rw [visit_eq, if_neg hid, if_neg hc, visit_eq, if_neg (mt (hmem hn).mp hid),
      if_neg (mt (h.covers_iff (hne hp hid)).mp hc), hg.next_eq]
    exact ih _ (List.mem_cons_of_mem _ hp) (fun q hq => not_below_parent hn hq)
      (h.record (hne hp hid) depth)
  · intro path depth id t hid hc hcontains u hp hn h
    rw [visit_eq, if_neg hid, if_neg hc, visit_eq, if_neg (mt (hmem hn).mp hid),
      if_neg (mt (h.covers_iff (hne hp hid)).mp hc), hg.next_eq, hg.parents_eq_nil hcontains, visitAll, visitAll]
    exact h.record (hne hp hid) depth
  · intro path depth t u hp hn h
    rw [visitAll, visitAll]
    exact h
  · intro path depth t id ids ih ih' u hp hn h
    obtain ⟨hid, hids⟩ := List.forall_mem_cons.mp hn
    rw [visitAll, visitAll]
    exact ih' _ hp hids (ih u hp hid h)

theorem filter_parents_eq (hp : p ∈ g.parents n) : (g.parents n).filter (· = p) = [p] := by
  rw [List.filter_eq, List.count_eq_one_of_mem (nodup_parents g n) hp, List.replicate_one]

theorem WellLinked.lifts_walk (hg : g.WellLinked) (hp : p ∈ g.parents n) (hn : ¬ g.Above n n) :
    Trail.Lifts p (g.walk p fun _ => true) (g.walk n (· = p)) := by
  have hbelow : ¬ g.Below n p := by
    rintro (rfl | hpn)
    · exact hn (.single hp)
    · exact hn (.head hp hpn)
  have hne : p ∉ [n] := fun hmem => hbelow (.inl (List.mem_singleton.mp hmem))
  have hwalk : g.walk n (· = p) =
      g.visitAll ([p] ++ [n]) (1 + 1) (g.parents p) (Trail.empty.record p 1) := by
    have hnew : ¬ Trail.empty.covers p 1 = true := by simp [Trail.covers, Trail.empty]
    rw [walk, filter_parents_eq hp, visitAll, visitAll, visit_eq, if_neg hne, if_neg hnew, hg.next_eq]
    rfl
  rw [hwalk, walk, List.filter_true]
  exact hg.lifts_visitAll n [p] 1 _ _ _ (by simp) (fun q hq => not_below_parent hbelow hq) (.start p)

end Graph

namespace View

variable {v : View} {n p : ObjectRef}

theorem chainVia_eq (hg : v.graph.WellLinked) (hv : v.namespaceAncestors = false)
    (hp : p ∈ v.graph.parents n) (hn : ¬ v.graph.Above n n) :
    v.chainVia n p = v.ancestors p ++ [n] := by
  have hcontains : v.graph.contains n = true := (hg n p hp).2
  rw [chainVia, Graph.ancestryThrough, if_pos hcontains, ancestors_eq hg hv,
    ← (hg.lifts_walk hp hn).chain_eq (surveyed_ancestors hg p)]
  simp [hv]

theorem chainVia_eq_ancestors (hp : v.graph.parents n = [p]) : v.chainVia n p = v.ancestors n := by
  simp [chainVia, ancestors, ancestry, Graph.ancestryThrough, Graph.walk, hp]

theorem get?_effectiveAlong_of_no_direct {k : GroupKind}
    (hdirect : (v.direct n).filter (fun q => q.kind = k) = []) (chain : List ObjectRef) :
    (v.effectiveAlong n chain).get? k =
      EffectivePolicies.value? .ofInherited ((v.inheritedAlong chain).filter fun q => q.kind = k) := by
  rw [get?_effectiveAlong, hdirect]
  exact Option.or_none

end View

theorem parent_view_composes (s : Snapshot) (r : Resolver) (namespaceNodes : Bool) (ds : Descriptors)
    (os : List DynamicObject) (n p : ObjectRef) (hp : p ∈ (build s r namespaceNodes).parents n)
    (hn : ¬ (build s r namespaceNodes).Above n n) :
    let g := build s r namespaceNodes
    let v : View := ⟨g, .ofBindings (Attachments.bindings g ds r os), false⟩
    v.chainVia n p = v.ancestors p ++ [n] ∧ (g.parents n = [p] → v.ancestors n = v.ancestors p ++ [n]) ∧
      ∃ e, v.effectiveVia? n p = some e ∧ ∀ k, ds.get? k = some .inherited →
        let ps := (v.inherited p ++ v.attachments.inherited n).filter fun q => q.kind = k
        e.get? k = (if ps = [] then none else some (.resolved (merge (ps.filterMap PolicyInstance.overlay?)))) ∧
          ((∀ q ∈ v.attachments.attached n, q.kind ≠ k) → e.get? k = (v.effective p).get? k) := by
  intro g v
  have hg : v.graph.WellLinked := wellLinked_build s r namespaceNodes
  have hchain : v.chainVia n p = v.ancestors p ++ [n] := View.chainVia_eq hg rfl hp hn
  refine ⟨hchain, fun honly => by rw [← hchain, View.chainVia_eq_ancestors honly],
    v.effectiveAlong n (v.chainVia n p), if_pos hp, ?_⟩
  intro k hk ps
  have hdirect : ∀ x, (v.direct x).filter (fun q => q.kind = k) = [] :=
    Attachments.filter_kind_on_eq_nil (by simp [hk]) os
  have hinherited : v.inheritedAlong (v.chainVia n p) = v.inherited p ++ v.attachments.inherited n := by
    rw [hchain, View.inheritedAlong, List.flatMap_append, List.flatMap_singleton]
    rfl
  have hvalue : (v.effectiveAlong n (v.chainVia n p)).get? k = EffectivePolicies.value? .ofInherited ps := by
    rw [View.get?_effectiveAlong_of_no_direct (hdirect n), hinherited]
  refine ⟨hvalue, fun hnone => ?_⟩
  have hown : (v.attachments.inherited n).filter (fun q => q.kind = k) = [] := by
    apply List.filter_eq_nil_iff.mpr
    intro q hq hkind
    exact hnone q (List.mem_append_right _ hq) (of_decide_eq_true hkind)
  have hps : ps = (v.inherited p).filter fun q => q.kind = k := by
    refine (List.filter_append _ _).trans ?_
    rw [hown, List.append_nil]
  rw [hvalue, hps, View.effective, View.get?_effectiveAlong_of_no_direct (hdirect p)]
  rfl

namespace Sample

def belowCycle : Snapshot := { cycle with routes := cycle.routes ++ [route "c" [toRoute "a"]] }

def timeoutKinds : Descriptors := .ofList [(timeoutKind, .inherited)]

end Sample

theorem route_below_cycle_composes :
    let g := build Sample.belowCycle Sample.resolver false
    let v : View := ⟨g, .ofBindings (Attachments.bindings g Sample.timeoutKinds Sample.resolver
      [Sample.timeoutPolicy "b" "1"]), false⟩
    g.parents (Sample.routeId "c") = [Sample.routeId "a"] ∧
      ¬ g.Above (Sample.routeId "c") (Sample.routeId "c") ∧
      g.Above (Sample.routeId "a") (Sample.routeId "a") ∧
      v.ancestors (Sample.routeId "c") = v.ancestors (Sample.routeId "a") ++ [Sample.routeId "c"] ∧
      ∃ e, v.effectiveVia? (Sample.routeId "c") (Sample.routeId "a") = some e ∧
        e.get? Sample.timeoutKind = (v.effective (Sample.routeId "a")).get? Sample.timeoutKind := by
  intro g v
  have hlinks : g.links.keys = [⟨Sample.gatewayId, Sample.routeId "a"⟩,
      ⟨Sample.classId, Sample.gatewayId⟩, ⟨Sample.routeId "a", Sample.routeId "b"⟩,
      ⟨Sample.routeId "a", Sample.routeId "c"⟩, ⟨Sample.routeId "b", Sample.routeId "a"⟩] := by
    decide +kernel
  have hparents : g.parents (Sample.routeId "c") = [Sample.routeId "a"] := by
    rw [parents, hlinks]
    decide
  have hbottom : ¬ g.Above (Sample.routeId "c") (Sample.routeId "c") := by
    have hnone : ∀ l ∈ g.links.keys, l.parent ≠ Sample.routeId "c" := by
      rw [hlinks]
      decide
    intro h
    obtain ⟨c, _, hc⟩ := Relation.TransGen.tail'_iff.mp h
    exact hnone _ (mem_parents_iff.mp hc) rfl
  have hab : g.Parent (Sample.routeId "a") (Sample.routeId "b") := mem_parents_iff.mpr (by simp [hlinks])
  have hba : g.Parent (Sample.routeId "b") (Sample.routeId "a") := mem_parents_iff.mpr (by simp [hlinks])
  obtain ⟨_, honly, e, he, hkinds⟩ := parent_view_composes Sample.belowCycle Sample.resolver false
    Sample.timeoutKinds [Sample.timeoutPolicy "b" "1"] (Sample.routeId "c") (Sample.routeId "a")
    (hparents ▸ List.mem_singleton_self _) hbottom
  refine ⟨hparents, hbottom, .head hab (.single hba), honly hparents, e, he, ?_⟩
  have helsewhere : ∀ q ∈ v.attachments.instances, q.target ≠ Sample.routeId "c" := by decide +kernel
  apply (hkinds Sample.timeoutKind (by decide +kernel)).2
  intro q hq
  obtain ⟨hmem, htarget⟩ := List.mem_filter.mp ((v.attachments.attached_perm _).mem_iff.mp hq)
  exact absurd (of_decide_eq_true htarget) (helsewhere q hmem)

end PolicyAttachment
