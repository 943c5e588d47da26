import PolicyAttachment.Proofs.Ascent
import PolicyAttachment.Proofs.Sorting
import PolicyAttachment.View

/-!
The chain of ancestors along which policies flow down. It lists a resource and all above it once each,
parents before their children wherever links allow it, and without cycles in the order of the longest
way up.
-/

namespace PolicyAttachment

namespace Trail

def Farther (a b : ObjectRef × Nat) : Prop := b.2 < a.2 ∨ a.2 = b.2 ∧ compare a.1 b.1 = .lt

theorem precedes_iff {a b : ObjectRef × Nat} :
    precedes a b = true ↔ b.2 < a.2 ∨ a.2 = b.2 ∧ (compare a.1 b.1).isLE = true := by
  simp [precedes]

theorem precedes_trans (a b c : ObjectRef × Nat) (h : precedes a b = true) (h' : precedes b c = true) :
    precedes a c = true := by
  rw [precedes_iff] at *
  rcases h with h | ⟨h, hl⟩ <;> rcases h' with h' | ⟨h', hl'⟩
  · exact .inl (h'.trans h)
  · exact .inl (h' ▸ h)
  · exact .inl (h ▸ h')
  · exact .inr ⟨h.trans h', Std.TransCmp.isLE_trans hl hl'⟩

theorem precedes_total (a b : ObjectRef × Nat) : (precedes a b || precedes b a) = true := by
  rw [Bool.or_eq_true, precedes_iff, precedes_iff]
  rcases Nat.lt_trichotomy a.2 b.2 with h | h | h
  · exact .inr (.inl h)
  · rcases (Bool.or_eq_true _ _).mp (Sorting.isLE_total a.1 b.1) with hl | hl
    · exact .inl (.inr ⟨h, hl⟩)
    · exact .inr (.inr ⟨h.symm, hl⟩)
  · exact .inl (.inl h)

theorem farther_of_precedes {a b : ObjectRef × Nat} (h : precedes a b = true) (hne : a.1 ≠ b.1) :
    Farther a b := by
  rcases precedes_iff.mp h with h | ⟨h, hl⟩
  · exact .inl h
  · refine .inr ⟨h, ?_⟩
    cases hc : compare a.1 b.1 with
    | lt => rfl
    | eq => exact absurd (Std.LawfulEqCmp.eq_of_compare hc) hne
    | gt => simp [hc] at hl

theorem Farther.asymm {a b : ObjectRef × Nat} (h : Farther a b) : ¬ Farther b a := by
  rintro (h' | ⟨h', hl'⟩) <;> rcases h with h | ⟨h, hl⟩
  · omega
  · omega
  · omega
  · simp [Std.OrientedCmp.gt_of_lt hl] at hl'

def ranked (t : Trail) : List (ObjectRef × Nat) := t.depths.entries.mergeSort precedes

theorem mem_ranked {t : Trail} {x : ObjectRef} {d : Nat} :
    (x, d) ∈ t.ranked ↔ t.depths.get? x = some d := by
  rw [ranked, List.mem_mergeSort, SortedMap.get?_eq_some_iff]

theorem nodup_chain (t : Trail) : t.chain.Nodup := by
  have hperm := (List.mergeSort_perm t.depths.entries precedes).map (·.1)
  exact hperm.nodup_iff.mpr t.depths.nodup_keys

theorem mem_chain {t : Trail} {x : ObjectRef} : x ∈ t.chain ↔ ∃ d, t.depths.get? x = some d := by
  simp only [← mem_ranked]
  exact ⟨fun h => by simpa [chain, ranked] using h, fun h => by simpa [chain, ranked] using h⟩

theorem mem_chain_iff_covers {t : Trail} {x : ObjectRef} (h : ∀ d, t.depths.get? x = some d → 0 < d) :
    x ∈ t.chain ↔ t.covers x 1 = true := by
  rw [mem_chain, covers_iff]
  constructor
  · rintro ⟨d, hd⟩
    exact ⟨d, hd, h d hd⟩
  · rintro ⟨d, hd, _⟩
    exact ⟨d, hd⟩

theorem pairwise_mergeSort_farther {t : Trail} {es : List (ObjectRef × Nat)}
    (h : es.Perm t.depths.entries) : (es.mergeSort precedes).Pairwise Farther := by
  have hsorted := List.pairwise_mergeSort precedes_trans precedes_total es
  have hkeys : (es.mergeSort precedes).Pairwise fun a b => a.1 ≠ b.1 := by
    have hperm := ((List.mergeSort_perm es precedes).trans h).map (·.1)
    exact List.pairwise_map.mp (hperm.nodup_iff.mpr t.depths.nodup_keys)
  exact (hsorted.and hkeys).imp fun hab => farther_of_precedes hab.1 hab.2

theorem mergeSort_eq_ranked {t : Trail} {es : List (ObjectRef × Nat)} (h : es.Perm t.depths.entries) :
    es.mergeSort precedes = t.ranked := by
  apply List.Perm.eq_of_pairwise _ (pairwise_mergeSort_farther h) (pairwise_mergeSort_farther (.refl _))
  · exact (List.mergeSort_perm es precedes).trans (h.trans (List.mergeSort_perm _ precedes).symm)
  · intro a b _ _ hab hba
    exact absurd hba hab.asymm

theorem pairwise_chain (t : Trail) : t.chain.Pairwise fun a b =>
    ∃ d e, t.depths.get? a = some d ∧ t.depths.get? b = some e ∧ Farther (a, d) (b, e) := by
  apply List.pairwise_map.mpr
  apply (pairwise_mergeSort_farther (.refl _)).imp_of_mem
  intro a b ha hb hab
  exact ⟨a.2, b.2, mem_ranked.mp ha, mem_ranked.mp hb, hab⟩

end Trail

namespace Graph.Surveyed

variable {g : Graph} {start : ObjectRef} {ps : List ObjectRef} {t : Trail}

theorem mem_chain_iff (h : g.Surveyed start ps t) {x : ObjectRef} :
    x ∈ t.chain ↔ t.covers x 1 = true :=
  Trail.mem_chain_iff_covers fun d hd => (h.climb x d hd).1

theorem start_not_mem_chain (h : g.Surveyed start ps t) : start ∉ t.chain := by
  intro hmem
  obtain ⟨d, hd⟩ := Trail.mem_chain.mp hmem
  exact (h.climb start d hd).2.1 rfl

theorem nodup_chain_append (h : g.Surveyed start ps t) : (t.chain ++ [start]).Nodup := by
  rw [List.nodup_append]
  refine ⟨Trail.nodup_chain t, by simp, ?_⟩
  rintro a ha b hb rfl
  obtain rfl := List.mem_singleton.mp hb
  exact h.start_not_mem_chain ha

theorem above_of_mem_chain (h : g.Surveyed start ps t) {x : ObjectRef} (hx : x ∈ t.chain) :
    g.Above start x := by
  obtain ⟨d, hd⟩ := Trail.mem_chain.mp hx
  obtain ⟨hpos, _, hclimb⟩ := h.climb x d hd
  exact above_of_climb hclimb hpos

theorem parent_mem_chain (h : g.Surveyed start ps t) {x p : ObjectRef} (hx : x ∈ t.chain)
    (hp : p ∈ g.parents x) : p = start ∨ p ∈ t.chain := by
  obtain ⟨d, hd⟩ := Trail.mem_chain.mp hx
  rcases h.settled x d hd p hp with hc | ⟨hc, _⟩
  · exact .inr (h.mem_chain_iff.mpr (Trail.covers_of_le hc (by omega)))
  -- a cycle is closed only at what was met before
  · exact (h.cycle p hc).2.imp_right h.mem_chain_iff.mpr

theorem mem_chain_of_above (h : g.Surveyed start ps t) (hps : g.parents start ⊆ ps) {x : ObjectRef}
    (hx : g.Above start x) : x = start ∨ x ∈ t.chain := by
  have hfirst : ∀ p ∈ g.parents start, p = start ∨ p ∈ t.chain := by
    intro p hp
    rcases h.first p (hps hp) with hc | ⟨_, he⟩
    · exact .inr (h.mem_chain_iff.mpr hc)
    · exact .inl he
  induction hx with
  | single hp => exact hfirst _ hp
  | tail _ hp ih =>
    rcases ih with rfl | hmem
    · exact hfirst _ hp
    · exact h.parent_mem_chain hmem hp

theorem mem_chain_append_iff (h : g.Surveyed start ps t) (hps : g.parents start ⊆ ps) {x : ObjectRef} :
    x ∈ t.chain ++ [start] ↔ x = start ∨ g.Above start x := by
  rw [List.mem_append, List.mem_singleton]
  constructor
  · rintro (hx | hx)
    · exact .inr (h.above_of_mem_chain hx)
    · exact .inl hx
  · rintro (hx | hx)
    · exact .inr hx
    · exact (h.mem_chain_of_above hps hx).symm

theorem idxOf_parent_lt (h : g.Surveyed start ps t) (hps : g.parents start ⊆ ps) {c p : ObjectRef}
    (hp : p ∈ g.parents c) (hc : c ∈ t.chain ++ [start]) (hac : ¬ g.Above p c) :
    p ∈ t.chain ++ [start] ∧ (t.chain ++ [start]).idxOf p < (t.chain ++ [start]).idxOf c := by
  have hne : p ≠ c := by
    rintro rfl
    exact hac (.single hp)
  have hpc : p ∈ t.chain := by
    rcases (h.mem_chain_append_iff hps).mp hc with rfl | hca
    · exact (h.mem_chain_of_above hps (.single hp)).resolve_left hne
    · refine (h.mem_chain_of_above hps (hca.tail hp)).resolve_left ?_
      rintro rfl
      exact hac hca
  refine ⟨List.mem_append_left _ hpc, ?_⟩
  rw [List.idxOf_append_of_mem hpc]
  rcases List.mem_append.mp hc with hc | hc
  · rw [List.idxOf_append_of_mem hc]
    apply Sorting.idxOf_lt_of_pairwise t.pairwise_chain hpc hc hne
    rintro ⟨dc, dp, hdc, hdp, hfar⟩
    rcases h.settled c dc hdc p hp with hcov | ⟨_, ha⟩
    · obtain ⟨d, hd, hle⟩ := Trail.covers_iff.mp hcov
      obtain rfl : d = dp := by simpa [hd] using hdp
      rcases hfar with hlt | ⟨heq, _⟩ <;> simp only at * <;> omega
    · exact hac ha
  · obtain rfl := List.mem_singleton.mp hc
    rw [List.idxOf_append_of_notMem h.start_not_mem_chain]
    exact Nat.lt_add_right _ (List.idxOf_lt_length_iff.mpr hpc)

section Acyclic

variable (hac : ∀ x, x = start ∨ g.Above start x → ¬ g.Above x x)
include hac

theorem cycles_eq_nil (h : g.Surveyed start ps t) : t.cycles = [] := by
  apply List.eq_nil_iff_forall_not_mem.mpr
  intro x hx
  obtain ⟨hcycle, hmet⟩ := h.cycle x hx
  apply hac x _ hcycle
  exact hmet.imp_right fun hc => h.above_of_mem_chain (h.mem_chain_iff.mpr hc)

theorem covers_of_climb (h : g.Surveyed start ps t) (hps : g.parents start ⊆ ps) {k : Nat}
    {x : ObjectRef} (hx : g.Climb start k x) (hk : 0 < k) : t.covers x k = true := by
  have hnil := h.cycles_eq_nil hac
  induction hx with
  | start => omega
  | @step k a p ha hp ih =>
    cases k with
    | zero =>
      cases ha
      rcases h.first p (hps hp) with hc | ⟨hc, _⟩
      · exact hc
      · simp [hnil] at hc
    | succ k =>
      obtain ⟨d, hd, hle⟩ := Trail.covers_iff.mp (ih (by omega))
      rcases h.settled a d hd p hp with hc | ⟨hc, _⟩
      · exact Trail.covers_of_le hc (by omega)
      · simp [hnil] at hc

theorem depths_eq_some_iff (h : g.Surveyed start ps t) (hps : g.parents start ⊆ ps) {a : ObjectRef}
    {d : Nat} : t.depths.get? a = some d ↔ g.Above start a ∧ IsGreatest {k | g.Climb start k a} d := by
  have hgreatest : ∀ {d}, t.depths.get? a = some d → IsGreatest {k | g.Climb start k a} d := by
    intro d hd
    refine ⟨(h.climb a d hd).2.2, fun k hk => ?_⟩
    rcases Nat.eq_zero_or_pos k with rfl | hpos
    · exact Nat.zero_le d
    · obtain ⟨e, he, hle⟩ := Trail.covers_iff.mp (h.covers_of_climb hac hps hk hpos)
      obtain rfl : e = d := by simpa [he] using hd
      exact hle
  constructor
  · intro hd
    exact ⟨h.above_of_mem_chain (Trail.mem_chain.mpr ⟨d, hd⟩), hgreatest hd⟩
  · rintro ⟨ha, hd⟩
    have hne : a ≠ start := by
      rintro rfl
      exact hac a (.inl rfl) ha
    obtain ⟨e, he⟩ := Trail.mem_chain.mp ((h.mem_chain_of_above hps ha).resolve_left hne)
    rw [he, (hgreatest he).unique hd]

end Acyclic

end Graph.Surveyed

namespace View

theorem ancestors_eq {v : View} (hg : v.graph.WellLinked) (hv : v.namespaceAncestors = false)
    (n : ObjectRef) : v.ancestors n = (v.graph.walk n fun _ => true).chain ++ [n] := by
  unfold ancestors ancestry Graph.ancestryThrough
  split
  · simp [hv]
  · rename_i hn
    have hnone : v.graph.parents n = [] := hg.parents_eq_nil hn
    simp [Graph.walk, hnone, Graph.visitAll, Trail.chain, Trail.empty, SortedMap.empty]

end View

end PolicyAttachment
