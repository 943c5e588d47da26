import PolicyAttachment.Model
import PolicyAttachment.Proofs.Ancestors
import PolicyAttachment.Proofs.Attached

namespace PolicyAttachment

def Problem.isCycle : Problem → Bool
  | ancestorCycle _ => true
  | _ => false

theorem Trail.nodup_cycles_closeCycle {t : Trail} (h : t.cycles.Nodup) (id : ObjectRef) :
    (t.closeCycle id).cycles.Nodup := by
  unfold closeCycle
  split
  · exact h
  · rename_i hid
    exact List.nodup_append.mpr ⟨h, by simp, fun x hx y hy hxy => hid (List.mem_singleton.mp hy ▸ hxy ▸ hx)⟩

theorem Graph.Ascent.nodup_cycles {g : Graph} {path : List ObjectRef} {depth : Nat} {ids : List ObjectRef}
    {t t' : Trail} (h : g.Ascent path depth ids t t') (ht : t.cycles.Nodup) : t'.cycles.Nodup := by
  induction h with
  | done path depth t => exact ht
  | closed hp h ih => exact ih (Trail.nodup_cycles_closeCycle ht _)
  | covered hp hc h ih => exact ih ht
  | climbed hp hc hps hu h ihu ih => exact ih (ihu ht)

namespace Graph.Surveyed

variable {g : Graph} {start : ObjectRef} {ps : List ObjectRef} {t : Trail}

theorem covers_start (h : g.Surveyed start ps t) (depth : Nat) : ¬ t.covers start depth = true := by
  intro hc
  obtain ⟨d, hd, _⟩ := Trail.covers_iff.mp hc
  exact (h.climb start d hd).2.1 rfl

theorem start_mem_cycles (h : g.Surveyed start ps t) (hps : g.parents start ⊆ ps)
    (hstart : g.Above start start) : start ∈ t.cycles := by
  -- `c` is the last resource before the walk is back at its start, which gets no depth
  obtain ⟨c, hc, hp⟩ := Relation.TransGen.tail'_iff.mp hstart
  have hmet : c = start ∨ c ∈ t.chain := by
    rcases Relation.reflTransGen_iff_eq_or_transGen.mp hc with rfl | hac
    · exact .inl rfl
    · exact h.mem_chain_of_above hps hac
  rcases hmet with rfl | hchain
  · exact ((h.first c (hps hp)).resolve_left (h.covers_start 1)).1
  · obtain ⟨d, hd⟩ := Trail.mem_chain.mp hchain
    exact ((h.settled c d hd start hp).resolve_left (h.covers_start (d + 1))).1

theorem covers_of_above (h : g.Surveyed start ps t) {x y : ObjectRef} {d : Nat}
    (hx : t.depths.get? x = some d) (hopen : ∀ z ∈ t.cycles, g.Above x z → ¬ g.Above z x)
    (hxy : g.Above x y) (hyx : g.Above y x) : t.covers y (d + 1) = true := by
  induction hxy with
  | @single p hp =>
    rcases h.settled x d hx p hp with hc | ⟨hc, _⟩
    · exact hc
    · exact absurd hyx (hopen p hc (.single hp))
  | @tail b p hxb hp ih =>
    obtain ⟨e, he, hle⟩ := Trail.covers_iff.mp (ih (.head hp hyx))
    rcases h.settled b e he p hp with hc | ⟨hc, _⟩
    · exact Trail.covers_of_le hc (by omega)
    · exact absurd hyx (hopen p hc (hxb.tail hp))

theorem exists_mem_cycles (h : g.Surveyed start ps t) (hps : g.parents start ⊆ ps) {x : ObjectRef}
    (hx : x = start ∨ g.Above start x) (hcycle : g.Above x x) :
    ∃ y ∈ t.cycles, g.Above x y ∧ g.Above y x := by
  have hmet : x = start ∨ x ∈ t.chain := hx.elim .inl (h.mem_chain_of_above hps)
  rcases hmet with rfl | hmem
  · exact ⟨x, h.start_mem_cycles hps hcycle, hcycle, hcycle⟩
  · by_contra hnone
    have hopen : ∀ y ∈ t.cycles, g.Above x y → ¬ g.Above y x :=
      fun y hy hxy hyx => hnone ⟨y, hy, hxy, hyx⟩
    obtain ⟨d, hd⟩ := Trail.mem_chain.mp hmem
    -- once around the cycle `x` would lie deeper than itself
    obtain ⟨e, he, hle⟩ := Trail.covers_iff.mp (h.covers_of_above hd hopen hcycle hcycle)
    obtain rfl : d = e := by simpa [hd] using he
    omega

theorem cycles_eq_nil_iff (h : g.Surveyed start ps t) (hps : g.parents start ⊆ ps) :
    t.cycles = [] ↔ ∀ x, x = start ∨ g.Above start x → ¬ g.Above x x := by
  constructor
  · intro hnil x hx hcycle
    obtain ⟨y, hy, _⟩ := h.exists_mem_cycles hps hx hcycle
    rw [hnil] at hy
    exact List.not_mem_nil hy
  · exact fun hac => h.cycles_eq_nil hac

theorem above_of_mem_cycles (h : g.Surveyed start ps t) {x : ObjectRef} (hx : x ∈ t.cycles) :
    g.Above x x ∧ (x = start ∨ g.Above start x) := by
  obtain ⟨hcycle, hmet⟩ := h.cycle x hx
  exact ⟨hcycle, hmet.imp_right fun hc => h.above_of_mem_chain (h.mem_chain_iff.mpr hc)⟩

end Graph.Surveyed

namespace View

theorem mem_keepFirst {x : ObjectRef} {xs : List ObjectRef} : x ∈ keepFirst xs ↔ x ∈ xs := by
  rw [keepFirst, List.mem_reverse, mem_keepLast, List.mem_reverse]

theorem nodup_keepFirst (xs : List ObjectRef) : (keepFirst xs).Nodup :=
  (List.reverse_perm _).nodup_iff.mpr (nodup_keepLast _)

variable {v : View}

theorem cycles_ancestry (hg : v.graph.WellLinked) (n : ObjectRef) :
    (v.ancestry n).cycles = (v.graph.walk n fun _ => true).cycles := by
  unfold ancestry Graph.ancestryThrough
  split
  · rfl
  · rename_i hn
    have hnone : v.graph.parents n = [] := hg.parents_eq_nil hn
    simp [Graph.walk, hnone, Graph.visitAll, Trail.empty]

theorem nodup_cycles_ancestry (hg : v.graph.WellLinked) (n : ObjectRef) : (v.ancestry n).cycles.Nodup := by
  rw [cycles_ancestry hg]
  exact (hg.ascent_visitAll _ _ _ _).nodup_cycles (by simp [Trail.empty])

theorem mem_cyclic_iff (hg : v.graph.WellLinked) {x : ObjectRef} :
    x ∈ v.cyclic ↔ v.graph.contains x = true ∧ v.graph.Above x x := by
  have hcontains : v.graph.Above x x → v.graph.contains x = true := by
    intro hx
    obtain ⟨p, hp, _⟩ := Relation.TransGen.head'_iff.mp hx
    exact (hg x p hp).2
  rw [cyclic, mem_keepFirst, List.mem_flatMap]
  constructor
  · rintro ⟨n, hn, hx⟩
    rw [cycles_ancestry hg] at hx
    have habove := ((surveyed_ancestors hg n).cycle x hx).1
    exact ⟨hcontains habove, habove⟩
  · rintro ⟨hn, hx⟩
    refine ⟨x, Graph.contains_iff_mem_ids.mp hn, ?_⟩
    rw [cycles_ancestry hg]
    exact (surveyed_ancestors hg x).start_mem_cycles (List.Subset.refl _) hx

end View

theorem KindDefinition.isCycle_of_problem? {labelKey : String} {c : KindDefinition} {d : Diagnostic}
    (h : c.problem? labelKey = some d) : d.problem.isCycle = false := by
  obtain ⟨label, _, hd⟩ := Option.bind_eq_some_iff.mp h
  split at hd
  · cases hd
    rfl
  · cases hd

theorem Statement.isCycle_of_problem? {r : Resolver} {st : Statement} {d : Diagnostic}
    (h : st.problem? r = some d) : d.problem.isCycle = false := by
  cases st with
  | observed id kind spec => cases h
  | childOf id ref role | parentOf id ref role =>
    simp only [problem?] at h
    split at h
    · cases h
    · rename_i e he
      obtain ⟨_, rfl⟩ := Resolver.resolve_eq_error_iff.mp he
      cases h
      rfl

theorem Binding.isCycle_of_refused {g : Graph} {ds : Descriptors} {r : Resolver} {o : DynamicObject}
    {d : Diagnostic} (h : ofObject g ds r o = .refused d) : d.problem.isCycle = false := by
  have hobstacle := obstacle_of_refused h
  generalize d.problem = e at hobstacle ⊢
  cases hobstacle <;> rfl

namespace Model

/-- What goes wrong before the walks for cycles, save for the objects that could not be read. -/
def omissions (s : Snapshot) (config : Config) : List Diagnostic :=
  let m := discover s config
  let r := s.resolver config.defaultNamespace
  Descriptors.problems config.policyLabelKey s.definitions ++ Graph.problems s r ++
    Attachments.problems (Attachments.bindings m.graph m.descriptors r s.policies)

theorem diagnostics_discover (s : Snapshot) (config : Config) :
    (discover s config).diagnostics = s.rejected ++
      (omissions s config ++ (discover s config).view.cyclic.map fun id => ⟨id, .ancestorCycle id⟩) := by
  simp only [omissions, discover, view, List.append_assoc]

theorem isCycle_of_mem_omissions {s : Snapshot} {config : Config} {d : Diagnostic}
    (h : d ∈ omissions s config) : d.problem.isCycle = false := by
  simp only [omissions, Descriptors.problems, Graph.problems, Attachments.problems, Attachments.bindings,
    List.mem_append, List.mem_filterMap, List.mem_map] at h
  rcases h with (⟨c, _, hd⟩ | ⟨st, _, hd⟩) | ⟨b, ⟨o, _, rfl⟩, hd⟩
  · exact KindDefinition.isCycle_of_problem? hd
  · exact Statement.isCycle_of_problem? hd
  · exact Binding.isCycle_of_refused (Binding.problem?_eq_some_iff.mp hd)

theorem cycle_diagnostics_exact (s : Snapshot) (config : Config) :
    let m := discover s config
    ∃ (added : List Diagnostic) (ids : List ObjectRef), m.diagnostics = s.rejected ++ added ∧
      added.filter (fun d => d.problem.isCycle) = ids.map (fun id => ⟨id, .ancestorCycle id⟩) ∧
      ids.Nodup ∧ ∀ id, id ∈ ids ↔ m.graph.contains id = true ∧ m.graph.Above id id := by
  intro m
  have hg : m.graph.WellLinked := Graph.wellLinked_build s _ _
  refine ⟨_, m.view.cyclic, diagnostics_discover s config, ?_, View.nodup_keepFirst _, ?_⟩
  · have hnone : (omissions s config).filter (fun d => d.problem.isCycle) = [] := by
      apply List.filter_eq_nil_iff.mpr
      intro d hd
      simp [isCycle_of_mem_omissions hd]
    have hall : (m.view.cyclic.map fun id => (⟨id, .ancestorCycle id⟩ : Diagnostic)).filter
        (fun d => d.problem.isCycle) = m.view.cyclic.map fun id => ⟨id, .ancestorCycle id⟩ := by
      apply List.filter_eq_self.mpr
      intro d hd
      obtain ⟨id, _, rfl⟩ := List.mem_map.mp hd
      rfl
    rw [List.filter_append, hnone, hall, List.nil_append]
  · intro id
    exact View.mem_cyclic_iff hg

end Model

theorem walk_finds_cycles (s : Snapshot) (r : Resolver) (namespaceNodes namespaceAncestors : Bool)
    (as : Attachments) (n : ObjectRef) :
    let v : View := ⟨Graph.build s r namespaceNodes, as, namespaceAncestors⟩
    ((v.ancestry n).cycles = [] ↔ ∀ x, x = n ∨ v.graph.Above n x → ¬ v.graph.Above x x) ∧
      (v.ancestry n).cycles.Nodup ∧
      (∀ x ∈ (v.ancestry n).cycles, v.graph.Above x x ∧ (x = n ∨ v.graph.Above n x)) ∧
      (∀ x, x = n ∨ v.graph.Above n x → v.graph.Above x x →
        ∃ y ∈ (v.ancestry n).cycles, v.graph.Above x y ∧ v.graph.Above y x) ∧
      (v.graph.Above n n → n ∈ (v.ancestry n).cycles) := by
  intro v
  have hg : v.graph.WellLinked := Graph.wellLinked_build s r namespaceNodes
  have hwalk := View.surveyed_ancestors hg n
  refine ⟨?_, View.nodup_cycles_ancestry hg n, ?_, ?_, ?_⟩ <;> rw [View.cycles_ancestry hg n]
  · exact hwalk.cycles_eq_nil_iff (List.Subset.refl _)
  · exact fun x hx => hwalk.above_of_mem_cycles hx
  · exact fun x hx hcycle => hwalk.exists_mem_cycles (List.Subset.refl _) hx hcycle
  · exact hwalk.start_mem_cycles (List.Subset.refl _)

end PolicyAttachment
