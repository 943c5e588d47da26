import PolicyAttachment.Proofs.Loading

namespace PolicyAttachment

namespace Entry

def ref? : Entry → Option ObjectRef
  | gateway g => g.ref?
  | route h => h.ref?
  | _ => none

def parents : Entry → List Reference
  | gateway g => [g.spec.classRef]
  | route h => h.spec.parentRefs
  | _ => []

def backends : Entry → List Reference
  | route h => h.spec.backendRefs
  | _ => []

def statements (r : Resolver) : Entry → List Statement
  | gateway g => Statement.ofGateway r g
  | route h => Statement.ofRoute r h
  | _ => []

theorem exists_statements_eq {r : Resolver} {e : Entry} {id : ObjectRef} (h : e.ref?.map r.place = some id) :
    ∃ kind spec role, e.statements r = .observed id kind spec ::
      (e.parents.map (.childOf id · role) ++ e.backends.map (.parentOf id · .backend)) := by
  obtain ⟨ref, href, rfl⟩ := Option.map_eq_some_iff.mp h
  cases e with
  | gateway g =>
    have hgateway : g.ref? = some ref := href
    refine ⟨.gateway, some g.spec.document, .gatewayClass, ?_⟩
    rw [statements, Statement.ofGateway, hgateway]
    rfl
  | route route =>
    have hroute : route.ref? = some ref := href
    refine ⟨.httpRoute, some route.spec.document, .gateway, ?_⟩
    rw [statements, Statement.ofRoute, hroute]
    rfl
  | untyped | gatewayClass _ | coreNamespace _ | definition _ | other _ _ | rejected _ => cases href

variable {r : Resolver} {e : Entry} {id : ObjectRef}

theorem subject_of_mem_statements (h : e.ref?.map r.place = some id) {st : Statement} (hst : st ∈ e.statements r) :
    st.subject = id := by
  obtain ⟨kind, spec, role, hstatements⟩ := exists_statements_eq h
  simp only [hstatements, List.mem_cons, List.mem_append, List.mem_map] at hst
  rcases hst with rfl | ⟨_, _, rfl⟩ | ⟨_, _, rfl⟩ <;> rfl

theorem filterMap_observed?_statements (h : e.ref?.map r.place = some id) :
    (e.statements r).filterMap Statement.observed? = [id] := by
  obtain ⟨kind, spec, role, hstatements⟩ := exists_statements_eq h
  rw [hstatements]
  simp [Statement.observed?, List.filterMap_eq_nil_iff]

theorem filterMap_reference?_statements (h : e.ref?.map r.place = some id) :
    (e.statements r).filterMap Statement.reference? = (e.parents ++ e.backends).map fun t => (id, t) := by
  obtain ⟨kind, spec, role, hstatements⟩ := exists_statements_eq h
  rw [hstatements]
  simp [Statement.reference?, List.filterMap_cons, List.filterMap_map, Function.comp_def]

theorem exists_link?_iff (h : e.ref?.map r.place = some id) {p c : ObjectRef} :
    (∃ st ∈ e.statements r, st.link? r = some ⟨p, c⟩) ↔
      (c = id ∧ ∃ t ∈ e.parents, r.resolve t id.namespaceName = .ok p) ∨
        p = id ∧ ∃ t ∈ e.backends, r.resolve t id.namespaceName = .ok c := by
  obtain ⟨kind, spec, role, hstatements⟩ := exists_statements_eq h
  constructor
  · rintro ⟨st, hst, hl⟩
    simp only [hstatements, List.mem_cons, List.mem_append, List.mem_map] at hst
    rcases hst with rfl | ⟨t, ht, rfl⟩ | ⟨t, ht, rfl⟩
    · cases hl
    · obtain ⟨hp, hc⟩ := Statement.link?_childOf_eq_some_iff.mp hl
      exact .inl ⟨hc.symm, t, ht, hp⟩
    · obtain ⟨hp, hc⟩ := Statement.link?_parentOf_eq_some_iff.mp hl
      exact .inr ⟨hp.symm, t, ht, hc⟩
  · rw [hstatements]
    rintro (⟨rfl, t, ht, hp⟩ | ⟨rfl, t, ht, hc⟩)
    · exact ⟨.childOf c t role, by simp [ht], Statement.link?_childOf_eq_some_iff.mpr ⟨hp, rfl⟩⟩
    · exact ⟨.parentOf p t .backend, by simp [ht], Statement.link?_parentOf_eq_some_iff.mpr ⟨rfl, hc⟩⟩

end Entry

namespace Snapshot

def Links (s : Snapshot) (r : Resolver) (x p c : ObjectRef) : Prop :=
  ∃ st ∈ s.statements r, st.subject = x ∧ st.link? r = some ⟨p, c⟩

structure Replaces (e e' : Entry) (s s' : Snapshot) : Prop where
  definitions : s.definitions = s'.definitions
  policies : s.policies = s'.policies
  rejected : s.rejected = s'.rejected
  statements : ∃ before after : Snapshot, ∀ r,
    s.statements r = before.statements r ++ e.statements r ++ after.statements r ∧
      s'.statements r = before.statements r ++ e'.statements r ++ after.statements r

theorem replaces_gateway (labelKey : String) (es es' : List Entry) (g g' : Gateway) :
    Replaces (.gateway g) (.gateway g') (ofEntries labelKey (es ++ .gateway g :: es'))
      (ofEntries labelKey (es ++ .gateway g' :: es')) := by
  have hs' : ofEntries labelKey (es ++ .gateway g' :: es') = { ofEntries labelKey (es ++ .gateway g :: es') with
      gateways := es.filterMap Entry.gateway? ++ g' :: es'.filterMap Entry.gateway? } := by
    simp [ofEntries, List.filterMap_cons, Entry.gatewayClass?, Entry.gateway?, Entry.route?, Entry.coreNamespace?,
      Entry.definition?, Entry.other?, Entry.rejected?]
  have hgateways : (ofEntries labelKey (es ++ .gateway g :: es')).gateways =
      es.filterMap Entry.gateway? ++ g :: es'.filterMap Entry.gateway? := by
    simp [ofEntries, List.filterMap_cons, Entry.gateway?]
  rw [hs']
  generalize ofEntries labelKey (es ++ .gateway g :: es') = s at hgateways ⊢
  refine ⟨rfl, rfl, rfl, { s with gateways := es.filterMap Entry.gateway?, routes := [] },
    { gateways := es'.filterMap Entry.gateway?, routes := s.routes }, fun r => ?_⟩
  simp [Snapshot.statements, Entry.statements, hgateways]

theorem replaces_route (labelKey : String) (es es' : List Entry) {h h' : HttpRoute}
    (hkinds : h.spec.backendRefs.map statedKind = h'.spec.backendRefs.map statedKind) :
    Replaces (.route h) (.route h') (ofEntries labelKey (es ++ .route h :: es'))
      (ofEntries labelKey (es ++ .route h' :: es')) := by
  have hbackends : backendKinds ((es ++ .route h' :: es').filterMap Entry.route?) =
      backendKinds ((es ++ .route h :: es').filterMap Entry.route?) := by
    simp [backendKinds, Entry.route?, hkinds]
  have hs' : ofEntries labelKey (es ++ .route h' :: es') = { ofEntries labelKey (es ++ .route h :: es') with
      routes := es.filterMap Entry.route? ++ h' :: es'.filterMap Entry.route? } := by
    rw [ofEntries, ofEntries, hbackends]
    simp [List.filterMap_cons, Entry.gatewayClass?, Entry.gateway?, Entry.route?, Entry.coreNamespace?,
      Entry.definition?, Entry.other?, Entry.rejected?]
  have hroutes : (ofEntries labelKey (es ++ .route h :: es')).routes =
      es.filterMap Entry.route? ++ h :: es'.filterMap Entry.route? := by
    simp [ofEntries, List.filterMap_cons, Entry.route?]
  rw [hs']
  generalize ofEntries labelKey (es ++ .route h :: es') = s at hroutes ⊢
  refine ⟨rfl, rfl, rfl, { s with routes := es.filterMap Entry.route? }, { routes := es'.filterMap Entry.route? },
    fun r => ?_⟩
  simp [Snapshot.statements, Entry.statements, hroutes]

theorem subject_mem_observed {s : Snapshot} {r : Resolver} {st : Statement} (h : st ∈ s.statements r) :
    st.subject ∈ s.observed r := by
  obtain ⟨kind, spec, hobserved⟩ := Statement.grounded_statements s r st h
  rw [← Statement.filterMap_observed?]
  exact List.mem_filterMap.mpr ⟨_, hobserved, rfl⟩

theorem mem_observed_of_mem_references {s : Snapshot} {r : Resolver} {a : ObjectRef × Reference}
    (h : a ∈ s.references r) : a.1 ∈ s.observed r := by
  rw [← Statement.filterMap_reference?, List.mem_filterMap] at h
  obtain ⟨st, hst, ha⟩ := h
  have hsubject := subject_mem_observed hst
  cases st with
  | observed id kind spec => cases ha
  | childOf id t role | parentOf id t role =>
    cases ha
    exact hsubject

namespace Replaces

variable {e e' : Entry} {s s' : Snapshot} {r : Resolver} {id : ObjectRef}

theorem exists_frame (h : Replaces e e' s s') (hid : e.ref?.map r.place = some id)
    (hcount : (s.observed r).count id = 1) : ∃ before after : Snapshot,
      id ∉ before.observed r ∧ id ∉ after.observed r ∧
        s.statements r = before.statements r ++ e.statements r ++ after.statements r ∧
          s'.statements r = before.statements r ++ e'.statements r ++ after.statements r := by
  obtain ⟨before, after, hstatements⟩ := h.statements
  obtain ⟨hs, hs'⟩ := hstatements r
  rw [← Statement.filterMap_observed?, hs, List.filterMap_append, List.filterMap_append,
    Entry.filterMap_observed?_statements hid, Statement.filterMap_observed?, Statement.filterMap_observed?,
    List.count_append, List.count_append, List.count_singleton_self] at hcount
  -- the object itself takes up the one occurrence
  refine ⟨before, after, ?_, ?_, hs, hs'⟩
  · exact List.count_eq_zero.mp (by omega)
  · exact List.count_eq_zero.mp (by omega)

section

variable (h : Replaces e e' s s') (hid : e.ref?.map r.place = some id) (hid' : e'.ref?.map r.place = some id)
  (hcount : (s.observed r).count id = 1)
include h hid hid' hcount

theorem links_iff_of_ne {x p c : ObjectRef} (hx : x ≠ id) : s'.Links r x p c ↔ s.Links r x p c := by
  obtain ⟨before, after, _, _, hs, hs'⟩ := h.exists_frame hid hcount
  have hown : ∀ {e : Entry}, e.ref?.map r.place = some id →
      ¬ ∃ st ∈ e.statements r, st.subject = x ∧ st.link? r = some ⟨p, c⟩ := by
    rintro e he ⟨st, hst, hsubject, _⟩
    exact hx (hsubject.symm.trans (Entry.subject_of_mem_statements he hst))
  simp only [Links, hs, hs', List.mem_append, or_and_right, exists_or, hown hid, hown hid']

theorem links_iff {p c : ObjectRef} : s'.Links r id p c ↔
    (c = id ∧ ∃ t ∈ e'.parents, r.resolve t id.namespaceName = .ok p) ∨
      p = id ∧ ∃ t ∈ e'.backends, r.resolve t id.namespaceName = .ok c := by
  obtain ⟨before, after, hbefore, hafter, _, hs'⟩ := h.exists_frame hid hcount
  have hother : ∀ {s : Snapshot}, id ∉ s.observed r →
      ¬ ∃ st ∈ s.statements r, st.subject = id ∧ st.link? r = some ⟨p, c⟩ := by
    rintro s hs ⟨st, hst, rfl, _⟩
    exact hs (subject_mem_observed hst)
  have hown : (∃ st ∈ e'.statements r, st.subject = id ∧ st.link? r = some ⟨p, c⟩) ↔
      ∃ st ∈ e'.statements r, st.link? r = some ⟨p, c⟩ :=
    exists_congr fun st => and_congr_right fun hst =>
      and_iff_right (Entry.subject_of_mem_statements hid' hst)
  simp only [Links, hs', List.mem_append, or_and_right, exists_or, hother hbefore, hother hafter, hown, false_or,
    or_false, Entry.exists_link?_iff hid']

theorem references_eq : (s'.references r).filter (·.1 = id) =
    (e'.parents ++ e'.backends).map (fun t => (id, t)) ∧
      (s'.references r).filter (·.1 ≠ id) = (s.references r).filter (·.1 ≠ id) := by
  obtain ⟨before, after, hbefore, hafter, hs, hs'⟩ := h.exists_frame hid hcount
  have hother : ∀ {s : Snapshot}, id ∉ s.observed r → (s.references r).filter (·.1 = id) = [] := by
    intro s hs
    apply List.filter_eq_nil_iff.mpr
    intro a ha heq
    exact hs (of_decide_eq_true heq ▸ mem_observed_of_mem_references ha)
  constructor
  · rw [← Statement.filterMap_reference?, hs']
    simp [Statement.filterMap_reference?, Entry.filterMap_reference?_statements hid', hother hbefore, hother hafter,
      List.filter_map, Function.comp_def]
  · rw [← Statement.filterMap_reference? s', ← Statement.filterMap_reference? s, hs, hs']
    simp [Entry.filterMap_reference?_statements hid, Entry.filterMap_reference?_statements hid', List.filter_map,
      Function.comp_def]

end

end Replaces

end Snapshot

end PolicyAttachment
