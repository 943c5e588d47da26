import PolicyAttachment.Proofs.Backends
import PolicyAttachment.Proofs.RecordReading
import PolicyAttachment.Proofs.Statements

namespace PolicyAttachment

def Reference.named (t : Reference) : Reference := { t with name := some (t.name.getD "") }

theorem Reference.orKind_named (t : Reference) (k : GroupKind) : t.named.orKind k = (t.orKind k).named := rfl

namespace Slot

def reference (p : Slot) : Reference where
  group := p.textOf? "group"
  kind := p.textOf? "kind"
  name := some ((p.textOf? "name").getD "")
  namespaceName := p.textOf? "namespace"

def classReference (p : Slot) : Reference := .ofKind .gatewayClass ((p.textOf? "gatewayClassName").getD "")

def mirror? (p : Slot) : Option Reference :=
  (p.member? "requestMirror").bind fun m => (m.member? "backendRef").map reference

def ruleReferences (p : Slot) : List Reference :=
  (p.itemsOf "backendRefs").map reference ++ (p.itemsOf "filters").filterMap mirror?

def parentReferences (p : Slot) : List Reference := ((p.itemsOf "parentRefs").map reference).map Reference.asParent

def backendReferences (p : Slot) : List Reference :=
  ((p.itemsOf "rules").flatMap ruleReferences).map Reference.asBackend

end Slot

namespace Document

def parents (k : GroupKind) (d : Document) : List Reference :=
  if k = .gateway then
    [(((⟨Schema.gateway, d⟩ : Slot).member? "spec").map Slot.classReference).getD (.ofKind .gatewayClass "")]
  else if k = .httpRoute then
    (((⟨Schema.httpRoute, d⟩ : Slot).member? "spec").map Slot.parentReferences).getD []
  else []

def backends (k : GroupKind) (d : Document) : List Reference :=
  if k = .httpRoute then
    (((⟨Schema.httpRoute, d⟩ : Slot).member? "spec").map Slot.backendReferences).getD []
  else []

end Document

structure Schema.Refers (s : Schema) : Prop where
  strict : s.Strict
  parts : ∀ name ∈ Reference.parts, name ∈ s.fields.map (·.1) ∧ (s.sub name).isText = true

instance (s : Schema) : Decidable s.Refers :=
  decidable_of_iff
    (s.Strict ∧ ∀ name ∈ Reference.parts, name ∈ s.fields.map (·.1) ∧ (s.sub name).isText = true)
    ⟨fun h => ⟨h.1, h.2⟩, fun h => ⟨h.strict, h.parts⟩⟩

theorem filterMap_eq_filterMap_of_forall₂ {α β γ : Type} {R : α → β → Prop} {f : α → Option γ} {g : β → Option γ}
    {as : List α} {bs : List β} (h : List.Forall₂ R as bs) (hfg : ∀ a b, R a b → f a = g b) :
    as.filterMap f = bs.filterMap g := by
  induction h with
  | nil => rfl
  | cons hab _ ih => rw [List.filterMap_cons, List.filterMap_cons, hfg _ _ hab, ih]

namespace Slot

variable {s : Schema} {p : Slot} {w : Document}

theorem ReadsAs.reference_eq (h : p.ReadsAs s w) (hs : s.Refers) :
    p.reference = (Reference.ofDocument w).named := by
  have htext : ∀ name ∈ Reference.parts, p.textOf? name = w.stringField? name :=
    fun name hname => h.textOf?_eq hs.strict (hs.parts name hname).1 (hs.parts name hname).2
  simp only [reference, htext _ (show "group" ∈ Reference.parts by decide),
    htext _ (show "kind" ∈ Reference.parts by decide), htext _ (show "name" ∈ Reference.parts by decide),
    htext _ (show "namespace" ∈ Reference.parts by decide)]
  rfl

theorem ReadsAs.map_reference_eq (h : p.ReadsAs s w) (hs : s.Strict) {item : Schema} {name : String}
    (hname : name ∈ s.fields.map (·.1)) (hlist : s.sub name = .list item) (hitem : item.Refers) :
    (p.itemsOf name).map reference = ((w.itemsOf name).map Reference.ofDocument).map Reference.named := by
  rw [List.map_map]
  exact map_eq_map_of_forall₂ (h.forall₂_itemsOf hs hname hlist) fun _ _ hread => hread.reference_eq hitem

theorem ReadsAs.mirror?_eq (h : p.ReadsAs (Schema.filter "HTTPRouteRulesFilters") w) : p.mirror? =
    (((w.field? "requestMirror").bind (Document.field? "backendRef")).map Reference.ofDocument).map
      Reference.named := by
  rw [mirror?, Option.map_bind, Option.map_bind]
  apply h.bind_member?_eq (by decide) (by decide)
  intro m v hm
  rw [Function.comp_apply, Function.comp_apply, Option.map_map]
  exact hm.map_member?_eq (by decide) (by decide) fun q v hq => hq.reference_eq (by decide)

theorem ReadsAs.ruleReferences_eq (h : p.ReadsAs Schema.routeRule w) : p.ruleReferences =
    ((w.itemsOf "backendRefs").map Reference.ofDocument ++
      (RouteSpec.filtersOf w).filterMap (·.mirror)).map Reference.named := by
  rw [List.map_append, ruleReferences]
  congr 1
  · exact h.map_reference_eq (by decide) (by decide) rfl (by decide)
  · rw [RouteSpec.filtersOf, List.filterMap_map, List.map_filterMap]
    apply filterMap_eq_filterMap_of_forall₂ (h.forall₂_itemsOf (by decide) (by decide) rfl)
    exact fun q v hq => hq.mirror?_eq

theorem ReadsAs.parentReferences_eq (h : p.ReadsAs Schema.routeSpec w) :
    p.parentReferences = (RouteSpec.ofDocument w).parentRefs.map Reference.named := by
  rw [parentReferences, h.map_reference_eq (by decide) (by decide) rfl (by decide)]
  simp only [RouteSpec.parentRefs, RouteSpec.ofDocument, List.map_map, Function.comp_def, Reference.orKind_named,
    Reference.asParent]

theorem ReadsAs.backendReferences_eq (h : p.ReadsAs Schema.routeSpec w) :
    p.backendReferences = (RouteSpec.ofDocument w).backendRefs.map Reference.named := by
  have hrules : (p.itemsOf "rules").map ruleReferences = (w.itemsOf "rules").map fun rule =>
      ((rule.itemsOf "backendRefs").map Reference.ofDocument ++
        (RouteSpec.filtersOf rule).filterMap (·.mirror)).map Reference.named :=
    map_eq_map_of_forall₂ (h.forall₂_itemsOf (by decide) (by decide) rfl) fun _ _ hrule => hrule.ruleReferences_eq
  rw [backendReferences, List.flatMap_def, hrules, ← List.flatMap_def]
  simp only [RouteSpec.backendRefs, RouteSpec.ofDocument, List.flatMap_map, List.map_flatMap, List.map_append,
    List.map_map, Function.comp_def, Reference.orKind_named, Reference.asBackend]

end Slot

theorem Gateway.read_eq_ok_iff {d : Document} {g : Gateway} : read d = .ok g ↔ ∃ w,
    Schema.gateway.read d = .ok w ∧ ⟨.ofObject w, .ofDocument ((w.field? "spec").getD .null)⟩ = g := by
  rw [read]
  cases Schema.gateway.read d <;> simp [bind, Except.bind]

theorem HttpRoute.read_eq_ok_iff {d : Document} {h : HttpRoute} : read d = .ok h ↔ ∃ w,
    Schema.httpRoute.read d = .ok w ∧ ⟨.ofObject w, .ofDocument ((w.field? "spec").getD .null)⟩ = h := by
  rw [read]
  cases Schema.httpRoute.read d <;> simp [bind, Except.bind]

theorem Gateway.parents_of_read {d : Document} {g : Gateway} (h : read d = .ok g) :
    d.parents .gateway = [g.spec.classRef] := by
  obtain ⟨w, hread, rfl⟩ := read_eq_ok_iff.mp h
  have hslot : (⟨Schema.gateway, d⟩ : Slot).ReadsAs Schema.gateway w := ⟨rfl, hread⟩
  have hclass : ((⟨Schema.gateway, d⟩ : Slot).member? "spec").map Slot.classReference =
      (w.field? "spec").map fun v => (GatewaySpec.ofDocument v).classRef := by
    apply hslot.map_member?_eq (by decide) (by decide)
    intro q v hq
    rw [Slot.classReference, hq.textOf?_eq (by decide) (by decide) rfl]
    rfl
  rw [Document.parents, if_pos rfl, hclass]
  cases w.field? "spec" <;> rfl

theorem HttpRoute.references_of_read {d : Document} {h : HttpRoute} (hh : read d = .ok h) :
    d.parents .httpRoute = h.spec.parentRefs.map Reference.named ∧
      d.backends .httpRoute = h.spec.backendRefs.map Reference.named := by
  obtain ⟨w, hread, rfl⟩ := read_eq_ok_iff.mp hh
  have hslot : (⟨Schema.httpRoute, d⟩ : Slot).ReadsAs Schema.httpRoute w := ⟨rfl, hread⟩
  have hparents : ((⟨Schema.httpRoute, d⟩ : Slot).member? "spec").map Slot.parentReferences =
      (w.field? "spec").map fun v => (RouteSpec.ofDocument v).parentRefs.map Reference.named :=
    hslot.map_member?_eq (by decide) (by decide) fun q v hq => hq.parentReferences_eq
  have hbackends : ((⟨Schema.httpRoute, d⟩ : Slot).member? "spec").map Slot.backendReferences =
      (w.field? "spec").map fun v => (RouteSpec.ofDocument v).backendRefs.map Reference.named :=
    hslot.map_member?_eq (by decide) (by decide) fun q v hq => hq.backendReferences_eq
  rw [Document.parents, if_neg (by decide), if_pos rfl, hparents, Document.backends, if_pos rfl, hbackends]
  cases w.field? "spec" <;> exact ⟨rfl, rfl⟩

end PolicyAttachment
