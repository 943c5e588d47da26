import PolicyAttachment.Proofs.ReferencePlaces

namespace PolicyAttachment

def Reference.MayLoseName (t t' : Reference) : Prop := t' = t ∨ t' = { t with name := some "" }

namespace Document

def without (key : String) : Document → Document
  | .object fs => .object (fs.filter (·.1 ≠ key))
  | d => d

def Unnames (k : GroupKind) : Document → Document → Prop :=
  AtReferences (fun key v v' => v' = v ∨ v' = v.without key) k

def Blanked (key : String) (w w' : Document) : Prop :=
  ∃ v v' : Document, (v' = v ∨ v' = v.without key) ∧ v.filled key = w ∧ v'.filled key = w'

variable {k : GroupKind} {d d' : Document}

theorem null_iff_without {key : String} {v v' : Document} (h : v' = v ∨ v' = v.without key) :
    v = .null ↔ v' = .null := by
  rcases h with rfl | rfl
  · exact Iff.rfl
  · cases v <;> simp [without]

theorem filled_without_object (key : String) (fs : List (String × Document)) :
    ((object fs).without key).filled key =
      .object (SortedMap.insertEntry key (.string "") (fs.filter (·.1 ≠ key))) := by
  have hnone : SortedMap.lookup key (fs.filter (·.1 ≠ key)) = none :=
    SortedMap.lookup_eq_none_iff.mpr fun e he => of_decide_eq_true (List.mem_filter.mp he).2
  rw [without, filled, withDefault, hnone]

theorem Unnames.withReferenceNames (hd : d.Unnames k d') :
    AtReferences Blanked k (d.withReferenceNames k) (d'.withReferenceNames k) :=
  AtReferences.withReferenceNames hd fun _ v v' hv => ⟨v, v', hv, rfl, rfl⟩

theorem textOf?_without_object (s : Schema) (key : String) (fs : List (String × Document)) :
    (⟨s, (object fs).without key⟩ : Slot).textOf? key = none := by
  have hnone : SortedMap.lookup key ((fs.filter (·.1 ≠ key)).filter (·.2 ≠ .null)) = none :=
    SortedMap.lookup_eq_none_iff.mpr fun e he =>
      of_decide_eq_true (List.mem_filter.mp (List.mem_filter.mp he).1).2
  rw [Slot.textOf?, Slot.member?, without, Slot.fields, hnone]
  rfl

theorem textOf?_without {other key : String} (hne : other ≠ key) (s : Schema) (v : Document) :
    (⟨s, v.without key⟩ : Slot).textOf? other = (⟨s, v⟩ : Slot).textOf? other := by
  cases v with
  | object fs =>
    have hsame : (fs.filter (·.1 ≠ key)).filter (·.1 ≠ key) = fs.filter (·.1 ≠ key) := by
      rw [List.filter_filter]
      simp only [Bool.and_self]
    rw [Slot.textOf?, Slot.textOf?, without, Slot.member?_object_congr hsame hne]
  | null | bool _ | number _ | string _ | array _ => rfl

theorem reference_without (s : Schema) (v : Document) :
    (⟨s, v⟩ : Slot).reference.MayLoseName (⟨s, v.without "name"⟩ : Slot).reference := by
  cases v with
  | object fs =>
    right
    simp only [Slot.reference, textOf?_without_object, Option.getD_none, ne_eq, String.reduceEq, not_false_eq_true,
      textOf?_without]
  | null | bool _ | number _ | string _ | array _ => exact .inl rfl

theorem classReference_without (s : Schema) (v : Document) :
    (⟨s, v⟩ : Slot).classReference.MayLoseName (⟨s, v.without "gatewayClassName"⟩ : Slot).classReference := by
  cases v with
  | object fs =>
    right
    rw [Slot.classReference, textOf?_without_object]
    rfl
  | null | bool _ | number _ | string _ | array _ => exact .inl rfl

theorem references_mayLoseName :
    References (fun key v v' => v' = v ∨ v' = v.without key) Reference.MayLoseName where
  name :=
    { refl := fun _ => .inl rfl
      null := null_iff_without
      rel := fun {s v v'} hv => by
        rcases hv with rfl | rfl
        · exact .inl rfl
        · exact reference_without s v }
  className :=
    { refl := fun _ => .inl rfl
      null := null_iff_without
      rel := fun {s v v'} hv => by
        rcases hv with rfl | rfl
        · exact .inl rfl
        · exact classReference_without s v }
  orKind k _ _ ht := ht.imp (congrArg (Reference.orKind · k)) (congrArg (Reference.orKind · k))

theorem Unnames.map_statedKind_backends (hd : d.Unnames k d') :
    (d.backends k).map Snapshot.statedKind = (d'.backends k).map Snapshot.statedKind := by
  apply map_eq_map_of_forall₂ (AtReferences.forall₂_backends hd references_mayLoseName)
  rintro t t' (rfl | rfl) <;> rfl

end Document

theorem exists_of_mem_of_forall₂ {α β : Type} {R : α → β → Prop} {as : List α} {bs : List β}
    (h : List.Forall₂ R as bs) : ∀ b ∈ bs, ∃ a ∈ as, R a b := by
  induction h with
  | nil => simp
  | cons hab _ ih =>
    refine List.forall_mem_cons.mpr ⟨⟨_, List.mem_cons_self, hab⟩, fun b hb => ?_⟩
    obtain ⟨a, ha, hab⟩ := ih b hb
    exact ⟨a, List.mem_cons_of_mem _ ha, hab⟩

namespace Schema

/-- What can be read by the schema can be read after the change, and null is not changed. -/
structure Keeps (s : Schema) (R : Document → Document → Prop) : Prop where
  null : ∀ {v'}, R .null v' → v' = .null
  admits : ∀ {v v'}, R v v' → s.Admits v → s.Admits v'

variable {s item : Schema} {name : String} {Q : Document → Document → Prop} {R : String → Document → Document → Prop}

theorem Keeps.same (s : Schema) : s.Keeps fun v v' => v' = v where
  null h := h
  admits h hv := h ▸ hv

theorem Keeps.atItems (h : item.Keeps Q) : (list item).Keeps (Document.AtItems Q) where
  null hd := by
    cases hd
    rfl
  admits hd hv := by
    cases hd with
    | same => exact hv
    | changed hds =>
      obtain ⟨ds, hv, hread⟩ := admits_list_iff.mp hv
      cases hv
      refine admits_list_iff.mpr ⟨_, rfl, fun e' he' => ?_⟩
      obtain ⟨e, he, hee⟩ := exists_of_mem_of_forall₂ hds e' he'
      exact h.admits hee (hread e he)

theorem Keeps.atFields (hs : s.fields ≠ []) (h : ∀ name, (s.sub name).Keeps (R name)) :
    s.Keeps (Document.AtFields R) where
  null hd := by
    cases hd
    rfl
  admits hd hv := by
    cases hd with
    | same => exact hv
    | @changed fs fs' hfs =>
      cases s with
      | record expected positional fields =>
        obtain ⟨hread, hrequired⟩ := admits_object_iff.mp hv
        have hnames : fs'.map (·.1) = fs.map (·.1) := (map_eq_map_of_forall₂ hfs fun _ _ he => he.1.symm).symm
        refine admits_object_iff.mpr ⟨fun e' he' => ?_, hnames ▸ hrequired⟩
        obtain ⟨e, he, hname, hee⟩ := exists_of_mem_of_forall₂ hfs e' he'
        rw [hname, exists_readNamed_iff]
        intro f hf
        have hsub : (record expected positional fields).sub e.1 = f.2.2 := by
          rw [sub, field?, Schema.fields, hf]
        rcases exists_readNamed_iff.mp (hread e he) f hf with ⟨hallows, hnull⟩ | hadmits
        · exact .inl ⟨hallows, (h e.1).null (hnull ▸ hee)⟩
        · exact .inr (hsub ▸ (h e.1).admits hee (hsub.symm ▸ hadmits))
      | _ => exact absurd rfl hs

theorem Keeps.atField (hs : s.fields ≠ []) (h : (s.sub name).Keeps Q) : s.Keeps (Document.AtField name Q) := by
  apply Keeps.atFields hs
  intro key
  by_cases hkey : key = name
  · simpa only [hkey, if_true] using h
  · simpa only [hkey, if_false] using Keeps.same _

theorem Admits.insertEntry {key : String} {ws : List (String × Document)} (hs : s.fields ≠ [])
    (htext : (s.sub key).isText = true) (hread : s.Admits (.object ws)) :
    s.Admits (.object (SortedMap.insertEntry key (.string "") (ws.filter (·.1 ≠ key)))) := by
  cases s with
  | record expected positional fields =>
    obtain ⟨hread, hrequired⟩ := admits_object_iff.mp hread
    have hkey : (key, .string "") ∈ SortedMap.insertEntry key (.string "") (ws.filter (·.1 ≠ key)) :=
      SortedMap.mem_of_lookup (SortedMap.lookup_insertEntry_self ..)
    have hother : ∀ e ∈ ws, e.1 ≠ key → e ∈ SortedMap.insertEntry key (.string "") (ws.filter (·.1 ≠ key)) := by
      intro e he hne
      have hmem : e ∈ (ws.filter (·.1 ≠ key)).filter (·.1 ≠ key) := by simp [he, hne]
      rw [← SortedMap.filter_ne_insertEntry key (.string "")] at hmem
      exact (List.mem_filter.mp hmem).1
    -- the field put in is read as a text, and no other field goes missing
    refine admits_object_iff.mpr ⟨fun e he => ?_, fun f hf hrequiredField => ?_⟩
    · rcases SortedMap.mem_insertEntry he with rfl | he
      · rw [exists_readNamed_iff]
        intro f hf
        have hsub : (record expected positional fields).sub key = f.2.2 := by
          rw [sub, field?, Schema.fields, hf]
        rw [hsub] at htext
        exact .inr ⟨.string "", by rw [eq_text_of_isText htext]; rfl⟩
      · exact hread e (List.mem_filter.mp he).1
    · obtain ⟨e, he, hname⟩ := List.mem_map.mp (hrequired f hf hrequiredField)
      by_cases hne : e.1 = key
      · exact List.mem_map.mpr ⟨_, hkey, hne.symm.trans hname⟩
      · exact List.mem_map.mpr ⟨e, hother e he hne, hname⟩
  | _ => exact absurd rfl hs

theorem Keeps.blanked {key : String} (hs : s.fields ≠ []) (htext : (s.sub key).isText = true) :
    s.Keeps (Document.Blanked key) where
  null hd := by
    obtain ⟨v, v', hv, hnull, rfl⟩ := hd
    cases v with
    | object fs =>
      obtain ⟨ws, hws, _⟩ := Document.exists_filled_object key fs
      rw [hws] at hnull
      cases hnull
    | null => rcases hv with rfl | rfl <;> rfl
    | bool _ | number _ | string _ | array _ => cases hnull
  admits hd hread := by
    obtain ⟨v, v', rfl | rfl, rfl, rfl⟩ := hd
    · exact hread
    · cases v with
      | object fs =>
        obtain ⟨ws, hws, hother⟩ := Document.exists_filled_object key fs
        rw [hws] at hread
        rw [Document.filled_without_object, ← hother]
        exact hread.insertEntry hs htext
      | null | bool _ | number _ | string _ | array _ => exact hread

theorem keeps_filter : (filter "HTTPRouteRulesFilters").Keeps
    (Document.AtField "requestMirror" (Document.AtField "backendRef" (Document.Blanked "name"))) := by
  apply Keeps.atField (by decide)
  apply Keeps.atField (by decide)
  exact Keeps.blanked (by decide) rfl

theorem keeps_routeRule : routeRule.Keeps (Document.AtRule (Document.Blanked "name")) := by
  apply Keeps.atFields (by decide)
  intro name
  by_cases hbackends : name = "backendRefs"
  · subst hbackends
    exact Keeps.atItems (Keeps.blanked (by decide) rfl)
  · by_cases hfilters : name = "filters"
    · subst hfilters
      exact Keeps.atItems keeps_filter
    · simpa only [hbackends, hfilters, if_false] using Keeps.same _

theorem keeps_routeSpec : routeSpec.Keeps (Document.AtRouteSpec (Document.Blanked "name")) := by
  apply Keeps.atFields (by decide)
  intro name
  by_cases hparents : name = "parentRefs"
  · subst hparents
    exact Keeps.atItems (Keeps.blanked (by decide) rfl)
  · by_cases hrules : name = "rules"
    · subst hrules
      exact Keeps.atItems keeps_routeRule
    · simpa only [hparents, hrules, if_false] using Keeps.same _

theorem keeps_gateway : gateway.Keeps (Document.AtReferences Document.Blanked .gateway) :=
  Keeps.atField (by decide) (Keeps.blanked (by decide) rfl)

theorem keeps_httpRoute : httpRoute.Keeps (Document.AtReferences Document.Blanked .httpRoute) :=
  Keeps.atField (by decide) keeps_routeSpec

end Schema

theorem Document.Unnames.exists_read {s : Schema} {k : GroupKind} {d d' w : Document} (hd : d.Unnames k d')
    (hs : s.Strict) (hname : "metadata" ∈ s.fields.map (·.1)) (hkeeps : s.Keeps (AtReferences Blanked k))
    (hw : s.read (d.withReferenceNames k) = .ok w) :
    ∃ w', s.read (d'.withReferenceNames k) = .ok w' ∧ Metadata.ofObject w' = Metadata.ofObject w := by
  obtain ⟨w', hw'⟩ := hkeeps.admits hd.withReferenceNames ⟨w, hw⟩
  have hslot : (⟨s, d.withReferenceNames k⟩ : Slot).ReadsAs s w := ⟨rfl, hw⟩
  have hslot' : (⟨s, d'.withReferenceNames k⟩ : Slot).ReadsAs s w' := ⟨rfl, hw'⟩
  have hmetadata : w.field? "metadata" = w'.field? "metadata" :=
    hslot.field?_eq hslot' hs hname (hd.withReferenceNames.member?_eq (by decide) s)
  exact ⟨w', hw', by rw [Metadata.ofObject, Metadata.ofObject, hmetadata]⟩

theorem Gateway.exists_read_of_unnames {d d' : Document} {g : Gateway} (hd : d.Unnames .gateway d')
    (hg : read (d.withReferenceNames .gateway) = .ok g) :
    ∃ g', read (d'.withReferenceNames .gateway) = .ok g' ∧ g'.metadata = g.metadata := by
  obtain ⟨w, hw, rfl⟩ := read_eq_ok_iff.mp hg
  obtain ⟨w', hw', hmetadata⟩ := hd.exists_read (by decide) (by decide) Schema.keeps_gateway hw
  exact ⟨_, read_eq_ok_iff.mpr ⟨w', hw', rfl⟩, hmetadata⟩

theorem HttpRoute.exists_read_of_unnames {d d' : Document} {h : HttpRoute} (hd : d.Unnames .httpRoute d')
    (hh : read (d.withReferenceNames .httpRoute) = .ok h) :
    ∃ h', read (d'.withReferenceNames .httpRoute) = .ok h' ∧ h'.metadata = h.metadata := by
  obtain ⟨w, hw, rfl⟩ := read_eq_ok_iff.mp hh
  obtain ⟨w', hw', hmetadata⟩ := hd.exists_read (by decide) (by decide) Schema.keeps_httpRoute hw
  exact ⟨_, read_eq_ok_iff.mpr ⟨w', hw', rfl⟩, hmetadata⟩

end PolicyAttachment
