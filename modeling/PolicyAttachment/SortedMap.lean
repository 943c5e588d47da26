namespace PolicyAttachment

/-- A finite map as the list of its entries in strictly ascending key order. -/
structure SortedMap (κ υ : Type) [Ord κ] where
  entries : List (κ × υ)
  ascending : entries.Pairwise fun a b => compare a.1 b.1 = .lt

namespace SortedMap

open Std

variable {κ υ : Type} [Ord κ]

def lookup (k : κ) : List (κ × υ) → Option υ
  | [] => none
  | e :: es => if compare k e.1 = .eq then some e.2 else lookup k es

def insertEntry (k : κ) (v : υ) : List (κ × υ) → List (κ × υ)
  | [] => [(k, v)]
  | e :: es =>
    match compare k e.1 with
    | .lt => (k, v) :: e :: es
    | .eq => (k, v) :: es
    | .gt => e :: insertEntry k v es

theorem mem_insertEntry {k : κ} {v : υ} {es : List (κ × υ)} {e : κ × υ}
    (h : e ∈ insertEntry k v es) : e = (k, v) ∨ e ∈ es := by
  induction es with
  | nil => simpa [insertEntry] using h
  | cons d es ih =>
    simp only [insertEntry] at h
    split at h
    · simpa using h
    · grind
    · grind

theorem ascending_insertEntry [TransOrd κ] (k : κ) (v : υ) {es : List (κ × υ)}
    (h : es.Pairwise fun a b => compare a.1 b.1 = .lt) :
    (insertEntry k v es).Pairwise fun a b => compare a.1 b.1 = .lt := by
  induction es with
  | nil => simp [insertEntry]
  | cons d es ih =>
    obtain ⟨hd, hes⟩ := List.pairwise_cons.1 h
    simp only [insertEntry]
    split
    · rename_i hk
      refine List.pairwise_cons.2 ⟨fun e he => ?_, h⟩
      rcases List.mem_cons.1 he with rfl | he
      · exact hk
      · exact TransCmp.lt_trans hk (hd e he)
    · rename_i hk
      exact List.pairwise_cons.2 ⟨fun e he => TransCmp.lt_of_eq_of_lt hk (hd e he), hes⟩
    · rename_i hk
      refine List.pairwise_cons.2 ⟨fun e he => ?_, ih hes⟩
      rcases mem_insertEntry he with rfl | he
      · exact OrientedCmp.lt_of_gt hk
      · exact hd e he

def empty : SortedMap κ υ := ⟨[], .nil⟩

instance : Inhabited (SortedMap κ υ) := ⟨empty⟩

instance [DecidableEq κ] [DecidableEq υ] : DecidableEq (SortedMap κ υ) := fun a b =>
  decidable_of_iff (a.entries = b.entries) (by cases a; cases b; simp)

def get? (m : SortedMap κ υ) (k : κ) : Option υ := lookup k m.entries

def contains (m : SortedMap κ υ) (k : κ) : Bool := (m.get? k).isSome

def keys (m : SortedMap κ υ) : List κ := m.entries.map (·.1)

def values (m : SortedMap κ υ) : List υ := m.entries.map (·.2)

def size (m : SortedMap κ υ) : Nat := m.entries.length

def isEmpty (m : SortedMap κ υ) : Bool := m.entries.isEmpty

def insert [TransOrd κ] (m : SortedMap κ υ) (k : κ) (v : υ) : SortedMap κ υ :=
  ⟨insertEntry k v m.entries, ascending_insertEntry k v m.ascending⟩

def insertMany [TransOrd κ] (m : SortedMap κ υ) (es : List (κ × υ)) : SortedMap κ υ :=
  es.foldl (fun m e => m.insert e.1 e.2) m

def ofList [TransOrd κ] (es : List (κ × υ)) : SortedMap κ υ := empty.insertMany es

theorem lookup_insertEntry [TransOrd κ] (k j : κ) (v : υ) (es : List (κ × υ)) :
    lookup j (insertEntry k v es) = if compare j k = .eq then some v else lookup j es := by
  induction es with
  | nil => simp [insertEntry, lookup]
  | cons d es ih =>
    simp only [insertEntry]
    split
    · simp [lookup]
    · rename_i hk
      by_cases hj : compare j k = .eq
      · simp [lookup, hj]
      · have : compare j d.1 ≠ .eq := fun h =>
          hj (TransCmp.eq_trans h (OrientedCmp.eq_symm hk))
        simp [lookup, hj, this]
    · rename_i hk
      by_cases hj : compare j k = .eq
      · have : compare j d.1 ≠ .eq := fun h => by
          have := TransCmp.eq_trans (OrientedCmp.eq_symm hj) h
          simp [this] at hk
        simp [lookup, ih, hj, this]
      · simp [lookup, ih, hj]

theorem lookup_insertEntry_self [TransOrd κ] (k : κ) (v : υ) (es : List (κ × υ)) :
    lookup k (insertEntry k v es) = some v := by
  rw [lookup_insertEntry, if_pos ReflCmp.compare_self]

theorem filter_ne_insertEntry [TransOrd κ] [LawfulEqOrd κ] [DecidableEq κ] (k : κ) (v : υ)
    (es : List (κ × υ)) : (insertEntry k v es).filter (·.1 ≠ k) = es.filter (·.1 ≠ k) := by
  induction es with
  | nil => simp [insertEntry]
  | cons d es ih =>
    rw [insertEntry]
    split
    · rw [List.filter_cons_of_neg (by simp)]
    · rename_i hk
      rw [List.filter_cons_of_neg (by simp), List.filter_cons_of_neg (by simp [LawfulEqCmp.eq_of_compare hk])]
    · rw [List.filter_cons, List.filter_cons, ih]

theorem lookup_cons [TransOrd κ] [LawfulEqOrd κ] [DecidableEq κ] (k : κ) (e : κ × υ) (es : List (κ × υ)) :
    lookup k (e :: es) = if e.1 = k then some e.2 else lookup k es := by
  simp only [lookup, Std.compare_eq_iff_eq, @eq_comm κ k]

theorem lookup_eq_none_iff [TransOrd κ] [LawfulEqOrd κ] [DecidableEq κ] {k : κ} {es : List (κ × υ)} :
    lookup k es = none ↔ ∀ e ∈ es, e.1 ≠ k := by
  induction es with
  | nil => simp [lookup]
  | cons e es ih =>
    rw [lookup_cons, List.forall_mem_cons, ← ih]
    split
    · rename_i hk
      simp [hk]
    · rename_i hk
      simp [hk]

theorem lookup_filter_ne [LawfulEqOrd κ] [DecidableEq κ] {j k : κ} (h : j ≠ k) (es : List (κ × υ)) :
    lookup j (es.filter (·.1 ≠ k)) = lookup j es := by
  induction es with
  | nil => rfl
  | cons d es ih =>
    rw [List.filter_cons]
    split
    · rw [lookup, lookup, ih]
    · rename_i hd
      have hd : d.1 = k := by simpa using hd
      rw [ih, lookup, if_neg (by simp [hd, h])]

theorem lookup_filter_of_lookup [LawfulEqOrd κ] {k : κ} {v : υ} {p : κ × υ → Bool} (hp : p (k, v) = true)
    {es : List (κ × υ)} (h : lookup k es = some v) : lookup k (es.filter p) = some v := by
  induction es with
  | nil => cases h
  | cons d es ih =>
    rw [lookup] at h
    split at h
    · rename_i hk
      obtain rfl := LawfulEqCmp.eq_of_compare hk
      obtain rfl := Option.some.inj h
      rw [List.filter_cons_of_pos hp, lookup, if_pos hk]
    · rename_i hk
      rw [List.filter_cons]
      split
      · rw [lookup, if_neg hk, ih h]
      · exact ih h

@[simp] theorem get?_empty (k : κ) : (empty : SortedMap κ υ).get? k = none := rfl

@[simp] theorem keys_empty : (empty : SortedMap κ υ).keys = [] := rfl

theorem get?_insert [TransOrd κ] [LawfulEqOrd κ] [DecidableEq κ] (m : SortedMap κ υ) (k j : κ)
    (v : υ) : (m.insert k v).get? j = if j = k then some v else m.get? j := by
  simp only [get?, insert, lookup_insertEntry, Std.compare_eq_iff_eq]

theorem lookup_eq_none_of_forall_lt [TransOrd κ] {k : κ} {es : List (κ × υ)}
    (h : ∀ e ∈ es, compare k e.1 = .lt) : lookup k es = none := by
  induction es with
  | nil => rfl
  | cons d es ih => simp_all [lookup]

theorem mem_of_lookup [TransOrd κ] [LawfulEqOrd κ] {k : κ} {v : υ} {es : List (κ × υ)}
    (h : lookup k es = some v) : (k, v) ∈ es := by
  induction es with
  | nil => simp [lookup] at h
  | cons d es ih =>
    simp only [lookup] at h
    split at h
    · rename_i hk
      obtain rfl := Option.some.inj h
      exact LawfulEqCmp.eq_of_compare hk ▸ List.mem_cons_self
    · exact List.mem_cons_of_mem _ (ih h)

theorem lookup_of_mem [TransOrd κ] {k : κ} {v : υ} {es : List (κ × υ)}
    (ha : es.Pairwise fun a b => compare a.1 b.1 = .lt) (h : (k, v) ∈ es) :
    lookup k es = some v := by
  induction es with
  | nil => simp at h
  | cons d es ih =>
    obtain ⟨hd, hes⟩ := List.pairwise_cons.1 ha
    rcases List.mem_cons.1 h with rfl | h
    · simp [lookup]
    · have : compare k d.1 = .gt := OrientedCmp.gt_of_lt (hd _ h)
      simp [lookup, this, ih hes h]

theorem get?_eq_some_iff [TransOrd κ] [LawfulEqOrd κ] {m : SortedMap κ υ} {k : κ} {v : υ} :
    m.get? k = some v ↔ (k, v) ∈ m.entries :=
  ⟨mem_of_lookup, lookup_of_mem m.ascending⟩

theorem entries_eq_of_lookup_eq [TransOrd κ] [LawfulEqOrd κ] {es ds : List (κ × υ)}
    (he : es.Pairwise fun a b => compare a.1 b.1 = .lt)
    (hd : ds.Pairwise fun a b => compare a.1 b.1 = .lt)
    (h : ∀ k, lookup k es = lookup k ds) : es = ds := by
  induction es generalizing ds with
  | nil =>
    cases ds with
    | nil => rfl
    | cons d ds => have := h d.1; simp [lookup] at this
  | cons e es ih =>
    cases ds with
    | nil => have := h e.1; simp [lookup] at this
    | cons d ds =>
      obtain ⟨hle, hes⟩ := List.pairwise_cons.1 he
      obtain ⟨hld, hds⟩ := List.pairwise_cons.1 hd
      have hmem : ∀ {k v}, (k, v) ∈ e :: es ↔ (k, v) ∈ d :: ds := fun {k v} =>
        ⟨fun m => mem_of_lookup (h k ▸ lookup_of_mem he m),
          fun m => mem_of_lookup ((h k).symm ▸ lookup_of_mem hd m)⟩
      have hed : e = d := by
        rcases List.mem_cons.1 (hmem.1 (List.mem_cons_self (a := e))) with h1 | h1
        · exact h1
        rcases List.mem_cons.1 (hmem.2 (List.mem_cons_self (a := d))) with h2 | h2
        · exact h2.symm
        · have := TransCmp.lt_trans (hle _ h2) (hld _ h1)
          simp at this
      subst hed
      have : es = ds := ih hes hds fun k => by
        by_cases hk : compare k e.1 = .eq
        · have he' : ∀ a ∈ es, compare k a.1 = .lt := fun a ha =>
            TransCmp.lt_of_eq_of_lt hk (hle a ha)
          have hd' : ∀ a ∈ ds, compare k a.1 = .lt := fun a ha =>
            TransCmp.lt_of_eq_of_lt hk (hld a ha)
          rw [lookup_eq_none_of_forall_lt he', lookup_eq_none_of_forall_lt hd']
        · simpa [lookup, hk] using h k
      rw [this]

theorem ext_get? [TransOrd κ] [LawfulEqOrd κ] {m n : SortedMap κ υ}
    (h : ∀ k, m.get? k = n.get? k) : m = n := by
  cases m; cases n
  simp only [SortedMap.mk.injEq]
  exact entries_eq_of_lookup_eq ‹_› ‹_› h

theorem pairwise_keys (m : SortedMap κ υ) : m.keys.Pairwise fun a b => compare a b = .lt :=
  List.pairwise_map.mpr m.ascending

theorem nodup_of_pairwise_lt [TransOrd κ] {as : List κ} (h : as.Pairwise fun a b => compare a b = .lt) :
    as.Nodup := by
  refine h.imp fun hlt he => ?_
  rw [he] at hlt
  simp at hlt

theorem nodup_keys [TransOrd κ] (m : SortedMap κ υ) : m.keys.Nodup := nodup_of_pairwise_lt m.pairwise_keys

theorem eq_of_pairwise_lt [TransOrd κ] {as bs : List κ} (ha : as.Pairwise fun a b => compare a b = .lt)
    (hb : bs.Pairwise fun a b => compare a b = .lt) (h : ∀ k, k ∈ as ↔ k ∈ bs) : as = bs := by
  have hnodup := nodup_of_pairwise_lt ha
  refine List.Perm.eq_of_pairwise ?_ ha hb ((List.perm_ext_iff_of_nodup hnodup (nodup_of_pairwise_lt hb)).mpr h)
  intro a b _ _ hab hba
  simp [OrientedCmp.gt_of_lt hab] at hba

theorem keys_eq_of_mem_iff {ω : Type} [TransOrd κ] {m : SortedMap κ υ} {n : SortedMap κ ω}
    (h : ∀ k, k ∈ m.keys ↔ k ∈ n.keys) : m.keys = n.keys :=
  eq_of_pairwise_lt m.pairwise_keys n.pairwise_keys h

theorem mem_keys_iff [TransOrd κ] [LawfulEqOrd κ] {m : SortedMap κ υ} {k : κ} :
    k ∈ m.keys ↔ ∃ v, m.get? k = some v := by
  simp only [keys, List.mem_map, get?_eq_some_iff]
  constructor
  · rintro ⟨e, he, rfl⟩
    exact ⟨e.2, he⟩
  · rintro ⟨v, hv⟩
    exact ⟨(k, v), hv, rfl⟩

theorem eq_of_keys_eq {m n : SortedMap κ Unit} (h : m.keys = n.keys) : m = n := by
  have hentries : ∀ m : SortedMap κ Unit, m.entries = m.keys.map fun k => (k, ()) := by
    intro m
    rw [keys, List.map_map]
    exact (List.map_id m.entries).symm
  have heq : m.entries = n.entries := by rw [hentries m, h, ← hentries n]
  cases m
  cases n
  simpa using heq

theorem contains_iff_mem_keys [TransOrd κ] [LawfulEqOrd κ] {m : SortedMap κ υ} {k : κ} :
    m.contains k = true ↔ k ∈ m.keys := by
  rw [contains, Option.isSome_iff_exists, mem_keys_iff]

theorem mem_keys_insert [TransOrd κ] [LawfulEqOrd κ] [DecidableEq κ] {m : SortedMap κ υ} {k j : κ}
    {v : υ} : j ∈ (m.insert k v).keys ↔ j = k ∨ j ∈ m.keys := by
  simp only [mem_keys_iff, get?_insert]
  by_cases h : j = k <;> simp [h]

theorem get?_insertMany [TransOrd κ] [LawfulEqOrd κ] [DecidableEq κ] (m : SortedMap κ υ)
    (es : List (κ × υ)) (k : κ) : (m.insertMany es).get? k =
      ((es.filter fun e => e.1 = k).getLast?.map (·.2)).or (m.get? k) := by
  induction es generalizing m with
  | nil => simp [insertMany]
  | cons e es ih =>
    have hstep : m.insertMany (e :: es) = (m.insert e.1 e.2).insertMany es := rfl
    rw [hstep, ih, get?_insert]
    by_cases h : e.1 = k
    · cases hl : (es.filter fun e => e.1 = k).getLast? <;>
        simp [List.getLast?_cons, h, hl]
    · simp [h, Ne.symm h]

theorem get?_ofList [TransOrd κ] [LawfulEqOrd κ] [DecidableEq κ] (es : List (κ × υ)) (k : κ) :
    (ofList es).get? k = (es.filter fun e => e.1 = k).getLast?.map (·.2) := by
  rw [ofList, get?_insertMany]
  simp

theorem mem_keys_insertMany [TransOrd κ] [LawfulEqOrd κ] [DecidableEq κ] {m : SortedMap κ υ}
    {es : List (κ × υ)} {k : κ} : k ∈ (m.insertMany es).keys ↔ k ∈ m.keys ∨ ∃ e ∈ es, e.1 = k := by
  induction es generalizing m with
  | nil => simp [insertMany]
  | cons e es ih =>
    have hstep : m.insertMany (e :: es) = (m.insert e.1 e.2).insertMany es := rfl
    simp only [hstep, ih, mem_keys_insert, List.mem_cons, exists_eq_or_imp, eq_comm (a := e.1),
      or_assoc, or_left_comm]

theorem mem_keys_ofList [TransOrd κ] [LawfulEqOrd κ] [DecidableEq κ] {es : List (κ × υ)} {k : κ} :
    k ∈ (ofList es).keys ↔ ∃ e ∈ es, e.1 = k := by
  rw [ofList, mem_keys_insertMany]
  simp [keys, empty]

theorem ofList_eq_of_perm [TransOrd κ] [LawfulEqOrd κ] [DecidableEq κ] {es ds : List (κ × υ)}
    (h : es.Perm ds) (hn : (es.map (·.1)).Nodup) : ofList es = ofList ds := by
  apply ext_get?
  intro k
  have hperm := h.filter fun e => e.1 = k
  have hkeys : ((es.filter fun e => e.1 = k).map (·.1)).Nodup := hn.sublist (List.filter_sublist.map _)
  have hkey : ∀ e ∈ es.filter fun e => e.1 = k, e.1 = k := fun e he =>
    of_decide_eq_true (List.mem_filter.1 he).2
  rw [get?_ofList, get?_ofList]
  generalize ds.filter (fun e => e.1 = k) = found at hperm
  cases hes : es.filter fun e => e.1 = k with
  | nil =>
    rw [hes] at hperm
    rw [List.perm_nil.1 hperm.symm]
  | cons e rest =>
    rw [hes] at hperm hkeys hkey
    cases rest with
    | nil => rw [List.perm_singleton.1 hperm.symm]
    | cons e' rest => simp [hkey e, hkey e'] at hkeys

theorem lookup_eq_getLast? [TransOrd κ] [LawfulEqOrd κ] [DecidableEq κ] {es : List (κ × υ)}
    (h : (es.map (·.1)).Nodup) (k : κ) : lookup k es = (es.filter fun e => e.1 = k).getLast?.map (·.2) := by
  induction es with
  | nil => rfl
  | cons d es ih =>
    obtain ⟨hd, hes⟩ := List.nodup_cons.1 h
    by_cases hk : d.1 = k
    · have hnil : (es.filter fun e => e.1 = k) = [] := by
        refine List.filter_eq_nil_iff.2 fun e he hek => hd ?_
        exact List.mem_map.2 ⟨e, he, (of_decide_eq_true hek).trans hk.symm⟩
      simp [lookup, hk, hnil]
    · have hne : compare k d.1 ≠ .eq := fun hc => hk (LawfulEqCmp.eq_of_compare hc).symm
      simp [lookup, hk, hne, ih hes]

theorem get?_ofList_of_nodup [TransOrd κ] [LawfulEqOrd κ] [DecidableEq κ] {es : List (κ × υ)}
    (h : (es.map (·.1)).Nodup) (k : κ) : (ofList es).get? k = lookup k es := by
  rw [get?_ofList, lookup_eq_getLast? h]

theorem ofList_entries [TransOrd κ] [LawfulEqOrd κ] [DecidableEq κ] (m : SortedMap κ υ) :
    ofList m.entries = m :=
  ext_get? fun k => get?_ofList_of_nodup m.nodup_keys k

theorem get?_insertMany_entries [TransOrd κ] [LawfulEqOrd κ] [DecidableEq κ] (m n : SortedMap κ υ) (k : κ) :
    (m.insertMany n.entries).get? k = (n.get? k).or (m.get? k) := by
  rw [get?_insertMany, ← lookup_eq_getLast? n.nodup_keys]
  rfl

theorem insert_insert_self [TransOrd κ] [LawfulEqOrd κ] [DecidableEq κ] (m : SortedMap κ υ) (k : κ) (v : υ) :
    (m.insert k v).insert k v = m.insert k v := by
  apply ext_get?
  intro j
  rw [get?_insert]
  split
  · rename_i hj
    rw [get?_insert, if_pos hj]
  · rfl

theorem insertMany_entries_self [TransOrd κ] [LawfulEqOrd κ] [DecidableEq κ] (m n : SortedMap κ υ) :
    (m.insertMany n.entries).insertMany n.entries = m.insertMany n.entries := by
  apply ext_get?
  intro k
  rw [get?_insertMany_entries, get?_insertMany_entries, ← Option.or_assoc, Option.or_self]

def erase [DecidableEq κ] (m : SortedMap κ υ) (k : κ) : SortedMap κ υ :=
  ⟨m.entries.filter fun e => e.1 ≠ k, m.ascending.filter _⟩

def mapValues {ω : Type} (f : υ → ω) (m : SortedMap κ υ) : SortedMap κ ω :=
  ⟨m.entries.map fun e => (e.1, f e.2), List.pairwise_map.mpr m.ascending⟩

theorem keys_mapValues {ω : Type} (f : υ → ω) (m : SortedMap κ υ) : (m.mapValues f).keys = m.keys := by
  simp [keys, mapValues]

theorem get?_mapValues {ω : Type} (f : υ → ω) (m : SortedMap κ υ) (k : κ) :
    (m.mapValues f).get? k = (m.get? k).map f := by
  have hlookup : ∀ es : List (κ × υ), lookup k (es.map fun e => (e.1, f e.2)) = (lookup k es).map f := by
    intro es
    induction es with
    | nil => rfl
    | cons e es ih =>
      rw [List.map_cons, lookup, lookup, ih]
      split <;> rfl
  exact hlookup m.entries

end SortedMap

end PolicyAttachment
