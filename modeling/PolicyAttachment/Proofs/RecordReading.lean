import Mathlib.Data.List.Forall2
import Mathlib.Data.List.Nodup
import Mathlib.Data.Option.Basic
import PolicyAttachment.Proofs.Reading
import PolicyAttachment.Proofs.ReferenceReading

/-!
How a record is read, whether it names its fields or lists them in order. What is kept of a field is the reading of
the value that the document gives to it, and a document whose fields can be read is read unless a required field is
missing.
-/

namespace PolicyAttachment

theorem ReadError.mapM_eq_ok_iff {α β : Type} {f : α → Except ReadError β} {xs : List α} {ys : List β} :
    xs.mapM f = .ok ys ↔ List.Forall₂ (fun x y => f x = .ok y) xs ys := by
  induction xs generalizing ys with
  | nil => simp [pure, Except.pure, eq_comm]
  | cons x xs ih =>
    rw [List.mapM_cons, List.forall₂_cons_left_iff]
    simp only [← ih]
    cases f x with
    | error e => simp [bind, Except.bind]
    | ok y => cases xs.mapM f <;> simp [bind, Except.bind, pure, Except.pure, eq_comm]

theorem exists_forall₂_iff {α β : Type} {R : α → β → Prop} {as : List α} :
    (∃ bs, List.Forall₂ R as bs) ↔ ∀ a ∈ as, ∃ b, R a b := by
  induction as with
  | nil => simp
  | cons a as ih =>
    rw [List.forall_mem_cons, ← ih]
    constructor
    · rintro ⟨_, _ | ⟨hb, hbs⟩⟩
      exact ⟨⟨_, hb⟩, ⟨_, hbs⟩⟩
    · rintro ⟨⟨b, hb⟩, ⟨bs, hbs⟩⟩
      exact ⟨b :: bs, .cons hb hbs⟩

namespace Schema

def fields : Schema → List (String × Presence × Schema)
  | record _ _ fields => fields
  | _ => []

def field? (s : Schema) (name : String) : Option (String × Presence × Schema) := s.fields.find? (·.1 = name)

def sub (s : Schema) (name : String) : Schema :=
  match s.field? name with
  | some f => f.2.2
  | none => any

def item : Schema → Schema
  | list s => s
  | _ => any

def isText : Schema → Bool
  | text => true
  | _ => false

def rejectsNull : Schema → Bool
  | any => false
  | _ => true

/-- Each name is of one field, and null does not count as the value of any. -/
structure Strict (s : Schema) : Prop where
  nodup : (s.fields.map (·.1)).Nodup
  null : ∀ f ∈ s.fields, f.2.1.allowsNull = true ∨ f.2.2.rejectsNull = true

instance (s : Schema) : Decidable s.Strict :=
  decidable_of_iff ((s.fields.map (·.1)).Nodup ∧
      ∀ f ∈ s.fields, f.2.1.allowsNull = true ∨ f.2.2.rejectsNull = true)
    ⟨fun h => ⟨h.1, h.2⟩, fun h => ⟨h.nodup, h.null⟩⟩

theorem eq_text_of_isText {s : Schema} (h : s.isText = true) : s = .text := by
  cases s <;> first | rfl | cases h

theorem rejectsNull_of_read {s : Schema} {w : Document} (h : s.read .null = .ok w) : s.rejectsNull = false := by
  cases s <;> first | rfl | cases h

theorem readNamed_eq (fields : List (String × Presence × Schema)) (key : String) (d : Document) :
    readNamed fields key d = match fields.find? (·.1 = key) with
      | some f => if f.2.1.allowsNull ∧ d = .null then .ok none else some <$> f.2.2.read d
      | none => .ok none := by
  induction fields with
  | nil => rfl
  | cons f fields ih =>
    rw [readNamed, List.find?_cons]
    by_cases hkey : f.1 = key
    · simp only [hkey, if_true, decide_true]
      rfl
    · simp only [hkey, if_false, decide_false, ih]

def readField (fields : List (String × Presence × Schema)) (e : String × Document) :
    Except ReadError (Option (String × Document)) := do
  .ok ((← readNamed fields e.1 e.2).map fun v => (e.1, v))

section

variable {fields : List (String × Presence × Schema)} {fs kept : List (String × Document)}

theorem readField_eq_ok_iff {e : String × Document} {o : Option (String × Document)} :
    readField fields e = .ok o ↔ ∃ v, readNamed fields e.1 e.2 = .ok v ∧ v.map (fun v => (e.1, v)) = o := by
  rw [readField]
  cases readNamed fields e.1 e.2 <;> simp [bind, Except.bind]

theorem keys_sublist_of_filterMapM (h : fs.filterMapM (readField fields) = .ok kept) :
    (kept.map (·.1)).Sublist (fs.map (·.1)) := by
  induction fs generalizing kept with
  | nil =>
    cases h
    exact .slnil
  | cons e fs ih =>
    obtain ⟨o, zs, ho, hzs, rfl⟩ := ReadError.filterMapM_cons_eq_ok_iff.mp h
    obtain ⟨v, _, rfl⟩ := readField_eq_ok_iff.mp ho
    cases v with
    | none => exact (ih hzs).cons _
    | some v => exact (ih hzs).cons_cons _

theorem readNamed_cases {f : String × Presence × Schema} {name : String} {d : Document} {v : Option Document}
    (hf : fields.find? (·.1 = name) = some f) (hnull : f.2.1.allowsNull = true ∨ f.2.2.rejectsNull = true)
    (h : readNamed fields name d = .ok v) :
    d = .null ∧ v = none ∨ d ≠ .null ∧ ∃ w, f.2.2.read d = .ok w ∧ v = some w := by
  simp only [readNamed_eq, hf] at h
  split at h
  · rename_i hleft
    cases h
    exact .inl ⟨hleft.2, rfl⟩
  · rename_i hread
    obtain ⟨w, hw, rfl⟩ := ReadError.map_eq_ok_iff.mp h
    refine .inr ⟨?_, w, hw, rfl⟩
    rintro rfl
    rcases hnull with hnull | hnull
    · exact hread ⟨hnull, rfl⟩
    · rw [rejectsNull_of_read hw] at hnull
      cases hnull

theorem rel_lookup_kept {f : String × Presence × Schema} {name : String}
    (hf : fields.find? (·.1 = name) = some f) (hnull : f.2.1.allowsNull = true ∨ f.2.2.rejectsNull = true)
    (h : fs.filterMapM (readField fields) = .ok kept) :
    Option.Rel (fun d w => f.2.2.read d = .ok w) (SortedMap.lookup name (fs.filter (·.2 ≠ .null)))
      (SortedMap.lookup name kept) := by
  induction fs generalizing kept with
  | nil =>
    cases h
    exact .none
  | cons e fs ih =>
    obtain ⟨o, zs, ho, hzs, rfl⟩ := ReadError.filterMapM_cons_eq_ok_iff.mp h
    obtain ⟨v, hv, rfl⟩ := readField_eq_ok_iff.mp ho
    by_cases hname : e.1 = name
    · rcases readNamed_cases hf hnull (hname ▸ hv) with ⟨hvalue, rfl⟩ | ⟨hvalue, w, hw, rfl⟩
      · rw [List.filter_cons_of_neg (by simp [hvalue])]
        exact ih hzs
      · rw [List.filter_cons_of_pos (by simpa using hvalue), SortedMap.lookup_cons, if_pos hname]
        simpa [SortedMap.lookup_cons, hname] using hw
    · have hkept : SortedMap.lookup name ((v.map fun v => (e.1, v)).toList ++ zs) = SortedMap.lookup name zs := by
        cases v <;> simp [SortedMap.lookup_cons, hname]
      rw [hkept, List.filter_cons]
      split
      · rw [SortedMap.lookup_cons, if_neg hname]
        exact ih hzs
      · exact ih hzs

theorem readInOrder_nil {expected : String} {length place : Nat}
    (h : readInOrder expected length place fields [] = .ok kept) : kept = [] := by
  induction fields generalizing place with
  | nil =>
    cases h
    rfl
  | cons f fields ih =>
    rw [readInOrder] at h
    split at h
    · cases h
    · exact ih h

theorem filterMapM_of_readInOrder {all : List (String × Presence × Schema)} {expected : String}
    {length place : Nat} {ds : List Document} (hall : ∀ f ∈ fields, all.find? (·.1 = f.1) = some f)
    (h : readInOrder expected length place fields ds = .ok kept) :
    ((fields.map (·.1)).zip ds).filterMapM (readField all) = .ok kept := by
  induction fields generalizing place ds kept with
  | nil =>
    cases ds with
    | nil =>
      cases h
      rfl
    | cons d ds => cases h
  | cons f fields ih =>
    obtain ⟨hf, hfields⟩ := List.forall_mem_cons.mp hall
    cases ds with
    | nil =>
      rw [readInOrder_nil h]
      rfl
    | cons d ds =>
      rw [List.map_cons, List.zip_cons_cons, ReadError.filterMapM_cons_eq_ok_iff]
      simp only [readField_eq_ok_iff, readNamed_eq, hf]
      rw [readInOrder] at h
      split at h
      · rename_i hnull
        exact ⟨none, kept, ⟨none, if_pos hnull, rfl⟩, ih hfields h, rfl⟩
      · rename_i hread
        cases hd : f.2.2.read d with
        | error e =>
          rw [hd] at h
          cases h
        | ok v =>
          rw [hd] at h
          cases hrest : readInOrder expected length (place + 1) fields ds with
          | error e =>
            simp only [hrest] at h
            cases h
          | ok zs =>
            simp only [hrest] at h
            cases h
            refine ⟨some (f.1, v), zs, ⟨some v, ?_, rfl⟩, ih hfields hrest, rfl⟩
            rw [if_neg hread]
            rfl

end

theorem Strict.find?_eq_some {s : Schema} (hs : s.Strict) {f : String × Presence × Schema} (hf : f ∈ s.fields) :
    s.fields.find? (·.1 = f.1) = some f := by
  have hsome : (s.fields.find? (·.1 = f.1)).isSome = true := List.find?_isSome.mpr ⟨f, hf, decide_eq_true rfl⟩
  obtain ⟨g, hg⟩ := Option.isSome_iff_exists.mp hsome
  have hname : g.1 = f.1 := by simpa using List.find?_some hg
  rw [hg, List.inj_on_of_nodup_map hs.nodup (List.mem_of_find?_eq_some hg) hf hname]

theorem read_object_eq_ok_iff {expected : String} {positional : Bool}
    {fields : List (String × Presence × Schema)} {fs : List (String × Document)} {w : Document} :
    (record expected positional fields).read (.object fs) = .ok w ↔
      (∃ kept, fs.filterMapM (readField fields) = .ok kept ∧ .object kept = w) ∧
        firstMissing? fields (fs.map (·.1)) = none := by
  rw [read]
  change (fs.filterMapM (readField fields) >>= fun kept => _) = _ ↔ _
  cases fs.filterMapM (readField fields) with
  | error e => simp [bind, Except.bind]
  | ok kept => cases firstMissing? fields (fs.map (·.1)) <;> simp [bind, Except.bind]

theorem exists_of_read_array {expected : String} {positional : Bool}
    {fields : List (String × Presence × Schema)} {ds : List Document} {w : Document}
    (h : (record expected positional fields).read (.array ds) = .ok w) :
    ∃ message kept, readInOrder message ds.length 0 fields ds = .ok kept ∧ .ofFields kept = w := by
  rw [read] at h
  split at h
  · cases hkept : readInOrder (expected ++ elements fields.length) ds.length 0 fields ds with
    | error e =>
      rw [hkept] at h
      cases h
    | ok kept =>
      rw [hkept] at h
      exact ⟨_, kept, hkept, Except.ok.inj h⟩
  · cases h

theorem read_list_eq_ok_iff {s : Schema} {d w : Document} : (list s).read d = .ok w ↔
    ∃ ds ws, d = .array ds ∧ w = .array ws ∧ List.Forall₂ (fun e v => s.read e = .ok v) ds ws := by
  simp only [← ReadError.mapM_eq_ok_iff]
  cases d with
  | array ds =>
    rw [read]
    cases hws : ds.mapM (read s) with
    | error e => simp [bind, Except.bind, hws]
    | ok ws => simp [bind, Except.bind, hws, @eq_comm _ _ w]
  | null | bool _ | number _ | string _ | object _ => simp [read]

end Schema

structure Slot where
  schema : Schema
  document : Document

namespace Slot

def fields (p : Slot) : List (String × Document) :=
  match p.document with
  | .object fs => fs
  | .array ds => (p.schema.fields.map (·.1)).zip ds
  | _ => []

def member? (p : Slot) (name : String) : Option Slot :=
  (SortedMap.lookup name (p.fields.filter (·.2 ≠ .null))).map fun d => ⟨p.schema.sub name, d⟩

def items (p : Slot) : List Slot := p.document.items.map fun d => ⟨p.schema.item, d⟩

def itemsOf (p : Slot) (name : String) : List Slot := ((p.member? name).map items).getD []

def textOf? (p : Slot) (name : String) : Option String := (p.member? name).bind (·.document.string?)

def ReadsAs (s : Schema) (p : Slot) (w : Document) : Prop := p.schema = s ∧ s.read p.document = .ok w

variable {s item : Schema} {p : Slot} {w : Document} {name : String}

theorem ReadsAs.exists_kept (h : p.ReadsAs s w) (hs : s.Strict) (hrecord : s.fields ≠ []) :
    ∃ kept, p.fields.filterMapM (Schema.readField s.fields) = .ok kept ∧
      ∀ name, w.field? name = SortedMap.lookup name kept := by
  obtain ⟨s', d⟩ := p
  obtain ⟨hschema, h⟩ := h
  obtain rfl : s' = s := hschema
  cases s' with
  | record expected positional fields =>
    cases d with
    | object fs =>
      obtain ⟨⟨kept, hkept, rfl⟩, _⟩ := Schema.read_object_eq_ok_iff.mp h
      exact ⟨kept, hkept, fun _ => rfl⟩
    | array ds =>
      obtain ⟨message, kept, hkept, rfl⟩ := Schema.exists_of_read_array h
      have hzip := Schema.filterMapM_of_readInOrder (fun f hf => hs.find?_eq_some hf) hkept
      have hkeys := (Schema.keys_sublist_of_filterMapM hzip).trans (map_fst_zip_sublist _ ds)
      exact ⟨kept, hzip, fun name => SortedMap.get?_ofList_of_nodup (List.Nodup.sublist hkeys hs.nodup) name⟩
    | null | bool _ | number _ | string _ => cases h
  | _ => exact absurd rfl hrecord

theorem ReadsAs.rel_member? (h : p.ReadsAs s w) (hs : s.Strict) (hname : name ∈ s.fields.map (·.1)) :
    Option.Rel (ReadsAs (s.sub name)) (p.member? name) (w.field? name) := by
  obtain ⟨f, hf, rfl⟩ := List.mem_map.mp hname
  obtain ⟨kept, hkept, hfield⟩ := h.exists_kept hs (List.ne_nil_of_mem hf)
  have hsub : s.sub f.1 = f.2.2 := by rw [Schema.sub, Schema.field?, hs.find?_eq_some hf]
  have hrel := Schema.rel_lookup_kept (hs.find?_eq_some hf) (hs.null f hf) hkept
  rw [hfield, member?, h.1, hsub]
  generalize SortedMap.lookup f.1 (p.fields.filter (·.2 ≠ .null)) = value at hrel ⊢
  generalize SortedMap.lookup f.1 kept = keptValue at hrel ⊢
  cases hrel with
  | none => exact .none
  | some hread => exact .some ⟨rfl, hread⟩

theorem ReadsAs.bind_member?_eq (h : p.ReadsAs s w) (hs : s.Strict) (hname : name ∈ s.fields.map (·.1))
    {α : Type} {f : Slot → Option α} {g : Document → Option α}
    (hfg : ∀ q v, q.ReadsAs (s.sub name) v → f q = g v) : (p.member? name).bind f = (w.field? name).bind g := by
  have hrel := h.rel_member? hs hname
  generalize p.member? name = q at hrel ⊢
  generalize w.field? name = v at hrel ⊢
  cases hrel with
  | none => rfl
  | some hread => exact hfg _ _ hread

theorem ReadsAs.map_member?_eq (h : p.ReadsAs s w) (hs : s.Strict) (hname : name ∈ s.fields.map (·.1))
    {α : Type} {f : Slot → α} {g : Document → α}
    (hfg : ∀ q v, q.ReadsAs (s.sub name) v → f q = g v) : (p.member? name).map f = (w.field? name).map g := by
  rw [Option.map_eq_bind, Option.map_eq_bind]
  exact h.bind_member?_eq hs hname fun q v hread => congrArg some (hfg q v hread)

theorem ReadsAs.textOf?_eq (h : p.ReadsAs s w) (hs : s.Strict) (hname : name ∈ s.fields.map (·.1))
    (htext : (s.sub name).isText = true) : p.textOf? name = w.stringField? name := by
  apply h.bind_member?_eq hs hname
  rintro ⟨_, d⟩ v ⟨_, hread⟩
  rw [Schema.eq_text_of_isText htext] at hread
  cases d with
  | string t =>
    cases hread
    rfl
  | null | bool _ | number _ | array _ | object _ => cases hread

theorem ReadsAs.field?_eq {p' : Slot} {w' : Document} (h : p.ReadsAs s w) (h' : p'.ReadsAs s w') (hs : s.Strict)
    (hname : name ∈ s.fields.map (·.1)) (hmember : p.member? name = p'.member? name) :
    w.field? name = w'.field? name := by
  have hrel := h.rel_member? hs hname
  have hrel' := h'.rel_member? hs hname
  rw [hmember] at hrel
  generalize p'.member? name = q at hrel hrel'
  generalize w.field? name = v at hrel ⊢
  generalize w'.field? name = v' at hrel' ⊢
  cases hrel with
  | none =>
    cases hrel'
    rfl
  | some hread =>
    cases hrel' with
    | some hread' => exact congrArg some (Except.ok.inj (hread.2.symm.trans hread'.2))

theorem ReadsAs.forall₂_items (h : p.ReadsAs (.list item) w) :
    List.Forall₂ (ReadsAs item) p.items w.items := by
  obtain ⟨hschema, h⟩ := h
  obtain ⟨ds, ws, hds, rfl, hread⟩ := Schema.read_list_eq_ok_iff.mp h
  rw [items, hds, hschema]
  exact List.forall₂_map_left_iff.mpr (hread.imp fun _ _ he => ⟨rfl, he⟩)

theorem ReadsAs.forall₂_itemsOf (h : p.ReadsAs s w) (hs : s.Strict) (hname : name ∈ s.fields.map (·.1))
    (hlist : s.sub name = .list item) : List.Forall₂ (ReadsAs item) (p.itemsOf name) (w.itemsOf name) := by
  have hrel := h.rel_member? hs hname
  rw [hlist] at hrel
  rw [itemsOf, Document.itemsOf]
  generalize p.member? name = q at hrel ⊢
  generalize w.field? name = v at hrel ⊢
  cases hrel with
  | none => exact .nil
  | some hread => exact hread.forall₂_items

end Slot

namespace Schema

def Admits (s : Schema) (d : Document) : Prop := ∃ w, s.read d = .ok w

theorem admits_object_iff {expected : String} {positional : Bool} {fields : List (String × Presence × Schema)}
    {fs : List (String × Document)} : (record expected positional fields).Admits (.object fs) ↔
      (∀ e ∈ fs, ∃ v, readNamed fields e.1 e.2 = .ok v) ∧
        ∀ f ∈ fields, f.2.1 = .required → f.1 ∈ fs.map (·.1) := by
  have hmissing : firstMissing? fields (fs.map (·.1)) = none ↔
      ∀ f ∈ fields, f.2.1 = .required → f.1 ∈ fs.map (·.1) := by
    simp [firstMissing?]
  have hfields : (∃ kept, fs.filterMapM (readField fields) = .ok kept) ↔
      ∀ e ∈ fs, ∃ v, readNamed fields e.1 e.2 = .ok v := by
    simp only [ReadError.exists_filterMapM_eq_ok_iff, readField_eq_ok_iff]
    apply forall₂_congr
    intro e _
    constructor
    · rintro ⟨_, v, hv, _⟩
      exact ⟨v, hv⟩
    · rintro ⟨v, hv⟩
      exact ⟨_, v, hv, rfl⟩
  simp only [Admits, read_object_eq_ok_iff, hmissing, ← hfields]
  constructor
  · rintro ⟨_, ⟨kept, hkept, _⟩, hrequired⟩
    exact ⟨⟨kept, hkept⟩, hrequired⟩
  · rintro ⟨⟨kept, hkept⟩, hrequired⟩
    exact ⟨_, ⟨kept, hkept, rfl⟩, hrequired⟩

theorem exists_readNamed_iff {fields : List (String × Presence × Schema)} {key : String} {d : Document} :
    (∃ v, readNamed fields key d = .ok v) ↔ ∀ f, fields.find? (·.1 = key) = some f →
      (f.2.1.allowsNull = true ∧ d = .null) ∨ f.2.2.Admits d := by
  rw [readNamed_eq]
  cases fields.find? (·.1 = key) with
  | none => simp
  | some f =>
    simp only [Option.some.injEq, forall_eq', Admits]
    split
    · rename_i hnull
      simp [hnull]
    · rename_i hread
      cases f.2.2.read d <;> simp [hread]

theorem admits_list_iff {s : Schema} {d : Document} :
    (list s).Admits d ↔ ∃ ds, d = .array ds ∧ ∀ e ∈ ds, s.Admits e := by
  simp only [Admits, read_list_eq_ok_iff, ← exists_forall₂_iff]
  constructor
  · rintro ⟨_, ds, ws, hd, _, hread⟩
    exact ⟨ds, hd, ws, hread⟩
  · rintro ⟨ds, hd, ws, hread⟩
    exact ⟨_, ds, ws, hd, rfl, hread⟩

end Schema

end PolicyAttachment
