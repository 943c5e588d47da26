import Mathlib.Data.List.Basic
import PolicyAttachment.Resource

namespace PolicyAttachment

namespace ReadError

variable {α β : Type} {f : α → Except ReadError (Option β)} {xs : List α}

theorem filterMapM_eq_ok {g : α → Option β} (h : ∀ x ∈ xs, f x = .ok (g x)) :
    xs.filterMapM f = .ok (xs.filterMap g) := by
  induction xs with
  | nil => rfl
  | cons x xs ih =>
    obtain ⟨hx, hxs⟩ := List.forall_mem_cons.mp h
    rw [List.filterMapM_cons, hx, List.filterMap_cons]
    cases g x with
    | none => exact ih hxs
    | some b =>
      simp only [bind, Except.bind, ih hxs]
      rfl

theorem filterMapM_cons_eq_ok_iff {x : α} {ys : List β} : (x :: xs).filterMapM f = .ok ys ↔
    ∃ o zs, f x = .ok o ∧ xs.filterMapM f = .ok zs ∧ o.toList ++ zs = ys := by
  rw [List.filterMapM_cons]
  cases hx : f x with
  | error e => simp [bind, Except.bind]
  | ok o =>
    cases hxs : xs.filterMapM f with
    | error e => cases o <;> simp [bind, Except.bind]
    | ok zs => cases o <;> simp [bind, Except.bind, pure, Except.pure]

theorem exists_filterMapM_eq_ok_iff : (∃ ys, xs.filterMapM f = .ok ys) ↔ ∀ x ∈ xs, ∃ o, f x = .ok o := by
  induction xs with
  | nil => exact ⟨fun _ => by simp, fun _ => ⟨[], rfl⟩⟩
  | cons x xs ih =>
    rw [List.forall_mem_cons, ← ih]
    constructor
    · rintro ⟨_, h⟩
      obtain ⟨o, zs, hx, hxs, _⟩ := filterMapM_cons_eq_ok_iff.mp h
      exact ⟨⟨o, hx⟩, ⟨zs, hxs⟩⟩
    · rintro ⟨⟨o, hx⟩, ⟨zs, hxs⟩⟩
      exact ⟨_, filterMapM_cons_eq_ok_iff.mpr ⟨o, zs, hx, hxs, rfl⟩⟩

end ReadError

theorem Schema.readNamed_texts (names : List String) (key : String) (d : Document) :
    readNamed (names.map fun n => may n .text) key d =
      if key ∈ names ∧ d ≠ .null then some <$> read .text d else .ok none := by
  induction names with
  | nil => simp [readNamed]
  | cons n names ih =>
    rw [List.map_cons, may, readNamed, ih]
    by_cases hn : n = key
    · by_cases hd : d = .null
      · simp [hn, hd, Presence.allowsNull]
      · simp [hn, hd]
        rfl
    · simp [hn, Ne.symm hn]

namespace Reference

def parts : List String := ["group", "kind", "name", "namespace"]

def Readable (e : String × Document) : Prop := e.1 ∈ parts → e.2 = .null ∨ ∃ s, e.2 = .string s

def kept (e : String × Document) : Bool := e.1 ∈ parts && e.2 ≠ .null

def readField (e : String × Document) : Except ReadError (Option (String × Document)) := do
  .ok ((← Schema.readNamed (parts.map fun n => Schema.may n .text) e.1 e.2).map fun v => (e.1, v))

theorem readField_of_readable {e : String × Document} (h : Readable e) :
    readField e = .ok (Option.guard kept e) := by
  rw [readField, Schema.readNamed_texts]
  by_cases hk : e.1 ∈ parts ∧ e.2 ≠ .null
  · obtain ⟨s, hs⟩ := (h hk.1).resolve_left hk.2
    have hkept : kept e = true := by simp [kept, hk]
    rw [if_pos hk, Option.guard, if_pos hkept, hs]
    exact congrArg (fun v => Except.ok (some (e.1, v))) hs.symm
  · have hkept : ¬ kept e = true := by simpa [kept] using hk
    rw [if_neg hk, Option.guard, if_neg hkept]
    rfl

theorem readable_of_readField {e : String × Document} {o : Option (String × Document)}
    (h : readField e = .ok o) : Readable e := by
  intro hpart
  by_cases hnull : e.2 = .null
  · exact .inl hnull
  · rw [readField, Schema.readNamed_texts, if_pos ⟨hpart, hnull⟩] at h
    cases hd : e.2 with
    | string s => exact .inr ⟨s, rfl⟩
    | null | bool _ | number _ | array _ | object _ =>
      rw [hd] at h
      cases h

variable {fs : List (String × Document)} {ref : Reference}

theorem read_object (fs : List (String × Document)) :
    read (.object fs) = (fs.filterMapM readField).map fun es => ofDocument (.object es) := by
  have hmissing : ∀ names, Schema.firstMissing? (parts.map fun n => Schema.may n .text) names = none := by
    intro names
    simp [Schema.firstMissing?, Schema.may]
  have hread : Schema.looseReference.read (.object fs) = (fs.filterMapM readField).map .object := by
    change (Schema.record "struct Reference" true (parts.map fun n => Schema.may n .text)).read _ = _
    simp only [Schema.read, hmissing]
    change (fs.filterMapM readField >>= fun es => .ok (Document.object es)) = _
    cases fs.filterMapM readField <;> rfl
  rw [read, hread]
  cases fs.filterMapM readField <;> rfl

theorem read_object_eq_ok_iff :
    read (.object fs) = .ok ref ↔ (∀ e ∈ fs, Readable e) ∧ ofDocument (.object (fs.filter kept)) = ref := by
  have hread : (∀ e ∈ fs, Readable e) →
      read (.object fs) = .ok (ofDocument (.object (fs.filter kept))) := by
    intro h
    rw [read_object, ReadError.filterMapM_eq_ok fun e he => readField_of_readable (h e he),
      List.filterMap_eq_filter]
    rfl
  constructor
  · intro h
    have hreadable : ∀ e ∈ fs, Readable e := by
      rw [read_object] at h
      cases hes : fs.filterMapM readField with
      | error e =>
        rw [hes] at h
        cases h
      | ok es =>
        intro e he
        obtain ⟨o, ho⟩ := ReadError.exists_filterMapM_eq_ok_iff.mp ⟨es, hes⟩ e he
        exact readable_of_readField ho
    exact ⟨hreadable, Except.ok.inj ((hread hreadable).symm.trans h)⟩
  · rintro ⟨hreadable, rfl⟩
    exact hread hreadable

section

variable (ns : String)

theorem stringField?_kept_of_ne {name : String} (h : name ≠ "namespace") :
    (Document.object ((SortedMap.insertEntry "namespace" (.string ns) fs).filter kept)).stringField? name =
      (Document.object (fs.filter kept)).stringField? name := by
  have hother : ∀ es : List (String × Document), SortedMap.lookup name (es.filter kept) =
      SortedMap.lookup name ((es.filter (·.1 ≠ "namespace")).filter kept) := by
    intro es
    rw [List.filter_comm, SortedMap.lookup_filter_ne h]
  rw [Document.stringField?, Document.stringField?, Document.field?, Document.field?, hother, hother fs,
    SortedMap.filter_ne_insertEntry]

theorem stringField?_kept_namespace :
    (Document.object ((SortedMap.insertEntry "namespace" (.string ns) fs).filter kept)).stringField?
      "namespace" = some ns := by
  rw [Document.stringField?, Document.field?,
    SortedMap.lookup_filter_of_lookup rfl (SortedMap.lookup_insertEntry_self ..)]
  rfl

variable (hfs : ∀ d, ("namespace", d) ∈ fs → d = .null ∨ d = .string "")
include hfs

theorem namespaceName_of_read (h : read (.object fs) = .ok ref) : ref.namespaceName.getD "" = "" := by
  obtain ⟨_, rfl⟩ := read_object_eq_ok_iff.mp h
  change ((Document.object (fs.filter kept)).stringField? "namespace").getD "" = ""
  rw [Document.stringField?, Document.field?]
  cases hlookup : SortedMap.lookup "namespace" (fs.filter kept) with
  | none => rfl
  | some d =>
    rcases hfs d (List.mem_filter.mp (SortedMap.mem_of_lookup hlookup)).1 with rfl | rfl <;> rfl

theorem readable_insertEntry_iff :
    (∀ e ∈ SortedMap.insertEntry "namespace" (.string ns) fs, Readable e) ↔ ∀ e ∈ fs, Readable e := by
  constructor
  · intro h e he
    by_cases hname : e.1 = "namespace"
    · obtain ⟨_, d⟩ := e
      obtain rfl : _ = "namespace" := hname
      exact fun _ => (hfs d he).imp_right fun hd => ⟨"", hd⟩
    · have hmem : e ∈ fs.filter (·.1 ≠ "namespace") := List.mem_filter.mpr ⟨he, decide_eq_true hname⟩
      rw [← SortedMap.filter_ne_insertEntry "namespace" (.string ns)] at hmem
      exact h e (List.mem_filter.mp hmem).1
  · intro h e he
    rcases SortedMap.mem_insertEntry he with rfl | he
    · exact fun _ => .inr ⟨ns, rfl⟩
    · exact h e he

theorem read_insertEntry_iff {ref' : Reference} :
    read (.object (SortedMap.insertEntry "namespace" (.string ns) fs)) = .ok ref' ↔
      ∃ ref, read (.object fs) = .ok ref ∧ { ref with namespaceName := some ns } = ref' := by
  have hread : ofDocument (.object ((SortedMap.insertEntry "namespace" (.string ns) fs).filter kept)) =
      { ofDocument (.object (fs.filter kept)) with namespaceName := some ns } := by
    simp only [ofDocument, stringField?_kept_namespace, ne_eq, String.reduceEq, not_false_eq_true,
      stringField?_kept_of_ne]
  simp only [read_object_eq_ok_iff, readable_insertEntry_iff ns hfs, hread]
  constructor
  · rintro ⟨hreadable, rfl⟩
    exact ⟨_, ⟨hreadable, rfl⟩, rfl⟩
  · rintro ⟨_, ⟨hreadable, rfl⟩, rfl⟩
    exact ⟨hreadable, rfl⟩

end

end Reference

end PolicyAttachment
