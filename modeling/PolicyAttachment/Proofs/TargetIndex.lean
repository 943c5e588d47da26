import Mathlib.Data.List.Perm.Basic
import PolicyAttachment.Proofs.Attached

namespace PolicyAttachment

namespace Attachments

theorem flatMap_filter_perm {α κ : Type} [DecidableEq κ] (f : α → κ) {ks : List κ} (hks : ks.Nodup)
    {xs : List α} (h : ∀ x ∈ xs, f x ∈ ks) : (ks.flatMap fun k => xs.filter fun x => f x = k).Perm xs := by
  induction ks generalizing xs with
  | nil =>
    have hnil : xs = [] := List.eq_nil_iff_forall_not_mem.mpr fun x hx => by simpa using h x hx
    simp [hnil]
  | cons k ks ih =>
    obtain ⟨hk, hks⟩ := List.nodup_cons.mp hks
    -- the elements of the other keys are untouched by taking those of `k` out
    have hrest : (ks.flatMap fun j => xs.filter fun x => f x = j) =
        ks.flatMap fun j => (xs.filter fun x => ¬ f x = k).filter fun x => f x = j := by
      apply List.flatMap_congr
      intro j hj
      rw [List.filter_filter]
      apply List.filter_congr
      intro x _
      have hjk : j ≠ k := fun e => hk (e ▸ hj)
      by_cases hx : f x = j <;> simp [hx, hjk]
    have hothers : ∀ x ∈ xs.filter (fun x => ¬ f x = k), f x ∈ ks := by
      intro x hx
      obtain ⟨hx, hne⟩ := List.mem_filter.mp hx
      exact (List.mem_cons.mp (h x hx)).resolve_left (of_decide_eq_true hne)
    rw [List.flatMap_cons, hrest]
    refine ((ih hks hothers).append_left _).trans ?_
    simpa using List.filter_append_perm (fun x => decide (f x = k)) xs

end Attachments

abbrev ByTarget := SortedMap ObjectRef (List PolicyInstance)

namespace ByTarget

def on (m : ByTarget) (n : ObjectRef) : List PolicyInstance := (m.get? n).getD []

def push (m : ByTarget) (p : PolicyInstance) : ByTarget := m.insert p.target (m.on p.target ++ [p])

def sorted (m : ByTarget) : ByTarget := m.mapValues Attachments.inOrder

def count (m : ByTarget) : Nat := m.values.foldl (fun n ps => n + ps.length) 0

theorem count_eq (m : ByTarget) : m.count = m.values.flatten.length := by
  rw [count, List.length_flatten, List.sum_eq_foldl, List.foldl_map]

structure Groups (m : ByTarget) (ps : List PolicyInstance) : Prop where
  on : ∀ n, m.on n = ps.filter fun p => p.target = n
  keys : ∀ n, n ∈ m.keys ↔ ∃ p ∈ ps, p.target = n

variable {m : ByTarget} {ps : List PolicyInstance}

theorem groups_empty : Groups .empty [] := by
  constructor
  · exact fun _ => rfl
  · simp

theorem on_push (m : ByTarget) (p : PolicyInstance) (n : ObjectRef) :
    (m.push p).on n = if n = p.target then m.on n ++ [p] else m.on n := by
  rw [on, push, SortedMap.get?_insert]
  by_cases hn : n = p.target
  · rw [if_pos hn, if_pos hn, hn, Option.getD_some]
  · rw [if_neg hn, if_neg hn, on]

theorem Groups.push (h : m.Groups ps) (p : PolicyInstance) : (m.push p).Groups (ps ++ [p]) := by
  constructor
  · intro n
    rw [on_push, h.on, List.filter_append]
    by_cases hn : n = p.target
    · simp [hn]
    · simp [hn, Ne.symm hn]
  · intro n
    rw [ByTarget.push, SortedMap.mem_keys_insert, h.keys]
    simp [or_and_right, exists_or, or_comm, eq_comm]

theorem on_sorted (m : ByTarget) (n : ObjectRef) : m.sorted.on n = Attachments.inOrder (m.on n) := by
  rw [on, sorted, SortedMap.get?_mapValues, on]
  cases m.get? n with
  | none => simp [Attachments.inOrder]
  | some ps => rfl

theorem values_eq (m : ByTarget) : m.values = m.keys.map m.on := by
  rw [SortedMap.values, SortedMap.keys, List.map_map]
  apply List.map_congr_left
  intro e he
  rw [Function.comp_apply, on, SortedMap.get?_eq_some_iff.mpr he, Option.getD_some]

theorem Groups.values_sorted_perm (h : m.Groups ps) : m.sorted.values.flatten.Perm ps := by
  have hkeys : m.sorted.keys = m.keys := SortedMap.keys_mapValues _ m
  have hon : ∀ n ∈ m.keys, (m.sorted.on n).Perm (ps.filter fun p => p.target = n) := by
    intro n _
    rw [on_sorted, h.on]
    exact List.mergeSort_perm _ _
  rw [values_eq, hkeys, ← List.flatMap_def]
  refine (List.Perm.flatMap_left _ hon).trans ?_
  apply Attachments.flatMap_filter_perm PolicyInstance.target m.nodup_keys
  intro p hp
  exact (h.keys p.target).mpr ⟨p, hp, rfl⟩

end ByTarget

structure TargetIndex where
  direct : ByTarget
  inherited : ByTarget
  problems : List Diagnostic

namespace TargetIndex

def add (x : TargetIndex) (p : PolicyInstance) : TargetIndex :=
  match p.classification with
  | .direct => { x with direct := x.direct.push p }
  | .inherited => { x with inherited := x.inherited.push p }
  | .unknown => x

def step (g : Graph) (ds : Descriptors) (r : Resolver) (x : TargetIndex) (o : DynamicObject) : TargetIndex :=
  match Binding.ofObject g ds r o with
  | .ignored => x
  | .refused d => { x with problems := x.problems ++ [d] }
  | .attached p => x.add p

def fill (g : Graph) (ds : Descriptors) (r : Resolver) (problems : List Diagnostic) (os : List DynamicObject) :
    TargetIndex :=
  os.foldl (step g ds r) ⟨.empty, .empty, problems⟩

def build (g : Graph) (ds : Descriptors) (r : Resolver) (problems : List Diagnostic) (os : List DynamicObject) :
    TargetIndex :=
  let x := fill g ds r problems os
  { x with direct := x.direct.sorted, inherited := x.inherited.sorted }

def of (x : TargetIndex) : Classification → ByTarget
  | .direct => x.direct
  | .inherited => x.inherited
  | .unknown => .empty

def size (x : TargetIndex) : Nat := x.direct.count + x.inherited.count

variable {g : Graph} {ds : Descriptors} {r : Resolver} {x : TargetIndex} {bs : List Binding}
  {problems : List Diagnostic}

/-- What the loop has when these bindings are behind it. -/
structure Tracks (problems : List Diagnostic) (bs : List Binding) (x : TargetIndex) : Prop where
  groups : ∀ c, (x.of c).Groups ((bs.filterMap Binding.instance?).filter fun p => p.classification = c)
  problems : x.problems = problems ++ bs.filterMap Binding.problem?

theorem tracks_empty (problems : List Diagnostic) : Tracks problems [] ⟨.empty, .empty, problems⟩ where
  groups c := by cases c <;> exact ByTarget.groups_empty
  problems := (List.append_nil problems).symm

theorem of_add (x : TargetIndex) (p : PolicyInstance) (c : Classification) :
    (x.add p).of c = if p.classification = c then (x.of c).push p else x.of c := by
  obtain ⟨_, _, _, body⟩ := p
  cases body <;> cases c <;> rfl

theorem problems_add (x : TargetIndex) (p : PolicyInstance) : (x.add p).problems = x.problems := by
  unfold add
  split <;> rfl

theorem Tracks.step (h : Tracks problems bs x) (o : DynamicObject) :
    Tracks problems (bs ++ [Binding.ofObject g ds r o]) (x.step g ds r o) := by
  unfold TargetIndex.step
  cases Binding.ofObject g ds r o with
  | ignored =>
    constructor
    · simpa [List.filterMap_cons, Binding.instance?] using h.groups
    · simpa [List.filterMap_cons, Binding.problem?] using h.problems
  | refused d =>
    constructor
    · intro c
      have hof : ({ x with problems := x.problems ++ [d] } : TargetIndex).of c = x.of c := by cases c <;> rfl
      rw [hof]
      simpa [List.filterMap_cons, Binding.instance?] using h.groups c
    · simp [Binding.problem?, h.problems]
  | attached p =>
    constructor
    · intro c
      rw [of_add, List.filterMap_append, List.filter_append]
      by_cases hc : p.classification = c
      · simpa [hc, Binding.instance?] using (h.groups c).push p
      · simpa [hc, Binding.instance?] using h.groups c
    · simp [Binding.problem?, problems_add, h.problems]

theorem Tracks.foldl (h : Tracks problems bs x) (os : List DynamicObject) :
    Tracks problems (bs ++ os.map (Binding.ofObject g ds r)) (os.foldl (TargetIndex.step g ds r) x) := by
  induction os generalizing bs x with
  | nil => simpa using h
  | cons o os ih => simpa using ih (h.step o)

theorem tracks_fill (g : Graph) (ds : Descriptors) (r : Resolver) (problems : List Diagnostic)
    (os : List DynamicObject) :
    Tracks problems (Attachments.bindings g ds r os) (fill g ds r problems os) :=
  (tracks_empty problems).foldl os

section

variable (g : Graph) (ds : Descriptors) (r : Resolver) (problems : List Diagnostic) (os : List DynamicObject)

theorem of_build (c : Classification) :
    (build g ds r problems os).of c = ((fill g ds r problems os).of c).sorted := by
  cases c <;> rfl

theorem on_build (c : Classification) (n : ObjectRef) : ((build g ds r problems os).of c).on n =
    (Attachments.ofBindings (Attachments.bindings g ds r os)).on c n := by
  rw [of_build, ByTarget.on_sorted, ((tracks_fill g ds r problems os).groups c).on, List.filter_filter]
  rfl

theorem mem_keys_build_iff {c : Classification} {n : ObjectRef} :
    n ∈ ((build g ds r problems os).of c).keys ↔
      ∃ p ∈ (Attachments.ofBindings (Attachments.bindings g ds r os)).instances,
        p.classification = c ∧ p.target = n := by
  rw [of_build, ByTarget.sorted, SortedMap.keys_mapValues, ((tracks_fill g ds r problems os).groups c).keys]
  simp [Attachments.ofBindings, and_assoc]

theorem problems_build : (build g ds r problems os).problems =
    problems ++ Attachments.problems (Attachments.bindings g ds r os) :=
  (tracks_fill g ds r problems os).problems

theorem filter_classification_perm (ps : List PolicyInstance) :
    (ps.filter (fun p => p.classification = .direct) ++ ps.filter fun p => p.classification = .inherited).Perm ps := by
  have hinherited : ∀ p : PolicyInstance,
      (!decide (p.classification = .direct)) = decide (p.classification = .inherited) := by
    intro p
    obtain ⟨_, _, _, body⟩ := p
    cases body <;> rfl
  simpa only [hinherited] using List.filter_append_perm (fun p => decide (p.classification = .direct)) ps

theorem values_build_perm :
    ((build g ds r problems os).direct.values ++ (build g ds r problems os).inherited.values).flatten.Perm
      (Attachments.ofBindings (Attachments.bindings g ds r os)).instances := by
  have hgroups := (tracks_fill g ds r problems os).groups
  rw [List.flatten_append]
  exact ((hgroups .direct).values_sorted_perm.append (hgroups .inherited).values_sorted_perm).trans
    (filter_classification_perm _)

theorem size_build : (build g ds r problems os).size =
    (Attachments.ofBindings (Attachments.bindings g ds r os)).size := by
  have hperm := values_build_perm g ds r problems os
  rw [size, ByTarget.count_eq, ByTarget.count_eq, ← List.length_append, ← List.flatten_append]
  exact hperm.length_eq

end

end TargetIndex

end PolicyAttachment
