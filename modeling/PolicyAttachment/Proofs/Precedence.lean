import Mathlib.Data.List.Induction
import PolicyAttachment.Merge

namespace PolicyAttachment

/-- Of the overlays of a chain that give the field a value in this part, the nearest gives it `v`. -/
def NearestGives (part : Overlay → Fields) (chain : List Overlay) (field : String) (v : Document) : Prop :=
  ∃ far o near, chain = far ++ o :: near ∧ (part o).get? field = some v ∧
    ∀ o' ∈ near, (part o').get? field = none

inductive Decides (chain : List Overlay) (field : String) : Option Document → Prop
  | override {v : Document} : NearestGives Overlay.overrides chain field v → Decides chain field (some v)
  | default {v : Document} : (∀ o ∈ chain, o.overrides.get? field = none) →
      NearestGives Overlay.defaults chain field v → Decides chain field (some v)
  | absent : (∀ o ∈ chain, o.overrides.get? field = none) → (∀ o ∈ chain, o.defaults.get? field = none) →
      Decides chain field none

def Overlay.ofRun (run : List Overlay) : Overlay := ⟨lastWins overrides run, lastWins defaults run⟩

section

variable {part : Overlay → Fields} {chain : List Overlay} {field : String}

theorem get?_lastWins (part : Overlay → Fields) (chain : List Overlay) (field : String) :
    (lastWins part chain).get? field = chain.reverse.findSome? fun o => (part o).get? field := by
  induction chain using List.reverseRecOn with
  | nil => rfl
  | append_singleton chain o ih =>
    have hstep : lastWins part (chain ++ [o]) = (lastWins part chain).insertMany (part o).entries := by
      rw [lastWins, List.foldl_append]
      rfl
    rw [hstep, SortedMap.get?_insertMany_entries, ih, List.reverse_concat, List.findSome?_cons]
    cases (part o).get? field <;> rfl

theorem get?_lastWins_eq_some_iff {v : Document} :
    (lastWins part chain).get? field = some v ↔ NearestGives part chain field v := by
  rw [get?_lastWins, List.findSome?_eq_some_iff]
  constructor
  · rintro ⟨near, o, far, hchain, hv, hnear⟩
    refine ⟨far.reverse, o, near.reverse, ?_, hv, fun o' ho' => hnear o' (List.mem_reverse.mp ho')⟩
    simpa using congrArg List.reverse hchain
  · rintro ⟨far, o, near, rfl, hv, hnear⟩
    exact ⟨near.reverse, o, far.reverse, by simp, hv, fun o' ho' => hnear o' (List.mem_reverse.mp ho')⟩

theorem get?_lastWins_eq_none_iff :
    (lastWins part chain).get? field = none ↔ ∀ o ∈ chain, (part o).get? field = none := by
  rw [get?_lastWins, List.findSome?_eq_none_iff]
  simp only [List.mem_reverse]

theorem get?_merge (chain : List Overlay) (field : String) : (merge chain).get? field =
    ((lastWins Overlay.overrides chain).get? field).or ((lastWins Overlay.defaults chain).get? field) :=
  SortedMap.get?_insertMany_entries _ _ field

theorem decides_iff {value : Option Document} :
    Decides chain field value ↔ (merge chain).get? field = value := by
  rw [get?_merge]
  constructor
  · rintro (hover | ⟨hnone, hdefault⟩ | ⟨hnone, hnone'⟩)
    · rw [get?_lastWins_eq_some_iff.mpr hover, Option.some_or]
    · rw [get?_lastWins_eq_none_iff.mpr hnone, Option.none_or, get?_lastWins_eq_some_iff.mpr hdefault]
    · rw [get?_lastWins_eq_none_iff.mpr hnone, Option.none_or, get?_lastWins_eq_none_iff.mpr hnone']
  · rintro rfl
    cases hover : (lastWins Overlay.overrides chain).get? field with
    | some v => exact .override (get?_lastWins_eq_some_iff.mp hover)
    | none =>
      rw [Option.none_or]
      have hnone := get?_lastWins_eq_none_iff.mp hover
      cases hdefault : (lastWins Overlay.defaults chain).get? field with
      | some v => exact .default hnone (get?_lastWins_eq_some_iff.mp hdefault)
      | none => exact .absent hnone (get?_lastWins_eq_none_iff.mp hdefault)

end

theorem lastWins_append (part : Overlay → Fields) (far near : List Overlay) (field : String) :
    (lastWins part (far ++ near)).get? field =
      ((lastWins part near).get? field).or ((lastWins part far).get? field) := by
  rw [get?_lastWins, List.reverse_append, List.findSome?_append, ← get?_lastWins, ← get?_lastWins]

theorem lastWins_replace_run {part : Overlay → Fields} {run : List Overlay} {o : Overlay}
    (ho : part o = lastWins part run) (far near : List Overlay) :
    lastWins part (far ++ o :: near) = lastWins part (far ++ run ++ near) := by
  apply SortedMap.ext_get?
  intro field
  have hone : (lastWins part [o]).get? field = (lastWins part run).get? field := by
    rw [get?_lastWins, ← ho]
    cases h : (part o).get? field <;> simp [h]
  rw [List.append_assoc, lastWins_append, lastWins_append, ← List.singleton_append, lastWins_append,
    lastWins_append, hone]

theorem merge_exact :
    (∀ chain field value, Decides chain field value ↔ (merge chain).get? field = value) ∧
    ∀ run,
      (∀ field v, (Overlay.ofRun run).overrides.get? field = some v ↔
        NearestGives Overlay.overrides run field v) ∧
      (∀ field v, (Overlay.ofRun run).defaults.get? field = some v ↔
        NearestGives Overlay.defaults run field v) ∧
      ∀ far near, merge (far ++ Overlay.ofRun run :: near) = merge (far ++ run ++ near) := by
  refine ⟨fun _ _ _ => decides_iff, fun run => ⟨fun _ _ => get?_lastWins_eq_some_iff,
    fun _ _ => get?_lastWins_eq_some_iff, fun far near => ?_⟩⟩
  have hdefaults : (Overlay.ofRun run).defaults = lastWins Overlay.defaults run := rfl
  have hoverrides : (Overlay.ofRun run).overrides = lastWins Overlay.overrides run := rfl
  rw [merge, lastWins_replace_run hdefaults, lastWins_replace_run hoverrides, merge]

end PolicyAttachment
