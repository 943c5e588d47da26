namespace PolicyAttachment.Yaml

def isBlank (c : Char) : Bool := c = ' ' || c = '\t'

def isBreak (c : Char) : Bool :=
  c = '\n' || c = '\r' || c = '\x85' || c = '\u2028' || c = '\u2029'

def isGap (c : Char) : Bool := isBlank c || isBreak c

def isNameChar (c : Char) : Bool := c.isAlphanum || c = '_' || c = '-'

def atGap : List Char → Bool
  | [] => true
  | c :: _ => isGap c

def lineBreak? : List Char → Option (Char × Nat)
  | '\r' :: '\n' :: _ => some ('\n', 2)
  | c :: _ =>
    if isBreak c then some (if c = '\u2028' ∨ c = '\u2029' then c else '\n', 1) else none
  | [] => none

theorem length_drop_lt_of_lineBreak? {s : List Char} {c : Char} {n : Nat}
    (h : lineBreak? s = some (c, n)) : (s.drop n).length < s.length := by
  unfold lineBreak? at h
  split at h
  · obtain ⟨-, rfl⟩ := Prod.mk.inj (Option.some.inj h)
    simp only [List.drop_succ_cons, List.drop_zero, List.length_cons]
    omega
  · split at h
    · obtain ⟨-, rfl⟩ := Prod.mk.inj (Option.some.inj h)
      simp only [List.drop_succ_cons, List.drop_zero, List.length_cons]
      omega
    · simp only [reduceCtorEq] at h
  · simp only [reduceCtorEq] at h

theorem isSome_lineBreak? {c : Char} {r : List Char} (h : isBreak c = true) :
    (lineBreak? (c :: r)).isSome := by
  unfold lineBreak?
  split
  · rfl
  · next heq =>
    obtain ⟨rfl, -⟩ := List.cons.inj heq
    simp only [h, if_true, Option.isSome_some]
  · next heq => simp only [reduceCtorEq] at heq

def byteCount (s : List Char) : Nat := s.foldl (fun n c => n + c.utf8Size) 0

structure Cursor where
  rest : List Char
  index : Nat
  line : Nat
  column : Nat
deriving DecidableEq, Repr, Inhabited

namespace Cursor

def start (text : List Char) : Cursor := ⟨text, 0, 0, 0⟩

def atEnd (c : Cursor) : Bool := c.rest.isEmpty

def sees (c : Cursor) (x : Char) : Bool := c.rest.head? = some x

def skip (c : Cursor) (n : Nat) : Cursor :=
  { c with
    rest := c.rest.drop n
    index := c.index + byteCount (c.rest.take n)
    column := c.column + n }

def skipWhile (c : Cursor) (p : Char → Bool) : Cursor := c.skip (c.rest.takeWhile p).length

def span (c : Cursor) (p : Char → Bool) : List Char × Cursor :=
  let run := c.rest.takeWhile p
  (run, c.skip run.length)

def newline? (c : Cursor) : Option (Char × Cursor) :=
  (lineBreak? c.rest).map fun (b, n) =>
    (b, ⟨c.rest.drop n, c.index + byteCount (c.rest.take n), c.line + 1, 0⟩)

def atMarker (c : Cursor) (x : Char) : Bool :=
  c.column = 0 && c.rest.take 3 = [x, x, x] && atGap (c.rest.drop 3)

def atDocumentMarker (c : Cursor) : Bool := c.atMarker '-' || c.atMarker '.'

def emptyRest? (c : Cursor) : Option Cursor :=
  let c := c.skipWhile isBlank
  let c := if c.sees '#' then c.skipWhile fun x => !isBreak x else c
  match c.newline? with
  | some (_, d) => some d
  | none => if c.atEnd then some c else none

theorem length_skip_le (c : Cursor) (n : Nat) : (c.skip n).rest.length ≤ c.rest.length := by
  simp [skip]

theorem length_skipWhile_le (c : Cursor) (p : Char → Bool) :
    (c.skipWhile p).rest.length ≤ c.rest.length :=
  c.length_skip_le _

theorem length_newline?_lt {c d : Cursor} {b : Char} (h : c.newline? = some (b, d)) :
    d.rest.length < c.rest.length := by
  obtain ⟨⟨x, n⟩, hn, he⟩ := Option.map_eq_some_iff.1 h
  obtain ⟨-, rfl⟩ := Prod.mk.inj he
  exact length_drop_lt_of_lineBreak? hn

end Cursor

structure Gap where
  blanks : List Char := []
  breaks : List Char := []
  broken : Bool := false
  escaped : Bool := false
deriving DecidableEq, Repr, Inhabited

namespace Gap

/-- What a gap stands for: its blanks, if it lies within a line; else its line breaks but the first,
which is a blank if it is alone. Line separators and breaks after an escaped one all stay. -/
def text (g : Gap) : List Char :=
  if g.broken then
    match g.breaks.reverse with
    | '\n' :: r => if g.escaped then '\n' :: r else if r.isEmpty then [' '] else r
    | bs => bs
  else g.blanks.reverse

end Gap

namespace Cursor

def seesGap (c : Cursor) : Bool := c.rest.head?.any isGap

def gap? (margin : Nat) (c : Cursor) (g : Gap) : Option (Gap × Cursor) :=
  match hr : c.rest with
  | [] => some (g, c)
  | x :: _ =>
    if isBlank x then
      have : (c.skip 1).rest.length < c.rest.length := by simp [skip, hr]
      if g.broken ∧ x = '\t' ∧ c.column < margin then none
      else (c.skip 1).gap? margin (if g.broken then g else { g with blanks := x :: g.blanks })
    else
      match h : c.newline? with
      | some (b, d) =>
        have := length_newline?_lt h
        d.gap? margin { g with breaks := b :: g.breaks, broken := true }
      | none => some (g, c)
termination_by c.rest.length

theorem length_gap?_le {margin : Nat} {c d : Cursor} {g g' : Gap}
    (h : c.gap? margin g = some (g', d)) : d.rest.length ≤ c.rest.length := by
  fun_induction gap? margin c g with
  | case1 c g hr => obtain ⟨-, rfl⟩ := Prod.mk.inj (Option.some.inj h); exact Nat.le_refl _
  | case2 => simp only [reduceCtorEq] at h
  | case3 c g x r hr hx hlt _ ih => exact Nat.le_trans (ih h) (Nat.le_of_lt hlt)
  | case4 c g x r hr hx b e hn hlt ih => exact Nat.le_trans (ih h) (Nat.le_of_lt hlt)
  | case5 c g x r hr hx hn => obtain ⟨-, rfl⟩ := Prod.mk.inj (Option.some.inj h); exact Nat.le_refl _

theorem length_gap?_lt {margin : Nat} {c d : Cursor} {g g' : Gap} (hc : c.seesGap = true)
    (h : c.gap? margin g = some (g', d)) : d.rest.length < c.rest.length := by
  unfold gap? at h
  split at h
  · next hr => simp [seesGap, hr] at hc
  · next x r hr =>
    split at h
    · have : (c.skip 1).rest.length < c.rest.length := by simp [skip, hr]
      split at h
      · simp only [reduceCtorEq] at h
      · exact Nat.lt_of_le_of_lt (length_gap?_le h) this
    · next hx =>
      split at h
      · next hn => exact Nat.lt_of_le_of_lt (length_gap?_le h) (length_newline?_lt hn)
      · next hn =>
        have hb : isBreak x = true := by
          simpa [seesGap, hr, isGap, hx] using hc
        have := isSome_lineBreak? (r := r) hb
        simp [newline?, hr] at hn
        simp [hn] at this

end Cursor

end PolicyAttachment.Yaml
