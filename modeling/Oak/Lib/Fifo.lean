import Mathlib.Data.List.Infix

/-! Accounting for first-in first-out queues that are created and destroyed
over a run. A queue that does not exist is `none`. Each step pushes some items
onto the back of a queue and pops some off its front; a history records all
that was put and all that was taken, in order. The history agrees with the
queue when what was taken is a prefix of what was put and a live queue holds
exactly the rest. -/

namespace Oak.Lib

variable {α : Type*}

/-- One step's effect on a queue: `pushed` went onto its back and `popped`
came off its front. A queue that stops existing loses what it held; a queue
that starts existing starts empty, with nothing put or taken. -/
def QueueMoves (pushed popped : List α) : Option (List α) → Option (List α) → Prop
  | some q, some q' => popped ++ q' = q ++ pushed
  | some q, none => popped <+: q ++ pushed
  | none, some q' => q' = [] ∧ pushed = [] ∧ popped = []
  | none, none => pushed = [] ∧ popped = []

/-- A queue kept as it was, or destroyed. -/
def Kept (oq oq' : Option (List α)) : Prop := oq' = none ∨ oq' = oq

/-- What was put and taken agrees with the queue. -/
def Accounted (put taken : List α) : Option (List α) → Prop
  | some q => taken ++ q = put
  | none => taken <+: put

@[simp] theorem queueMoves_none_left {pushed popped : List α} {oq' : Option (List α)} :
    QueueMoves pushed popped none oq' ↔ (oq' = none ∨ oq' = some []) ∧ pushed = [] ∧ popped = [] := by
  cases oq' <;> simp [QueueMoves]

theorem Kept.refl (oq : Option (List α)) : Kept oq oq := .inr rfl

theorem Kept.trans {oq₁ oq₂ oq₃ : Option (List α)} (h₁ : Kept oq₁ oq₂) (h₂ : Kept oq₂ oq₃) :
    Kept oq₁ oq₃ := by
  rcases h₂ with h₂ | rfl
  · exact .inl h₂
  · exact h₁

theorem Kept.eq_of_ne_none {oq oq' : Option (List α)} (h : Kept oq oq') (hne : oq' ≠ none) :
    oq' = oq :=
  h.resolve_left hne

theorem QueueMoves.of_kept {oq oq' : Option (List α)} (h : Kept oq oq') : QueueMoves [] [] oq oq' := by
  rcases h with rfl | rfl
  · cases oq <;> simp [QueueMoves]
  · cases oq' <;> simp [QueueMoves]

theorem queueMoves_push (q : List α) (x : α) : QueueMoves [x] [] (some q) (some (q ++ [x])) := by
  simp [QueueMoves]

theorem queueMoves_pop (q : List α) (x : α) : QueueMoves [] [x] (some (x :: q)) (some q) := by
  simp [QueueMoves]

theorem QueueMoves.kept {pushed popped : List α} {oq oq' oq'' : Option (List α)}
    (hm : QueueMoves pushed popped oq oq') (hk : Kept oq' oq'') : QueueMoves pushed popped oq oq'' := by
  rcases hk with rfl | rfl
  · cases oq with
    | none => cases oq' <;> simp_all [QueueMoves]
    | some q =>
      cases oq' with
      | none => exact hm
      | some q' =>
        -- what is popped is a prefix of the queue with the pushed items behind it
        exact ⟨q', hm⟩
  · exact hm

theorem QueueMoves.of_kept_left {pushed popped : List α} {oq oq' oq'' : Option (List α)}
    (hk : Kept oq oq') (hne : oq' ≠ none) (hm : QueueMoves pushed popped oq' oq'') :
    QueueMoves pushed popped oq oq'' := by
  rw [← hk.eq_of_ne_none hne]
  exact hm

theorem Accounted.prefix {put taken : List α} {oq : Option (List α)} (h : Accounted put taken oq) :
    taken <+: put := by
  cases oq with
  | none => exact h
  | some q => exact ⟨q, h⟩

theorem Accounted.moves {put taken pushed popped : List α} {oq oq' : Option (List α)}
    (h : Accounted put taken oq) (hm : QueueMoves pushed popped oq oq')
    (hborn : oq = none → oq' ≠ none → put = []) :
    Accounted (put ++ pushed) (taken ++ popped) oq' := by
  cases oq with
  | some q =>
    cases oq' with
    | some q' =>
      change taken ++ popped ++ q' = put ++ pushed
      change popped ++ q' = q ++ pushed at hm
      change taken ++ q = put at h
      rw [List.append_assoc, hm, ← List.append_assoc, h]
    | none =>
      change taken ++ popped <+: put ++ pushed
      change popped <+: q ++ pushed at hm
      change taken ++ q = put at h
      rw [← h, List.append_assoc]
      exact (List.prefix_append_right_inj taken).2 hm
  | none =>
    obtain ⟨hq', rfl, rfl⟩ := queueMoves_none_left.1 hm
    rcases hq' with rfl | rfl
    · simpa [Accounted] using h
    · -- a new queue: nothing was put, so nothing was taken
      have hput := hborn rfl (by simp)
      subst hput
      change taken ++ [] ++ [] = [] ++ []
      rw [List.prefix_nil.1 h]
      rfl

end Oak.Lib
