import Mathlib.Data.List.Basic

/-! Stateful traversals of the slots of a value. `mapAccum` threads a state
through a list, rewriting each element on the way. A `Slots` names the slots
of type `H` inside the values of `α`, in order, and puts other contents in
them. Its laws are the lens laws: putting back the slots changes nothing,
reading the slots gives back what was put, and a second put forgets the
first. A fold *visits* the slots when it is `mapAccum` over them followed by a
put. Slots compose along products, sums, options and lists, with their laws
and their folds. -/

namespace Oak.Lib

variable {α β B H X : Type*}

/-- Threads a state through a list from the left, rewriting each element. -/
def mapAccum (f : B → X → B × X) : B → List X → B × List X
  | b, [] => (b, [])
  | b, x :: xs =>
    let (b, x) := f b x
    let (b, xs) := mapAccum f b xs
    (b, x :: xs)

@[simp] theorem mapAccum_nil (f : B → X → B × X) (b : B) : mapAccum f b [] = (b, []) := rfl

theorem mapAccum_cons (f : B → X → B × X) (b : B) (x : X) (xs : List X) :
    mapAccum f b (x :: xs) = ((mapAccum f (f b x).1 xs).1, (f b x).2 :: (mapAccum f (f b x).1 xs).2) := rfl

@[simp] theorem length_mapAccum (f : B → X → B × X) (b : B) (xs : List X) :
    (mapAccum f b xs).2.length = xs.length := by
  induction xs generalizing b with
  | nil => rfl
  | cons x xs ih => simp [mapAccum_cons, ih]

theorem mapAccum_append (f : B → X → B × X) (b : B) (xs ys : List X) :
    mapAccum f b (xs ++ ys) =
      ((mapAccum f (mapAccum f b xs).1 ys).1, (mapAccum f b xs).2 ++ (mapAccum f (mapAccum f b xs).1 ys).2) := by
  induction xs generalizing b with
  | nil => rfl
  | cons x xs ih => simp [mapAccum_cons, ih]

/-- The slots of type `H` in the values of `α`, in order, and the value with
other contents in its slots. -/
structure Slots (α H : Type*) where
  get : α → List H
  put : α → List H → α

namespace Slots

/-- The lens laws, for contents as many as the slots. -/
structure Lawful (s : Slots α H) : Prop where
  put_get (v : α) : s.put v (s.get v) = v
  get_put (v : α) {hs : List H} : hs.length = (s.get v).length → s.get (s.put v hs) = hs
  put_put (v : α) {hs hs' : List H} : hs.length = (s.get v).length → hs'.length = (s.get v).length →
    s.put (s.put v hs) hs' = s.put v hs'

/-- `fold` visits the slots of `s` in order: it threads its state through
them, and writes back what the step returns. -/
def Folds (s : Slots α H) (fold : (B → H → B × H) → B → α → B × α) : Prop :=
  ∀ f b v, fold f b v = ((mapAccum f b (s.get v)).1, s.put v (mapAccum f b (s.get v)).2)

/-! ### One slot, and none -/

/-- A value that is itself one slot. -/
def one : Slots H H := ⟨fun h => [h], fun h hs => hs.headD h⟩

theorem lawful_one : (one : Slots H H).Lawful where
  put_get _ := rfl
  get_put _ {hs} h := by
    match hs, h with
    | [_], _ => rfl
  put_put _ {hs hs'} h h' := by
    match hs, hs', h, h' with
    | [_], [_], _, _ => rfl

theorem folds_one : (one : Slots H H).Folds fun (f : B → H → B × H) b h => f b h := fun _ _ _ => rfl

/-- A value without slots. -/
def empty : Slots α H := ⟨fun _ => [], fun v _ => v⟩

theorem lawful_empty : (empty : Slots α H).Lawful where
  put_get _ := rfl
  get_put _ {_} h := (List.eq_nil_of_length_eq_zero h).symm
  put_put _ {_ _} _ _ := rfl

theorem folds_empty : (empty : Slots α H).Folds fun (_ : B → H → B × H) b v => (b, v) := fun _ _ _ => rfl

/-! ### Products and sums -/

/-- The slots of the first component, then those of the second. -/
def prod (s : Slots α H) (t : Slots β H) : Slots (α × β) H where
  get p := s.get p.1 ++ t.get p.2
  put p hs := (s.put p.1 (hs.take (s.get p.1).length), t.put p.2 (hs.drop (s.get p.1).length))

theorem Lawful.prod {s : Slots α H} {t : Slots β H} (hs : s.Lawful) (ht : t.Lawful) : (s.prod t).Lawful where
  put_get p := by simp [Slots.prod, hs.put_get, ht.put_get]
  get_put p {xs} h := by
    simp only [Slots.prod, List.length_append] at h ⊢
    rw [hs.get_put _ (by rw [List.length_take]; omega), ht.get_put _ (by rw [List.length_drop]; omega),
      List.take_append_drop]
  put_put p {xs ys} h h' := by
    simp only [Slots.prod, List.length_append] at h h' ⊢
    have hlen : (s.get (s.put p.1 (xs.take (s.get p.1).length))).length = (s.get p.1).length := by
      rw [hs.get_put _ (by rw [List.length_take]; omega), List.length_take]
      omega
    rw [hlen, hs.put_put _ (by rw [List.length_take]; omega) (by rw [List.length_take]; omega),
      ht.put_put _ (by rw [List.length_drop]; omega) (by rw [List.length_drop]; omega)]

theorem Folds.prod {s : Slots α H} {t : Slots β H} {fold₁ : (B → H → B × H) → B → α → B × α}
    {fold₂ : (B → H → B × H) → B → β → B × β} (h₁ : s.Folds fold₁) (h₂ : t.Folds fold₂) :
    (s.prod t).Folds fun f b p =>
      let (b, x) := fold₁ f b p.1
      let (b, y) := fold₂ f b p.2
      (b, (x, y)) := by
  intro f b p
  have hlen := length_mapAccum f b (s.get p.1)
  simp only [h₁ f, h₂ f, Slots.prod, mapAccum_append]
  rw [List.take_left' hlen, List.drop_left' hlen]

/-- The slots of whichever component the value holds. -/
def sum (s : Slots α H) (t : Slots β H) : Slots (α ⊕ β) H where
  get := Sum.elim s.get t.get
  put
    | .inl a, hs => .inl (s.put a hs)
    | .inr b, hs => .inr (t.put b hs)

theorem Lawful.sum {s : Slots α H} {t : Slots β H} (hs : s.Lawful) (ht : t.Lawful) : (s.sum t).Lawful where
  put_get v := by
    cases v with
    | inl a => exact congrArg Sum.inl (hs.put_get a)
    | inr b => exact congrArg Sum.inr (ht.put_get b)
  get_put v {_} h := by
    cases v with
    | inl a => exact hs.get_put a h
    | inr b => exact ht.get_put b h
  put_put v {_ _} h h' := by
    cases v with
    | inl a => exact congrArg Sum.inl (hs.put_put a h h')
    | inr b => exact congrArg Sum.inr (ht.put_put b h h')

theorem Folds.sum {s : Slots α H} {t : Slots β H} {fold₁ : (B → H → B × H) → B → α → B × α}
    {fold₂ : (B → H → B × H) → B → β → B × β} (h₁ : s.Folds fold₁) (h₂ : t.Folds fold₂) :
    (s.sum t).Folds fun f b v =>
      match v with
      | .inl x =>
        let (b, x) := fold₁ f b x
        (b, .inl x)
      | .inr y =>
        let (b, y) := fold₂ f b y
        (b, .inr y)
  | f, b, .inl x => by simp [h₁ f, Slots.sum]
  | f, b, .inr y => by simp [h₂ f, Slots.sum]

/-! ### Options and lists -/

/-- The slots of the value an option holds, if any. -/
def option (s : Slots α H) : Slots (Option α) H where
  get
    | none => []
    | some a => s.get a
  put
    | none, _ => none
    | some a, hs => some (s.put a hs)

theorem Lawful.option {s : Slots α H} (hs : s.Lawful) : s.option.Lawful where
  put_get v := by
    cases v with
    | none => rfl
    | some a => exact congrArg some (hs.put_get a)
  get_put v {_} h := by
    cases v with
    | none => exact (List.eq_nil_of_length_eq_zero h).symm
    | some a => exact hs.get_put a h
  put_put v {_ _} h h' := by
    cases v with
    | none => rfl
    | some a => exact congrArg some (hs.put_put a h h')

theorem Folds.option {s : Slots α H} {fold : (B → H → B × H) → B → α → B × α} (h : s.Folds fold) :
    s.option.Folds fun f b v =>
      match v with
      | none => (b, none)
      | some x =>
        let (b, x) := fold f b x
        (b, some x)
  | _, _, none => rfl
  | f, b, some x => by simp [h f, Slots.option]

/-- `put` of `Slots.list`: each element takes as many contents as it has slots. -/
def putList (s : Slots α H) : List α → List H → List α
  | [], _ => []
  | a :: as, hs => s.put a (hs.take (s.get a).length) :: putList s as (hs.drop (s.get a).length)

/-- The slots of each element, in order. -/
def list (s : Slots α H) : Slots (List α) H := ⟨fun as => as.flatMap s.get, putList s⟩

theorem Lawful.list {s : Slots α H} (hs : s.Lawful) : s.list.Lawful where
  put_get as := by
    induction as with
    | nil => rfl
    | cons a as ih =>
      simp only [Slots.list, List.flatMap_cons, putList] at ih ⊢
      simp [hs.put_get, ih]
  get_put as {xs} h := by
    induction as generalizing xs with
    | nil => exact (List.eq_nil_of_length_eq_zero h).symm
    | cons a as ih =>
      simp only [Slots.list, List.flatMap_cons, List.length_append, putList] at h ih ⊢
      rw [hs.get_put _ (by rw [List.length_take]; omega), ih (by rw [List.length_drop]; omega),
        List.take_append_drop]
  put_put as {xs ys} h h' := by
    induction as generalizing xs ys with
    | nil => rfl
    | cons a as ih =>
      simp only [Slots.list, List.flatMap_cons, List.length_append, putList] at h h' ih ⊢
      have hlen : (s.get (s.put a (xs.take (s.get a).length))).length = (s.get a).length := by
        rw [hs.get_put _ (by rw [List.length_take]; omega), List.length_take]
        omega
      rw [hlen, hs.put_put _ (by rw [List.length_take]; omega) (by rw [List.length_take]; omega),
        ih (by rw [List.length_drop]; omega) (by rw [List.length_drop]; omega)]

theorem Folds.list {s : Slots α H} {fold : (B → H → B × H) → B → α → B × α} (h : s.Folds fold) :
    s.list.Folds fun f b as => mapAccum (fold f) b as := by
  intro f b as
  induction as generalizing b with
  | nil => rfl
  | cons a as ih =>
    have hlen := length_mapAccum f b (s.get a)
    simp only [Slots.list, List.flatMap_cons, putList] at ih ⊢
    rw [mapAccum_cons, ih, h f, mapAccum_append, List.take_left' hlen, List.drop_left' hlen]

end Slots

end Oak.Lib
