import Mathlib.Data.List.AList

/-! `collect::<HashMap<_, _>>()` over a list of pairs: each pair inserted in
turn, a later value under a key replacing the earlier one. The map has a key
exactly when some pair has it, and each of its entries is one of the pairs.
And the two other ways Rust code fills a map through `entry`: refusing a key
already there, or adding to the value under it. -/

namespace Oak.Lib

variable {κ ν : Type*} [DecidableEq κ]

/-- The map a list of pairs collects into. -/
def collect (l : List (κ × ν)) : AList (fun _ : κ => ν) :=
  l.foldl (fun m p => m.insert p.1 p.2) ∅

theorem lookup_foldl_insert {l : List (κ × ν)} {m : AList (fun _ : κ => ν)} {k : κ} {v : ν}
    (h : (l.foldl (fun m p => m.insert p.1 p.2) m).lookup k = some v) : m.lookup k = some v ∨ (k, v) ∈ l := by
  induction l generalizing m with
  | nil => exact .inl h
  | cons p l ih =>
    rcases ih h with hm | hl
    · by_cases hk : k = p.1
      · subst hk
        rw [AList.lookup_insert, Option.some.injEq] at hm
        exact .inr (by rw [← hm]; exact List.mem_cons_self ..)
      · rw [AList.lookup_insert_ne hk] at hm
        exact .inl hm
    · exact .inr (List.mem_cons_of_mem _ hl)

theorem mem_foldl_insert {l : List (κ × ν)} {m : AList (fun _ : κ => ν)} {k : κ}
    (h : k ∈ m ∨ ∃ v, (k, v) ∈ l) : k ∈ l.foldl (fun m p => m.insert p.1 p.2) m := by
  induction l generalizing m with
  | nil => simpa using h
  | cons p l ih =>
    apply ih
    rcases h with h | ⟨v, hv⟩
    · exact .inl ((AList.mem_insert _).2 (.inr h))
    · rcases List.mem_cons.1 hv with rfl | hv
      · exact .inl ((AList.mem_insert _).2 (.inl rfl))
      · exact .inr ⟨v, hv⟩

theorem lookup_collect {l : List (κ × ν)} {k : κ} {v : ν} (h : (collect l).lookup k = some v) : (k, v) ∈ l :=
  (lookup_foldl_insert h).resolve_left (by simp)

theorem mem_collect {l : List (κ × ν)} {k : κ} : k ∈ collect l ↔ ∃ v, (k, v) ∈ l := by
  refine ⟨fun hk => ?_, fun h => mem_foldl_insert (.inr h)⟩
  obtain ⟨v, hv⟩ := Option.isSome_iff_exists.1 (AList.lookup_isSome.2 hk)
  exact ⟨v, lookup_collect hv⟩

theorem mem_entries_collect {l : List (κ × ν)} {x : Sigma fun _ : κ => ν} (hx : x ∈ (collect l).entries) :
    (x.1, x.2) ∈ l :=
  lookup_collect (AList.mem_lookup_iff.2 hx)

theorem lookup_foldl_insert_eq (l : List (κ × ν)) (m : AList (fun _ : κ => ν)) (k : κ) :
    (l.foldl (fun m p => m.insert p.1 p.2) m).lookup k =
      ((l.reverse.find? fun p => p.1 = k).map Prod.snd).or (m.lookup k) := by
  induction l generalizing m with
  | nil => simp
  | cons p l ih =>
    rw [List.foldl_cons, ih, List.reverse_cons, List.find?_append]
    cases l.reverse.find? fun p => p.1 = k with
    | some q => simp
    | none =>
      by_cases hk : p.1 = k
      · subst hk
        simp
      · simp [hk, AList.lookup_insert_ne (Ne.symm hk)]

theorem lookup_collect_eq (l : List (κ × ν)) (k : κ) :
    (collect l).lookup k = (l.reverse.find? fun p => p.1 = k).map Prod.snd := by
  rw [collect, lookup_foldl_insert_eq]
  simp

/-! ### Inserting through `entry` -/

section Entry

variable {ε : Type*}

/-- One step of a `try_fold` that inserts a pair into a map through `entry`,
refusing a key already there with the error `err` of the key. -/
def insertFresh (err : κ → ε) (m : AList (fun _ : κ => ν)) (p : κ × ν) : Except ε (AList (fun _ : κ => ν)) :=
  if p.1 ∈ m then .error (err p.1) else .ok (m.insert p.1 p.2)

theorem foldlM_insertFresh_cons (err : κ → ε) (m : AList (fun _ : κ => ν)) (p : κ × ν) (l : List (κ × ν)) :
    (p :: l).foldlM (insertFresh err) m =
      if p.1 ∈ m then .error (err p.1) else l.foldlM (insertFresh err) (m.insert p.1 p.2) := by
  rw [List.foldlM_cons, insertFresh]
  split <;> rfl

theorem foldlM_insertFresh_ok_iff (err : κ → ε) {l : List (κ × ν)} {m : AList (fun _ : κ => ν)} :
    (∃ m', l.foldlM (insertFresh err) m = .ok m') ↔ (l.map Prod.fst).Nodup ∧ ∀ p ∈ l, p.1 ∉ m := by
  induction l generalizing m with
  | nil => exact iff_of_true ⟨m, rfl⟩ (by simp)
  | cons p l ih =>
    rw [foldlM_insertFresh_cons]
    by_cases hp : p.1 ∈ m
    · rw [if_pos hp]
      exact iff_of_false (fun ⟨_, h⟩ => by cases h) fun h => h.2 p List.mem_cons_self hp
    · rw [if_neg hp, ih]
      simp only [List.map_cons, List.nodup_cons, List.forall_mem_cons, AList.mem_insert, not_or,
        List.mem_map]
      constructor
      · rintro ⟨hnd, hl⟩
        exact ⟨⟨fun ⟨q, hq, he⟩ => (hl q hq).1 he, hnd⟩, hp, fun q hq => (hl q hq).2⟩
      · rintro ⟨⟨hnotin, hnd⟩, -, hl⟩
        exact ⟨hnd, fun q hq => ⟨fun he => hnotin ⟨q, hq, he⟩, hl q hq⟩⟩

theorem lookup_foldlM_insertFresh (err : κ → ε) {l : List (κ × ν)} {m m' : AList (fun _ : κ => ν)}
    (h : l.foldlM (insertFresh err) m = .ok m') (k : κ) (v : ν) :
    m'.lookup k = some v ↔ m.lookup k = some v ∨ (k, v) ∈ l := by
  induction l generalizing m with
  | nil =>
    cases h
    simp
  | cons p l ih =>
    rw [foldlM_insertFresh_cons] at h
    by_cases hp : p.1 ∈ m
    · rw [if_pos hp] at h
      cases h
    · rw [if_neg hp] at h
      rw [ih h, List.mem_cons]
      by_cases hk : k = p.1
      · -- the key is new to `m`, so its value is the pair's
        subst hk
        have hnone : m.lookup p.1 = none := AList.lookup_eq_none.2 hp
        rw [AList.lookup_insert, hnone, Option.some.injEq]
        constructor
        · rintro (rfl | h)
          · exact .inr (.inl rfl)
          · exact .inr (.inr h)
        · rintro (h | h | h)
          · cases h
          · exact .inl (congrArg Prod.snd h).symm
          · exact .inr h
      · rw [AList.lookup_insert_ne hk]
        have hne : (k, v) ≠ p := fun he => hk (congrArg Prod.fst he)
        simp [hne]

/-- `*m.entry(k).or_insert(0) += v`: the value under `k` grows by `v`, from
zero when `k` is new. -/
def addEntry [Zero ν] [Add ν] (m : AList (fun _ : κ => ν)) (k : κ) (v : ν) : AList (fun _ : κ => ν) :=
  m.insert k ((m.lookup k).getD 0 + v)

theorem lookup_foldl_addEntry [Zero ν] [Add ν] {l : List (Sigma fun _ : κ => ν)} (hl : l.NodupKeys)
    (m : AList (fun _ : κ => ν)) (k : κ) :
    (l.foldl (fun m e => addEntry m e.1 e.2) m).lookup k =
      match l.dlookup k with
      | some v => some ((m.lookup k).getD 0 + v)
      | none => m.lookup k := by
  induction l generalizing m with
  | nil => rfl
  | cons e l ih =>
    obtain ⟨he, hl'⟩ := List.nodupKeys_cons.1 hl
    rw [List.foldl_cons, ih hl']
    by_cases hk : k = e.1
    · -- the later entries do not have `e`'s key
      subst hk
      rw [List.dlookup_eq_none.2 he, List.dlookup_cons_eq, addEntry, AList.lookup_insert]
    · rw [List.dlookup_cons_ne _ _ hk, addEntry]
      split <;> rw [AList.lookup_insert_ne hk]

end Entry

end Oak.Lib
