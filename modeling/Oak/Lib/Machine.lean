import Mathlib.Logic.Basic

/-! Runs of a system given by a partial step function: each request either
takes the state to a new one with a reply, or cannot happen from that state.
A run records every step as an entry, oldest first. Invariants of states,
invariants of whole histories and relations between earlier and later states
are proved here once, by induction on runs. -/

namespace Oak.Lib

/-- One step of a run: the state before, the request, the state after and the reply. -/
structure Entry (σ α ρ : Type*) where
  pre : σ
  act : α
  post : σ
  reply : ρ

variable {σ α ρ : Type*}

/-- The runs from `init`: the entries taken, oldest first, and the state they reach. -/
inductive Run (step : σ → α → Option (σ × ρ)) (init : σ) : List (Entry σ α ρ) → σ → Prop
  | nil : Run step init [] init
  | snoc {tr : List (Entry σ α ρ)} {s s' : σ} {a : α} {r : ρ} :
      Run step init tr s → step s a = some (s', r) → Run step init (tr ++ [⟨s, a, s', r⟩]) s'

variable {step : σ → α → Option (σ × ρ)} {init : σ}

theorem Run.history_invariant (I : List (Entry σ α ρ) → σ → Prop) (h0 : I [] init)
    (hs : ∀ tr s a s' r, Run step init tr s → I tr s → step s a = some (s', r) →
      I (tr ++ [⟨s, a, s', r⟩]) s')
    {tr : List (Entry σ α ρ)} {s : σ} (h : Run step init tr s) : I tr s := by
  induction h with
  | nil => exact h0
  | snoc hr hst ih => exact hs _ _ _ _ _ hr ih hst

theorem Run.invariant (I : σ → Prop) (h0 : I init)
    (hs : ∀ s a s' r, I s → step s a = some (s', r) → I s')
    {tr : List (Entry σ α ρ)} {s : σ} (h : Run step init tr s) : I s :=
  h.history_invariant (fun _ s => I s) h0 fun _ _ _ _ _ _ hi hst => hs _ _ _ _ hi hst

theorem Run.entry {tr : List (Entry σ α ρ)} {s : σ} (h : Run step init tr s) :
    ∀ e ∈ tr, (∃ tr', Run step init tr' e.pre) ∧ step e.pre e.act = some (e.post, e.reply) := by
  induction h with
  | nil => simp
  | @snoc tr s s' a r hr hst ih =>
    intro e he
    rcases List.mem_append.1 he with he | he
    · exact ih e he
    · rw [List.mem_singleton] at he
      subst he
      exact ⟨⟨tr, hr⟩, hst⟩

/-- The requests `acts` taken one after another from `s`: the entries and the
state reached, or `none` where one of them cannot happen. -/
def runFrom (step : σ → α → Option (σ × ρ)) (s : σ) : List α → Option (List (Entry σ α ρ) × σ)
  | [] => some ([], s)
  | a :: acts =>
    match step s a with
    | some (s', r) => (runFrom step s' acts).map fun p => (⟨s, a, s', r⟩ :: p.1, p.2)
    | none => none

theorem Run.of_runFrom {tr : List (Entry σ α ρ)} {s : σ} (h : Run step init tr s) {acts : List α}
    {tr' : List (Entry σ α ρ)} {s' : σ} (he : runFrom step s acts = some (tr', s')) :
    Run step init (tr ++ tr') s' := by
  induction acts generalizing tr s tr' with
  | nil =>
    rw [runFrom, Option.some.injEq, Prod.mk.injEq] at he
    obtain ⟨rfl, rfl⟩ := he
    simpa using h
  | cons a acts ih =>
    rw [runFrom] at he
    split at he
    · next s₁ r₁ hst =>
      obtain ⟨⟨tr₁, s₂⟩, he₁, hp⟩ := Option.map_eq_some_iff.1 he
      obtain ⟨rfl, rfl⟩ := Prod.mk.inj hp
      have := ih (h.snoc hst) he₁
      simpa using this
    · cases he

theorem Run.of_runFrom_init {acts : List α} {tr : List (Entry σ α ρ)} {s : σ}
    (he : runFrom step init acts = some (tr, s)) : Run step init tr s := by
  simpa using Run.nil.of_runFrom he

/-- The states of a run: the one it reached and the start of each entry. -/
def states (tr : List (Entry σ α ρ)) (s : σ) : List σ := s :: tr.map Entry.pre

theorem Run.reachable_of_mem_states {tr : List (Entry σ α ρ)} {s : σ} (h : Run step init tr s) :
    ∀ t ∈ states tr s, ∃ tr', Run step init tr' t := by
  intro t ht
  rcases List.mem_cons.1 ht with rfl | hm
  · exact ⟨tr, h⟩
  · obtain ⟨e, he, rfl⟩ := List.mem_map.1 hm
    exact (h.entry e he).1

section Rel

/-! A reflexive and transitive relation that relates the two states of every
step of a run relates every earlier state of the run to every later one. -/

variable (R : σ → σ → Prop) (hrefl : ∀ s, R s s) (htrans : ∀ s₁ s₂ s₃, R s₁ s₂ → R s₂ s₃ → R s₁ s₃)
  (hstep : ∀ tr s a s' r, Run step init tr s → step s a = some (s', r) → R s s')
include hrefl htrans hstep

omit hrefl in
theorem Run.rel_pre_last {tr : List (Entry σ α ρ)} {s : σ} (h : Run step init tr s) :
    ∀ e ∈ tr, R e.pre s := by
  induction h with
  | nil => simp
  | snoc hr hst ih =>
    intro e he
    have hlast := hstep _ _ _ _ _ hr hst
    rcases List.mem_append.1 he with he | he
    · exact htrans _ _ _ (ih e he) hlast
    · rw [List.mem_singleton] at he
      subst he
      exact hlast

theorem Run.rel_pre_total {tr : List (Entry σ α ρ)} {s : σ} (h : Run step init tr s) :
    ∀ e₁ ∈ tr, ∀ e₂ ∈ tr, R e₁.pre e₂.pre ∨ R e₂.pre e₁.pre := by
  induction h with
  | nil => simp
  | @snoc tr s s' a r hr hst ih =>
    have hlast := Run.rel_pre_last R htrans hstep hr
    intro e₁ he₁ e₂ he₂
    rcases List.mem_append.1 he₁ with he₁ | he₁ <;> rcases List.mem_append.1 he₂ with he₂ | he₂
    · exact ih e₁ he₁ e₂ he₂
    · rw [List.mem_singleton] at he₂
      subst he₂
      exact .inl (hlast e₁ he₁)
    · rw [List.mem_singleton] at he₁
      subst he₁
      exact .inr (hlast e₂ he₂)
    · rw [List.mem_singleton] at he₁ he₂
      subst he₁ he₂
      exact .inl (hrefl _)

theorem Run.rel_states_total {tr : List (Entry σ α ρ)} {s : σ} (h : Run step init tr s) :
    ∀ t ∈ states tr s, ∀ t' ∈ states tr s, R t t' ∨ R t' t := by
  have hlast := Run.rel_pre_last R htrans hstep h
  have htot := Run.rel_pre_total R hrefl htrans hstep h
  intro t ht t' ht'
  rcases List.mem_cons.1 ht with rfl | hm <;> rcases List.mem_cons.1 ht' with rfl | hm'
  · exact .inl (hrefl _)
  · obtain ⟨e', he', rfl⟩ := List.mem_map.1 hm'
    exact .inr (hlast e' he')
  · obtain ⟨e, he, rfl⟩ := List.mem_map.1 hm
    exact .inl (hlast e he)
  · obtain ⟨e, he, rfl⟩ := List.mem_map.1 hm
    obtain ⟨e', he', rfl⟩ := List.mem_map.1 hm'
    exact htot e he e' he'

end Rel

end Oak.Lib
