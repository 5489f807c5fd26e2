import Oak.Lib.Batch
import Mathlib.Data.Finset.Basic

/-! The handler of the Private Set Intersection example
(examples/private_set_intersection/handler_module/rust/src/lib.rs). Clients
submit sets under a set id; per id the handler keeps a running intersection,
the number of sets taken, and a lock that the first `get_intersection` sets.
The running intersection reads an empty set as "no set taken yet", so a set
taken after an empty one, or after an empty intersection, replaces it whole.

Over every sequence of requests the handler answers as the history of the
earlier requests and answers says (`handle_feed`): a set is taken while its
id is unlocked and fewer than `SET_THRESHOLD` sets were taken, and an
intersection is the running one of the sets taken. So over every run at most
`SET_THRESHOLD` sets are taken for an id, none after its intersection was
given, the intersection once given never changes, and where the first set
taken is not empty it is the values common to all the sets taken. -/

namespace Oak.Examples

open Oak.Lib

variable {α β : Type} [DecidableEq β]

/-- `SET_THRESHOLD`. -/
def setThreshold : ℕ := 2

/-- The gRPC status codes the handler returns. -/
inductive Code
  | failedPrecondition
  deriving DecidableEq

/-- What `grpc::build_status` builds. -/
structure Status where
  code : Code
  message : String
  deriving DecidableEq

/-- `SetIntersection`, the values of its `HashSet` as a finite set. -/
structure SetIntersection (α : Type) where
  values : Finset α
  setCount : ℕ
  locked : Bool
  deriving DecidableEq

/-- `SetIntersection::default()`. -/
def SetIntersection.default : SetIntersection α := ⟨∅, 0, false⟩

/-- `Handler`, its `HashMap` from set ids as a function. -/
structure Handler (α β : Type) where
  sets : β → Option (SetIntersection α)

/-- `Handler::default()`, which `create` returns. -/
def Handler.default : Handler α β := ⟨fun _ => none⟩

/-- The map with `set` under `setId`. -/
def Handler.insert (h : Handler α β) (setId : β) (set : SetIntersection α) : Handler α β :=
  ⟨Function.update h.sets setId (some set)⟩

@[simp] theorem Handler.sets_insert_self (h : Handler α β) (setId : β) (set : SetIntersection α) :
    (h.insert setId set).sets setId = some set := by
  simp [Handler.insert]

@[simp] theorem Handler.insert_insert (h : Handler α β) (setId : β) (set set' : SetIntersection α) :
    (h.insert setId set).insert setId set' = h.insert setId set' := by
  simp [Handler.insert]

@[simp] theorem Handler.sets_insert_ne (h : Handler α β) {setId setId' : β} (hne : setId' ≠ setId)
    (set : SetIntersection α) : (h.insert setId set).sets setId' = h.sets setId' := by
  simp [Handler.insert, hne]

variable [DecidableEq α]

/-- `Handler::submit_set`. -/
def Handler.submitSet (h : Handler α β) (setId : β) (values : List α) : Except Status Unit × Handler α β :=
  -- `entry(..).or_default()` leaves the entry in the map whatever follows
  let currentSet := (h.sets setId).getD .default
  let h := h.insert setId currentSet
  if currentSet.locked then
    (.error ⟨.failedPrecondition, "Set contributions are no longer available"⟩, h)
  else if currentSet.setCount < setThreshold then
    let submittedSet := values.toFinset
    let values := if currentSet.values = ∅ then submittedSet else currentSet.values ∩ submittedSet
    (.ok (), h.insert setId { currentSet with values, setCount := currentSet.setCount + 1 })
  else
    (.error ⟨.failedPrecondition, "Maximum number of contributed private sets is reached"⟩, h)

/-- `Handler::get_intersection`, the response's values as a set. -/
def Handler.getIntersection (h : Handler α β) (setId : β) : Except Status (Finset α) × Handler α β :=
  match h.sets setId with
  | some set => (.ok set.values, h.insert setId { set with locked := true })
  | none => (.error ⟨.failedPrecondition, "Incorrect set ID"⟩, h)

/-- A request of the `PrivateSetIntersection` service. -/
inductive Request (α β : Type)
  | submitSet (setId : β) (values : List α)
  | getIntersection (setId : β)

/-- A response of the `PrivateSetIntersection` service. -/
inductive Response (α : Type)
  | submitSet (result : Except Status Unit)
  | getIntersection (result : Except Status (Finset α))

/-- The dispatcher: one request to the handler. -/
def Handler.handle (h : Handler α β) : Request α β → Response α × Handler α β
  | .submitSet setId values => ((.submitSet (h.submitSet setId values).1), (h.submitSet setId values).2)
  | .getIntersection setId => ((.getIntersection (h.getIntersection setId).1), (h.getIntersection setId).2)

/-! ### The history an answer depends on -/

/-- The running intersection of `submit_set` over the sets taken, in order. -/
def runningIntersection (sets : List (Finset α)) : Finset α :=
  sets.foldl (fun acc submitted => if acc = ∅ then submitted else acc ∩ submitted) ∅

/-- The set a history entry adds to those taken for `setId`: that of a
`submit_set` for `setId` answered `Ok`. -/
def takenSet (setId : β) : Request α β × Response α → Option (Finset α)
  | (.submitSet s values, .submitSet (.ok ())) => if s = setId then some values.toFinset else none
  | _ => none

/-- Whether a history entry is a `get_intersection` for `setId` answered `Ok`. -/
def locksSet (setId : β) : Request α β × Response α → Bool
  | (.getIntersection s, .getIntersection (.ok _)) => decide (s = setId)
  | _ => false

/-- The sets taken for `setId` in a history, in order. -/
def accepted (setId : β) (hist : List (Request α β × Response α)) : List (Finset α) :=
  hist.filterMap (takenSet setId)

/-- Whether an intersection for `setId` was given in a history. -/
def locked (setId : β) (hist : List (Request α β × Response α)) : Bool :=
  hist.any (locksSet setId)

/-- The answer to `req` after the history `hist`. -/
def expected (hist : List (Request α β × Response α)) : Request α β → Response α
  | .submitSet setId _ =>
    .submitSet <|
      if locked setId hist then .error ⟨.failedPrecondition, "Set contributions are no longer available"⟩
      else if (accepted setId hist).length < setThreshold then .ok ()
      else .error ⟨.failedPrecondition, "Maximum number of contributed private sets is reached"⟩
  | .getIntersection setId =>
    .getIntersection <|
      if accepted setId hist = [] then .error ⟨.failedPrecondition, "Incorrect set ID"⟩
      else .ok (runningIntersection (accepted setId hist))

/-- The machine whose state is the history: it answers as `expected` and
records the request and its answer. -/
def expectedStep (hist : List (Request α β × Response α)) (req : Request α β) :
    Response α × List (Request α β × Response α) :=
  (expected hist req, hist ++ [(req, expected hist req)])

theorem runningIntersection_append (sets : List (Finset α)) (submitted : Finset α) :
    runningIntersection (sets ++ [submitted]) =
      if runningIntersection sets = ∅ then submitted else runningIntersection sets ∩ submitted := by
  rw [runningIntersection, List.foldl_append]
  rfl

theorem accepted_append (setId : β) (hist : List (Request α β × Response α)) (e : Request α β × Response α) :
    accepted setId (hist ++ [e]) = accepted setId hist ++ (takenSet setId e).toList := by
  rw [accepted, accepted, List.filterMap_append]
  simp only [List.filterMap_cons, List.filterMap_nil]
  cases takenSet setId e <;> rfl

omit [DecidableEq α] in
theorem locked_append (setId : β) (hist : List (Request α β × Response α)) (e : Request α β × Response α) :
    locked setId (hist ++ [e]) = (locked setId hist || locksSet setId e) := by
  simp [locked, List.any_append]

/-- The handler's state summarizes its history: an id has an entry once a set
was taken for it, holding the running intersection of the sets taken, their
number, and whether an intersection was given; and no id is locked before a
set was taken for it. -/
structure Summarizes (h : Handler α β) (hist : List (Request α β × Response α)) : Prop where
  sets_eq : ∀ setId, h.sets setId =
    if accepted setId hist = [] then none
    else some ⟨runningIntersection (accepted setId hist), (accepted setId hist).length, locked setId hist⟩
  unlocked : ∀ setId, accepted setId hist = [] → locked setId hist = false

theorem summarizes_default : Summarizes (Handler.default : Handler α β) [] where
  sets_eq _ := rfl
  unlocked _ _ := rfl

/-! ### One request -/

section Step

variable {h : Handler α β} {hist : List (Request α β × Response α)}

theorem Summarizes.getD (hs : Summarizes h hist) (setId : β) :
    (h.sets setId).getD .default =
      ⟨runningIntersection (accepted setId hist), (accepted setId hist).length, locked setId hist⟩ := by
  rw [hs.sets_eq setId]
  by_cases hA : accepted setId hist = []
  · rw [if_pos hA, Option.getD_none, hA, hs.unlocked setId hA]
    rfl
  · rw [if_neg hA, Option.getD_some]

theorem Summarizes.append_inert (hs : Summarizes h hist) {e : Request α β × Response α}
    (htaken : ∀ setId, takenSet setId e = none) (hlocks : ∀ setId, locksSet setId e = false) :
    Summarizes h (hist ++ [e]) where
  sets_eq setId := by
    rw [accepted_append, locked_append, htaken, hlocks, Option.toList_none, List.append_nil, Bool.or_false]
    exact hs.sets_eq setId
  unlocked setId := by
    rw [accepted_append, locked_append, htaken, hlocks, Option.toList_none, List.append_nil, Bool.or_false]
    exact hs.unlocked setId

theorem Summarizes.insert (hs : Summarizes h hist) {e : Request α β × Response α} {setId : β}
    (htaken : ∀ s, s ≠ setId → takenSet s e = none) (hlocks : ∀ s, s ≠ setId → locksSet s e = false)
    (hne : accepted setId (hist ++ [e]) ≠ []) :
    Summarizes (h.insert setId ⟨runningIntersection (accepted setId (hist ++ [e])),
      (accepted setId (hist ++ [e])).length, locked setId (hist ++ [e])⟩) (hist ++ [e]) where
  sets_eq s := by
    by_cases hs' : s = setId
    · subst hs'
      rw [Handler.sets_insert_self, if_neg hne]
    · rw [Handler.sets_insert_ne _ hs', accepted_append, locked_append, htaken s hs', hlocks s hs',
        Option.toList_none, List.append_nil, Bool.or_false]
      exact hs.sets_eq s
  unlocked s hA := by
    by_cases hs' : s = setId
    · subst hs'
      exact absurd hA hne
    · rw [accepted_append, htaken s hs', Option.toList_none, List.append_nil] at hA
      rw [locked_append, hlocks s hs', Bool.or_false]
      exact hs.unlocked s hA

theorem takenSet_submitSet_ne {s setId : β} (hs : s ≠ setId) (values : List α) (r : Except Status Unit) :
    takenSet s (.submitSet setId values, .submitSet r) = none := by
  cases r with
  | error _ => rfl
  | ok _ => simp [takenSet, Ne.symm hs]

theorem Summarizes.refuse (hs : Summarizes h hist) {setId : β} (hA : accepted setId hist ≠ []) (values : List α)
    (st : Status) :
    Summarizes (h.insert setId ⟨runningIntersection (accepted setId hist), (accepted setId hist).length,
      locked setId hist⟩) (hist ++ [(.submitSet setId values, .submitSet (.error st))]) := by
  have hi := hs.insert (e := (.submitSet setId values, .submitSet (.error st))) (fun _ _ => rfl) (fun _ _ => rfl)
    (by rw [accepted_append]; simpa [takenSet] using hA)
  simpa [accepted_append, locked_append, takenSet, locksSet] using hi

theorem Summarizes.submitSet (hs : Summarizes h hist) (setId : β) (values : List α) :
    (h.handle (.submitSet setId values)).1 = (expectedStep hist (.submitSet setId values)).1 ∧
      Summarizes (h.handle (.submitSet setId values)).2 (expectedStep hist (.submitSet setId values)).2 := by
  have hget := hs.getD setId
  simp only [Handler.handle, Handler.submitSet, expectedStep, expected, hget]
  by_cases hL : locked setId hist = true
  · -- a locked id: refused, and the entry is stored back unchanged
    have hA : accepted setId hist ≠ [] := fun hA => by rw [hs.unlocked setId hA] at hL; cases hL
    simp only [hL, if_true, true_and]
    simpa [hL] using hs.refuse hA values _
  · simp only [hL, Bool.false_eq_true, if_false]
    by_cases hlen : (accepted setId hist).length < setThreshold
    · -- taken: the running intersection takes the submitted set
      simp only [hlen, if_true, true_and]
      have hi := hs.insert (e := (.submitSet setId values, .submitSet (.ok ())))
        (fun s hs' => takenSet_submitSet_ne hs' values _) (fun _ _ => rfl)
        (by rw [accepted_append]; simp [takenSet])
      simpa [accepted_append, locked_append, takenSet, locksSet, runningIntersection_append, hL] using hi
    · -- refused: the threshold was reached
      have hA : accepted setId hist ≠ [] := fun hA => by rw [hA] at hlen; exact hlen (by rw [List.length_nil]; decide)
      simp only [hlen, if_false, true_and]
      simpa [hL] using hs.refuse hA values _

theorem Summarizes.getIntersection (hs : Summarizes h hist) (setId : β) :
    (h.handle (.getIntersection setId)).1 = (expectedStep hist (.getIntersection setId)).1 ∧
      Summarizes (h.handle (.getIntersection setId)).2 (expectedStep hist (.getIntersection setId)).2 := by
  simp only [Handler.handle, Handler.getIntersection, expectedStep, expected]
  by_cases hA : accepted setId hist = []
  · -- no set taken: no entry, and the answer changes nothing
    rw [hs.sets_eq setId, if_pos hA, if_pos hA]
    exact ⟨rfl, hs.append_inert (fun _ => rfl) (fun _ => rfl)⟩
  · rw [hs.sets_eq setId, if_neg hA, if_neg hA]
    refine ⟨rfl, ?_⟩
    have hi := hs.insert (e := (.getIntersection setId, .getIntersection (.ok (runningIntersection
      (accepted setId hist))))) (fun _ _ => rfl) (fun s (hs' : s ≠ setId) => by simp [locksSet, Ne.symm hs'])
      (by rw [accepted_append]; simpa [takenSet] using hA)
    simpa [accepted_append, locked_append, takenSet, locksSet] using hi

theorem Summarizes.handle (hs : Summarizes h hist) (req : Request α β) :
    (h.handle req).1 = (expectedStep hist req).1 ∧ Summarizes (h.handle req).2 (expectedStep hist req).2 := by
  cases req with
  | submitSet setId values => exact hs.submitSet setId values
  | getIntersection setId => exact hs.getIntersection setId

end Step

/-! ### Every sequence of requests -/

theorem handle_feed (reqs : List (Request α β)) :
    (feed Handler.handle Handler.default reqs).1 = (feed expectedStep [] reqs).1 := by
  have hsim := @feed_forall₂ (Handler α β) (List (Request α β × Response α)) (Request α β) (Response α)
    (Response α) Handler.handle expectedStep Summarizes Eq (fun _ _ req hs => hs.handle req) _ _ reqs
    summarizes_default
  exact List.forall₂_eq_eq_eq ▸ hsim.1

/-- The elements common to all the sets taken. -/
def commonValues : List (Finset α) → Finset α
  | [] => ∅
  | first :: rest => rest.foldl (· ∩ ·) first

/-- A client that submits an empty set first lets the next set through whole:
from a fresh handler, for every set id and every values, submitting no values,
then the values, then asking for the intersection answers with all the values,
though no element is common to the two sets taken. -/
theorem get_intersection_reveals_after_empty_set (setId : β) (values : List α) :
    (feed Handler.handle Handler.default
        [.submitSet setId [], .submitSet setId values, .getIntersection setId]).1 =
      [.submitSet (.ok ()), .submitSet (.ok ()), .getIntersection (.ok values.toFinset)] ∧
    commonValues [([] : List α).toFinset, values.toFinset] = ∅ := by
  refine ⟨?_, by simp [commonValues]⟩
  rw [handle_feed]
  simp [feed_cons, expectedStep, expected, accepted, locked, takenSet, locksSet, runningIntersection,
    setThreshold]

/-! ### Contributions, the lock, and the intersection given -/

theorem expectedStep_eq_recordStep :
    (expectedStep : List (Request α β × Response α) → Request α β → _) = recordStep expected := rfl

/-- The requests of a run from a fresh handler, each with its answer. -/
def history (reqs : List (Request α β)) : List (Request α β × Response α) :=
  reqs.zip (feed Handler.handle Handler.default reqs).1

section Run

variable {h : Handler α β} {hist : List (Request α β × Response α)} {setId : β}

theorem Summarizes.feed_handle (hs : Summarizes h hist) (reqs : List (Request α β)) :
    (feed Handler.handle h reqs).1 = (feed expectedStep hist reqs).1 ∧
      Summarizes (feed Handler.handle h reqs).2 (feed expectedStep hist reqs).2 := by
  obtain ⟨hq, hr⟩ := feed_forall₂ Summarizes Eq (fun _ _ req hs => hs.handle req) reqs hs
  exact ⟨List.forall₂_eq_eq_eq ▸ hq, hr⟩

theorem feed_expectedStep_nil (reqs : List (Request α β)) :
    (feed expectedStep [] reqs).2 = history reqs := by
  rw [history, handle_feed, expectedStep_eq_recordStep, feed_recordStep, List.nil_append]

theorem summarizes_history (reqs : List (Request α β)) :
    Summarizes (feed Handler.handle Handler.default reqs).2 (history reqs) :=
  feed_expectedStep_nil reqs ▸ (summarizes_default.feed_handle reqs).2

theorem takenSet_expected {req : Request α β} {v : Finset α}
    (h : takenSet setId (req, expected hist req) = some v) :
    locked setId hist = false ∧ (accepted setId hist).length < setThreshold := by
  cases req with
  | getIntersection s => simp [takenSet] at h
  | submitSet s values =>
    by_cases hs : s = setId
    · subst hs
      simp only [expected] at h
      split_ifs at h with hl hlen
      · simp [takenSet] at h
      · exact ⟨Bool.eq_false_iff.2 hl, hlen⟩
      · simp [takenSet] at h
    · rw [expected, takenSet_submitSet_ne (Ne.symm hs)] at h
      cases h

theorem length_accepted_feed_le (hh : (accepted setId hist).length ≤ setThreshold)
    (reqs : List (Request α β)) : (accepted setId (feed expectedStep hist reqs).2).length ≤ setThreshold := by
  apply feed_invariant (fun hist => (accepted setId hist).length ≤ setThreshold) _ reqs hh
  intro hist req hlen
  show (accepted setId (hist ++ [(req, expected hist req)])).length ≤ setThreshold
  rw [accepted_append]
  cases ht : takenSet setId (req, expected hist req) with
  | none => simpa using hlen
  | some v =>
    have hlt := (takenSet_expected ht).2
    rw [Option.toList_some, List.length_append, List.length_singleton]
    omega

theorem accepted_feed_of_locked (hl : locked setId hist = true) (reqs : List (Request α β)) :
    accepted setId (feed expectedStep hist reqs).2 = accepted setId hist := by
  -- the invariant: locked, with the sets taken before
  have hstep : ∀ h' req, (locked setId h' = true ∧ accepted setId h' = accepted setId hist) →
      locked setId (expectedStep h' req).2 = true ∧
        accepted setId (expectedStep h' req).2 = accepted setId hist := by
    rintro h' req ⟨hl', ha⟩
    have hnone : takenSet setId (req, expected h' req) = none := by
      cases ht : takenSet setId (req, expected h' req) with
      | none => rfl
      | some v =>
        rw [(takenSet_expected ht).1] at hl'
        cases hl'
    simp only [expectedStep]
    rw [locked_append, accepted_append, hl', hnone, Option.toList_none, List.append_nil]
    exact ⟨rfl, ha⟩
  exact (feed_invariant _ hstep reqs ⟨hl, rfl⟩).2

theorem runningIntersection_eq_commonValues {sets : List (Finset α)} (hlen : sets.length ≤ setThreshold)
    (hfirst : sets.head? ≠ some ∅) : runningIntersection sets = commonValues sets := by
  cases sets with
  | nil => rfl
  | cons a rest =>
    have ha : a ≠ ∅ := fun h => hfirst (by rw [h]; rfl)
    -- at most one set follows the first, and it meets a non-empty running intersection
    cases rest with
    | nil => simp [runningIntersection, commonValues]
    | cons b rest =>
      have hrest : rest = [] := by
        simp only [List.length_cons, setThreshold] at hlen
        exact List.eq_nil_of_length_eq_zero (by omega)
      subst hrest
      simp [runningIntersection, commonValues, ha]

end Run

/-- At most `SET_THRESHOLD` sets are taken for an id, over every sequence of requests. -/
theorem submit_set_takes_at_most_threshold (reqs : List (Request α β)) (setId : β) :
    (accepted setId (history reqs)).length ≤ setThreshold := by
  rw [← feed_expectedStep_nil]
  exact length_accepted_feed_le (by simp [accepted, setThreshold]) reqs

/-- After a prefix of requests in which an intersection for `setId` was given,
no later `submit_set` for `setId` is taken. -/
theorem submit_set_refused_once_locked (pre post : List (Request α β)) (setId : β)
    (hlock : locked setId (history pre) = true) :
    accepted setId (post.zip (feed Handler.handle (feed Handler.handle Handler.default pre).2 post).1) = [] := by
  obtain ⟨hreplies, -⟩ := (summarizes_history pre).feed_handle post
  have hrun := accepted_feed_of_locked hlock post
  rw [expectedStep_eq_recordStep, feed_recordStep, ← expectedStep_eq_recordStep] at hrun
  rw [hreplies]
  simpa only [accepted, List.filterMap_append, List.append_right_eq_self] using hrun

theorem submit_set_refused_after_get_intersection :
    locked 0 (history ([.submitSet 0 [1], .getIntersection 0] : List (Request ℕ ℕ))) = true ∧
      accepted 0 ([.submitSet 0 [2]].zip (feed Handler.handle (feed Handler.handle Handler.default
        ([.submitSet 0 [1], .getIntersection 0] : List (Request ℕ ℕ))).2 [.submitSet 0 [2]]).1) = [] :=
  ⟨by decide, submit_set_refused_once_locked _ _ 0 (by decide)⟩

/-- Where the first set taken for an id is not empty, the handler gives as the
intersection exactly the values common to all the sets taken. -/
theorem get_intersection_common_values (reqs : List (Request α β)) (setId : β)
    (hfirst : (accepted setId (history reqs)).head? ≠ some ∅) :
    ((feed Handler.handle Handler.default reqs).2.handle (.getIntersection setId)).1 =
      .getIntersection (if accepted setId (history reqs) = [] then
          .error ⟨.failedPrecondition, "Incorrect set ID"⟩
        else .ok (commonValues (accepted setId (history reqs)))) := by
  have hlen : (accepted setId (history reqs)).length ≤ setThreshold := by
    rw [← feed_expectedStep_nil]
    exact length_accepted_feed_le (by simp [accepted, setThreshold]) reqs
  rw [((summarizes_history reqs).handle _).1]
  show expected _ (.getIntersection setId) = _
  rw [expected, runningIntersection_eq_commonValues hlen hfirst]

theorem get_intersection_common_values_of_two_sets :
    (accepted 0 (history ([.submitSet 0 [1, 2], .submitSet 0 [2, 3]] : List (Request ℕ ℕ)))).head? ≠
        some ∅ ∧
      ((feed Handler.handle Handler.default
          ([.submitSet 0 [1, 2], .submitSet 0 [2, 3]] : List (Request ℕ ℕ))).2.handle (.getIntersection 0)).1 =
        .getIntersection (if accepted 0 (history ([.submitSet 0 [1, 2], .submitSet 0 [2, 3]] : List (Request ℕ ℕ))) = [] then
            .error ⟨.failedPrecondition, "Incorrect set ID"⟩
          else .ok (commonValues (accepted 0 (history
            ([.submitSet 0 [1, 2], .submitSet 0 [2, 3]] : List (Request ℕ ℕ)))))) :=
  ⟨by decide, get_intersection_common_values _ 0 (by decide)⟩

/-- The intersection, once given for an id, is final: asked again after any
further requests, the handler gives the same values. -/
theorem get_intersection_final (pre post : List (Request α β)) (setId : β) (v : Finset α)
    (hv : ((feed Handler.handle Handler.default pre).2.handle (.getIntersection setId)).1 =
      .getIntersection (.ok v)) :
    ((feed Handler.handle Handler.default (pre ++ .getIntersection setId :: post)).2.handle
      (.getIntersection setId)).1 = .getIntersection (.ok v) := by
  obtain ⟨hans, hs₁⟩ := (summarizes_history pre).handle (.getIntersection setId)
  rw [hans] at hv
  -- the first answer was given, so sets were taken
  have hA : accepted setId (history pre) ≠ [] := by
    intro hA
    simp [expectedStep, expected, hA] at hv
  have hv' : runningIntersection (accepted setId (history pre)) = v := by
    simpa [expectedStep, expected, hA] using hv
  -- the answer locked the id and took no set, so later requests take none either
  have hkeep : accepted setId (expectedStep (history pre) (.getIntersection setId)).2 =
      accepted setId (history pre) := by
    simp [expectedStep, accepted_append, takenSet]
  have hlocked : locked setId (expectedStep (history pre) (.getIntersection setId)).2 = true := by
    simp [expectedStep, locked_append, expected, hA, locksSet]
  have hsame := accepted_feed_of_locked hlocked post
  rw [feed_append, feed_cons, ((hs₁.feed_handle post).2.handle _).1]
  show expected _ (.getIntersection setId) = _
  rw [expected, hsame, hkeep, if_neg hA, hv']

theorem get_intersection_final_after_one_set :
    ((feed Handler.handle Handler.default ([.submitSet 0 [1]] : List (Request ℕ ℕ))).2.handle
        (.getIntersection 0)).1 = .getIntersection (.ok [1].toFinset) ∧
      ((feed Handler.handle Handler.default
          ([.submitSet 0 [1]] ++ .getIntersection 0 :: [.submitSet 0 [2]] : List (Request ℕ ℕ))).2.handle
        (.getIntersection 0)).1 = .getIntersection (.ok [1].toFinset) :=
  ⟨by rfl, get_intersection_final _ _ 0 _ (by rfl)⟩

end Oak.Examples
