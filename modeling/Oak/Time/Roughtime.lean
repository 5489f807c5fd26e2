import Oak.Lib.Overlap

/-! The Roughtime client of the Runtime. Each server's verified answer is a
midpoint and a radius; the client turns it into an interval, looks for the
overlap of `min_overlapping_intervals` of the intervals, and returns the
midpoint of that overlap. Times are `u64` microseconds since the epoch, and
`find_overlap` only compares them. It tries only the lower end of each interval
as the common point, and that is enough. The midpoint is an `u64` sum halved,
and the sum can overflow. -/

namespace Oak.Time

open Oak.Lib

/-- `u64::MAX`. -/
def u64Max : ℕ := 2 ^ 64 - 1

/-- `Interval`, in microseconds since the epoch. An interval whose `min`
exceeds its `max` holds no point. -/
structure Interval where
  min : ℕ
  max : ℕ
  min_le : min ≤ u64Max
  max_le : max ≤ u64Max
  deriving DecidableEq

/-- `RoughtimeError`, with the variants the modelled functions return. -/
inductive RoughtimeError where
  | notEnoughOverlappingIntervals (actual expected : ℕ)
  | midPointTooSmall
  | radiusTooLarge
  | invalidSignature
  deriving DecidableEq, Repr

/-- The settings of `RoughtimeClient` the modelled functions read. -/
structure RoughtimeClient where
  minOverlappingIntervals : ℕ
  maxRadiusMicroseconds : ℕ

/-- `RoughtimeClient::default`, with `DEFAULT_MIN_OVERLAPPING_INTERVALS` and
`DEFAULT_MAX_RADIUS_MICROSECONDS`. -/
def RoughtimeClient.default : RoughtimeClient := ⟨3, 60_000_000⟩

/-- The bounds `find_overlap` starts a candidate from: `0` and `u64::MAX`. -/
def Interval.unbounded : Interval := ⟨0, u64Max, Nat.zero_le _, le_rfl⟩

/-- One step of the inner loop of `find_overlap`: the running bounds move in to
those of `test`. -/
def Interval.narrow (acc test : Interval) : Interval where
  min := if test.min > acc.min then test.min else acc.min
  max := if test.max < acc.max then test.max else acc.max
  min_le := by
    split
    · exact test.min_le
    · exact acc.min_le
  max_le := by
    split
    · exact test.max_le
    · exact acc.max_le

/-- The inner loop of `find_overlap` for the candidate `point`, from `count`
intervals found so far and the running bounds `acc`: the overlap once the count
reaches `k`, and otherwise the count. -/
def countOverlaps (k point : ℕ) : ℕ → Interval → List Interval → Interval ⊕ ℕ
  | count, _, [] => .inr count
  | count, acc, test :: tests =>
    if point ≥ test.min ∧ point ≤ test.max then
      if count + 1 = k then .inl (acc.narrow test)
      else countOverlaps k point (count + 1) (acc.narrow test) tests
    else countOverlaps k point count acc tests

/-- The outer loop of `find_overlap` over the candidates `cands`, each tried
with its lower end, keeping the greatest count in `maxCount`. -/
def findOverlapLoop (k : ℕ) (intervals : List Interval) : ℕ → List Interval → Except RoughtimeError Interval
  | maxCount, [] => .error (.notEnoughOverlappingIntervals maxCount k)
  | maxCount, interval :: cands =>
    match countOverlaps k interval.min 0 Interval.unbounded intervals with
    | .inl overlap => .ok overlap
    | .inr count => findOverlapLoop k intervals (if count > maxCount then count else maxCount) cands

/-- `RoughtimeClient::find_overlap`. -/
def RoughtimeClient.findOverlap (c : RoughtimeClient) (intervals : List Interval) :
    Except RoughtimeError Interval :=
  findOverlapLoop c.minOverlappingIntervals intervals 0 intervals

/-! ### The search -/

/-- How many intervals of `l` hold `x`. -/
abbrev Interval.depth (l : List Interval) (x : ℕ) : ℕ := Oak.Lib.depth Interval.min Interval.max l x

/-- The intervals of `l` that hold `p`. -/
def holding (l : List Interval) (p : ℕ) : List Interval := l.filter fun t => decide (t.min ≤ p ∧ p ≤ t.max)

theorem length_holding (l : List Interval) (p : ℕ) : (holding l p).length = Interval.depth l p :=
  (List.countP_eq_length_filter ..).symm

/-- The overlap `find_overlap` returns for the point `p`: the bounds narrowed by
the first `k` intervals that hold `p`. -/
def overlapAt (k : ℕ) (l : List Interval) (p : ℕ) : Interval :=
  ((holding l p).take k).foldl Interval.narrow Interval.unbounded

theorem countOverlaps_eq {k point count : ℕ} (hc : count < k) (acc : Interval) (tests : List Interval) :
    countOverlaps k point count acc tests =
      if count + Interval.depth tests point < k then .inr (count + Interval.depth tests point)
      else .inl (((holding tests point).take (k - count)).foldl Interval.narrow acc) := by
  induction tests generalizing count acc with
  | nil => simp [countOverlaps, Interval.depth, depth, hc]
  | cons test tests ih =>
    by_cases hcov : test.min ≤ point ∧ point ≤ test.max
    · have hdepth : Interval.depth (test :: tests) point = Interval.depth tests point + 1 := by
        simp [Interval.depth, depth, hcov]
      have hhold : holding (test :: tests) point = test :: holding tests point := by
        simp [holding, hcov]
      have hk : k - count = k - (count + 1) + 1 := by omega
      rw [countOverlaps, if_pos hcov, hdepth, hhold, hk, List.take_succ_cons, List.foldl_cons]
      by_cases hlast : count + 1 = k
      · -- the count reaches `k` on this interval
        rw [if_pos hlast, if_neg (by omega), show k - (count + 1) = 0 by omega, List.take_zero, List.foldl_nil]
      · rw [if_neg hlast, ih (by omega), show count + 1 + Interval.depth tests point =
          count + (Interval.depth tests point + 1) by omega]
    · have hdepth : Interval.depth (test :: tests) point = Interval.depth tests point := by
        simp [Interval.depth, depth, hcov]
      have hhold : holding (test :: tests) point = holding tests point := by
        simp [holding, hcov]
      rw [countOverlaps, if_neg hcov, hdepth, hhold, ih hc]

theorem findOverlapLoop_eq {k : ℕ} (hk : 0 < k) (l : List Interval) (m : ℕ) (cands : List Interval) :
    findOverlapLoop k l m cands =
      match cands.find? (fun c => decide (k ≤ Interval.depth l c.min)) with
      | some c => .ok (overlapAt k l c.min)
      | none => .error (.notEnoughOverlappingIntervals ((cands.map fun c => Interval.depth l c.min).foldl max m) k) := by
  induction cands generalizing m with
  | nil => rfl
  | cons c cands ih =>
    rw [findOverlapLoop, countOverlaps_eq hk, Nat.zero_add, Nat.sub_zero]
    by_cases hc : k ≤ Interval.depth l c.min
    · have hfind : (c :: cands).find? (fun c => decide (k ≤ Interval.depth l c.min)) = some c :=
        List.find?_cons_of_pos (by simpa using hc)
      rw [if_neg (by omega), hfind]
      rfl
    · have hfind : (c :: cands).find? (fun c => decide (k ≤ Interval.depth l c.min)) =
          cands.find? (fun c => decide (k ≤ Interval.depth l c.min)) :=
        List.find?_cons_of_neg (by simpa using hc)
      rw [if_pos (by omega), hfind]
      dsimp only
      rw [ih, List.map_cons, List.foldl_cons,
        show (if Interval.depth l c.min > m then Interval.depth l c.min else m) = max m (Interval.depth l c.min) by
          split <;> omega]

/-! ### The overlap -/

theorem Interval.narrow_holds {acc test : Interval} {x : ℕ} :
    ((acc.narrow test).min ≤ x ∧ x ≤ (acc.narrow test).max) ↔
      (acc.min ≤ x ∧ x ≤ acc.max) ∧ test.min ≤ x ∧ x ≤ test.max := by
  simp only [Interval.narrow]
  split <;> split <;> omega

theorem foldl_narrow_holds (sub : List Interval) (acc : Interval) (x : ℕ) :
    ((sub.foldl Interval.narrow acc).min ≤ x ∧ x ≤ (sub.foldl Interval.narrow acc).max) ↔
      (acc.min ≤ x ∧ x ≤ acc.max) ∧ ∀ j ∈ sub, j.min ≤ x ∧ x ≤ j.max := by
  induction sub generalizing acc with
  | nil => simp
  | cons t sub ih => rw [List.foldl_cons, ih, Interval.narrow_holds, List.forall_mem_cons, and_assoc]

theorem le_foldl_narrow_min (sub : List Interval) (acc : Interval) :
    ∀ j ∈ acc :: sub, j.min ≤ (sub.foldl Interval.narrow acc).min := by
  induction sub generalizing acc with
  | nil => simp
  | cons t sub ih =>
    have hnarrow : acc.min ≤ (acc.narrow t).min ∧ t.min ≤ (acc.narrow t).min := by
      simp only [Interval.narrow]
      split <;> omega
    intro j hj
    rw [List.foldl_cons]
    rcases List.mem_cons.1 hj with rfl | hj
    · exact hnarrow.1.trans (ih _ _ (List.mem_cons_self ..))
    · rcases List.mem_cons.1 hj with rfl | hj
      · exact hnarrow.2.trans (ih _ _ (List.mem_cons_self ..))
      · exact ih _ j (List.mem_cons_of_mem _ hj)

theorem overlapAt_spec {k : ℕ} (hk : 0 < k) {l : List Interval} {p : ℕ}
    (hdepth : k ≤ Interval.depth l p) :
    (overlapAt k l p).min ≤ (overlapAt k l p).max ∧ ∃ sub : List Interval, sub.Sublist l ∧ sub.length = k ∧
      (∀ x, ((overlapAt k l p).min ≤ x ∧ x ≤ (overlapAt k l p).max) ↔ ∀ j ∈ sub, j.min ≤ x ∧ x ≤ j.max) ∧
      ∀ j ∈ sub, j.min ≤ (overlapAt k l p).min ∧ (overlapAt k l p).min ≤ j.max := by
  set sub := (holding l p).take k
  have hlen : sub.length = k := by
    rw [List.length_take, length_holding]
    omega
  have hhold : ∀ j ∈ sub, j.min ≤ p ∧ p ≤ j.max := by
    intro j hj
    simpa [holding] using (List.mem_filter.1 (List.mem_of_mem_take hj)).2
  -- every point the intervals all hold is below `u64::MAX`, as the first of them is
  have hcap : ∀ x, (∀ j ∈ sub, j.min ≤ x ∧ x ≤ j.max) → x ≤ u64Max := by
    intro x hx
    obtain ⟨j, hj⟩ := List.exists_mem_of_length_pos (by omega : 0 < sub.length)
    exact (hx j hj).2.trans j.max_le
  have hinter : ∀ x, ((overlapAt k l p).min ≤ x ∧ x ≤ (overlapAt k l p).max) ↔ ∀ j ∈ sub, j.min ≤ x ∧ x ≤ j.max := by
    intro x
    rw [overlapAt, foldl_narrow_holds]
    exact ⟨fun h => h.2, fun h => ⟨⟨Nat.zero_le x, hcap x h⟩, h⟩⟩
  have hpI := (hinter p).2 hhold
  refine ⟨hpI.1.trans hpI.2, sub, (List.take_sublist _ _).trans List.filter_sublist, hlen, hinter, ?_⟩
  intro j hj
  exact ⟨le_foldl_narrow_min sub _ j (List.mem_cons_of_mem _ hj), hpI.1.trans (hhold j hj).2⟩

theorem isGreatest_foldl_max (l : List Interval) :
    IsGreatest (Set.range (Interval.depth l)) ((l.map fun c => Interval.depth l c.min).foldl max 0) := by
  cases hl : l.map (fun c => Interval.depth l c.min) with
  | nil =>
    rw [List.map_eq_nil_iff] at hl
    subst hl
    refine ⟨⟨0, rfl⟩, ?_⟩
    rintro d ⟨x, rfl⟩
    rfl
  | cons d ds =>
    obtain ⟨M, hM⟩ := Option.isSome_iff_exists.1 (List.isSome_max?_of_mem (List.mem_cons_self (a := d) (l := ds)))
    obtain ⟨hmem, hle⟩ := List.max?_eq_some_iff.1 hM
    rw [List.foldl_max, hM, Option.getD_some, Nat.zero_max]
    rw [← hl] at hmem hle
    obtain ⟨i, -, rfl⟩ := List.mem_map.1 hmem
    exact isGreatest_depth Interval.min Interval.max fun j hj => hle _ (List.mem_map_of_mem hj)

theorem depth_eq_zero {l : List Interval} (h : ∀ i ∈ l, i.max < i.min) (x : ℕ) : Interval.depth l x = 0 := by
  rw [Interval.depth, depth, List.countP_eq_zero]
  intro i hi
  have := h i hi
  simp only [decide_eq_true_eq]
  omega

/-- What `find_overlap` answers for `intervals`, with `k` intervals to
overlap: an overlap exactly when some point lies in `k` of them, and then the
intersection of `k` of them, each holding its lower end; otherwise how many
intervals the deepest point lies in. -/
structure FindsOverlap (k : ℕ) (intervals : List Interval) (r : Except RoughtimeError Interval) : Prop where
  ok_iff : (∃ I, r = .ok I) ↔ ∃ x, k ≤ Interval.depth intervals x
  ok : ∀ I, r = .ok I → I.min ≤ I.max ∧ ∃ sub : List Interval, sub.Sublist intervals ∧ sub.length = k ∧
    (∀ x, (I.min ≤ x ∧ x ≤ I.max) ↔ ∀ j ∈ sub, j.min ≤ x ∧ x ≤ j.max) ∧
    ∀ j ∈ sub, j.min ≤ I.min ∧ I.min ≤ j.max
  error : ∀ e, r = .error e → ∃ actual, e = .notEnoughOverlappingIntervals actual k ∧
    IsGreatest (Set.range (Interval.depth intervals)) actual ∧ ((∀ i ∈ intervals, i.max < i.min) → actual = 0)

/-- For every list of intervals and every `k ≥ 1`, `find_overlap` answers as
`FindsOverlap` says. -/
theorem find_overlap_sound_complete (c : RoughtimeClient) (hk : 0 < c.minOverlappingIntervals)
    (intervals : List Interval) : FindsOverlap c.minOverlappingIntervals intervals (c.findOverlap intervals) := by
  set k := c.minOverlappingIntervals
  have heq := findOverlapLoop_eq hk intervals 0 intervals
  rw [← RoughtimeClient.findOverlap] at heq
  cases hfind : intervals.find? (fun c => decide (k ≤ Interval.depth intervals c.min)) with
  | some i =>
    have hi : k ≤ Interval.depth intervals i.min := by simpa using List.find?_some hfind
    rw [hfind] at heq
    refine ⟨⟨fun _ => ⟨i.min, hi⟩, fun _ => ⟨_, heq⟩⟩, ?_, ?_⟩
    · intro I hI
      rw [heq, Except.ok.injEq] at hI
      subst hI
      exact overlapAt_spec hk hi
    · intro e he
      rw [heq] at he
      cases he
  | none =>
    -- no lower end lies in `k` intervals, so no point does
    have hlow : ∀ i ∈ intervals, Interval.depth intervals i.min < k := by
      intro i hi
      simpa using List.find?_eq_none.1 hfind i hi
    rw [hfind] at heq
    refine ⟨⟨?_, ?_⟩, ?_, ?_⟩
    · rintro ⟨I, hI⟩
      rw [heq] at hI
      cases hI
    · rintro ⟨x, hx⟩
      obtain ⟨i, hil, -, -, hle⟩ := exists_lo_depth_ge Interval.min Interval.max (show 0 < Interval.depth intervals x by omega)
      exact absurd (hx.trans hle) (Nat.not_le.2 (hlow i hil))
    · intro I hI
      rw [heq] at hI
      cases hI
    · intro e he
      rw [heq, Except.error.injEq] at he
      subst he
      have hg := isGreatest_foldl_max intervals
      refine ⟨_, rfl, hg, fun hinv => ?_⟩
      obtain ⟨x, hx⟩ := hg.1
      rw [← hx, depth_eq_zero hinv]

/-- Three of four servers agree on `[18, 20]`, and the default client finds it. -/
theorem find_overlap_sound_complete_default :
    0 < RoughtimeClient.default.minOverlappingIntervals ∧
      RoughtimeClient.default.findOverlap
          [⟨10, 20, by decide, by decide⟩, ⟨15, 25, by decide, by decide⟩, ⟨18, 30, by decide, by decide⟩,
            ⟨40, 50, by decide, by decide⟩] = .ok ⟨18, 20, by decide, by decide⟩ ∧
      FindsOverlap 3
        [⟨10, 20, by decide, by decide⟩, ⟨15, 25, by decide, by decide⟩, ⟨18, 30, by decide, by decide⟩,
          ⟨40, 50, by decide, by decide⟩]
        (RoughtimeClient.default.findOverlap
          [⟨10, 20, by decide, by decide⟩, ⟨15, 25, by decide, by decide⟩, ⟨18, 30, by decide, by decide⟩,
            ⟨40, 50, by decide, by decide⟩]) :=
  ⟨by decide, by decide, find_overlap_sound_complete RoughtimeClient.default (by decide) _⟩

/-! ### The servers' answers, and the midpoint -/

/-- The fields of `ParsedResponse` the client reads: whether the signature
verified, the `u64` midpoint and the `u32` radius. -/
structure ParsedResponse where
  verified : Bool
  midpoint : ℕ
  radius : ℕ
  midpoint_le : midpoint ≤ u64Max

/-- The checks at the end of `get_roughtime_from_server`, and the interval it
makes. -/
def RoughtimeClient.intervalOf (c : RoughtimeClient) (r : ParsedResponse) : Except RoughtimeError Interval :=
  if r.verified then
    if r.radius ≤ c.maxRadiusMicroseconds then
      if r.midpoint > r.radius then
        -- `saturating_sub` is the truncated difference, `saturating_add` stops at `u64::MAX`
        .ok ⟨r.midpoint - r.radius, min (r.midpoint + r.radius) u64Max, (Nat.sub_le _ _).trans r.midpoint_le,
          min_le_right _ _⟩
      else .error .midPointTooSmall
    else .error .radiusTooLarge
  else .error .invalidSignature

/-- `get_intervals_from_all_servers`: the intervals of the servers that answered. -/
def getIntervals (answers : List (Except RoughtimeError Interval)) : List Interval :=
  answers.filterMap Except.toOption

/-- `RoughtimeClient::get_roughtime`, once each server answered or failed: the
midpoint of the overlap, as an `u64` sum halved, the sum wrapping in a release
build. -/
def RoughtimeClient.getRoughtime (c : RoughtimeClient) (answers : List (Except RoughtimeError Interval)) :
    Except RoughtimeError ℕ := do
  let result ← c.findOverlap (getIntervals answers)
  pure ((result.min + result.max) % 2 ^ 64 / 2)

theorem findOverlap_eq_ok {c : RoughtimeClient} (hk : 0 < c.minOverlappingIntervals) {l : List Interval}
    {I : Interval} (h : c.findOverlap l = .ok I) :
    ∃ i ∈ l, c.minOverlappingIntervals ≤ Interval.depth l i.min ∧ I = overlapAt c.minOverlappingIntervals l i.min := by
  rw [RoughtimeClient.findOverlap, findOverlapLoop_eq hk] at h
  split at h
  · next i hfind =>
    rw [Except.ok.injEq] at h
    exact ⟨i, List.mem_of_find?_eq_some hfind, by simpa using List.find?_some hfind, h.symm⟩
  · cases h

theorem getRoughtime_mem {c : RoughtimeClient} (hk : 0 < c.minOverlappingIntervals)
    {answers : List (Except RoughtimeError Interval)} {I : Interval}
    (h : c.findOverlap (getIntervals answers) = .ok I) (hsum : I.min + I.max < 2 ^ 64) :
    ∃ t, c.getRoughtime answers = .ok t ∧ I.min ≤ t ∧ t ≤ I.max := by
  obtain ⟨i, -, hi, hI⟩ := findOverlap_eq_ok hk h
  have hle : I.min ≤ I.max := by
    rw [hI]
    exact (overlapAt_spec hk hi).1
  refine ⟨(I.min + I.max) % 2 ^ 64 / 2, ?_, ?_⟩
  · rw [RoughtimeClient.getRoughtime, h]
    rfl
  · rw [Nat.mod_eq_of_lt hsum]
    omega

/-- The Roughtime guarantee: when every interval ends below 2⁶³ and fewer than
`min_overlapping_intervals` of them miss the true time `T`, the time
`get_roughtime` returns lies in an interval that holds `T`. -/
theorem get_roughtime_within_honest_interval {c : RoughtimeClient} (hk : 0 < c.minOverlappingIntervals)
    {answers : List (Except RoughtimeError Interval)} {T t : ℕ}
    (hmax : ∀ i ∈ getIntervals answers, i.max < 2 ^ 63)
    (hmiss : (getIntervals answers).length - Interval.depth (getIntervals answers) T < c.minOverlappingIntervals)
    (h : c.getRoughtime answers = .ok t) :
    ∃ i ∈ getIntervals answers, (i.min ≤ T ∧ T ≤ i.max) ∧ i.min ≤ t ∧ t ≤ i.max := by
  obtain ⟨I, hI⟩ : ∃ I, c.findOverlap (getIntervals answers) = .ok I := by
    cases hf : c.findOverlap (getIntervals answers) with
    | ok I => exact ⟨I, rfl⟩
    | error e =>
      rw [RoughtimeClient.getRoughtime, hf] at h
      cases h
  -- the overlap is the intersection of `k` of the intervals, and one of them holds `T`
  obtain ⟨i, -, hi, hIeq⟩ := findOverlap_eq_ok hk hI
  have hspec := overlapAt_spec hk hi
  rw [← hIeq] at hspec
  obtain ⟨hle, sub, hsub, hlen, hinter, -⟩ := hspec
  obtain ⟨j, hj, hjT⟩ := exists_mem_holds_of_sublist Interval.min Interval.max hsub (hlen ▸ hmiss)
  -- so the overlap ends below 2⁶³, and its midpoint does not wrap
  have hIj : I.max ≤ j.max := ((hinter I.max).1 ⟨hle, le_rfl⟩ j hj).2
  have hjmax := hmax j (hsub.subset hj)
  obtain ⟨t', ht', hmin, hmax'⟩ := getRoughtime_mem hk hI (by omega)
  rw [h, Except.ok.injEq] at ht'
  subst ht'
  exact ⟨j, hsub.subset hj, hjT, (hinter t).1 ⟨hmin, hmax'⟩ j hj⟩

theorem get_roughtime_within_honest_interval_three :
    ∃ i ∈ getIntervals (List.replicate 3 (.ok ⟨10, 20, by decide, by decide⟩)),
      (i.min ≤ 15 ∧ 15 ≤ i.max) ∧ i.min ≤ 15 ∧ 15 ≤ i.max :=
  get_roughtime_within_honest_interval (c := RoughtimeClient.default) (by decide) (by decide) (by decide) rfl

/-- Three servers answer with a verified midpoint of `u64::MAX` and a radius of
one microsecond, which `get_roughtime_from_server` accepts. The overlap is
`[u64::MAX - 1, u64::MAX]`; the sum of its ends passes `u64::MAX`, and the
midpoint comes out far below the overlap. -/
theorem get_roughtime_midpoint_overflows :
    ∃ I, RoughtimeClient.default.intervalOf ⟨true, u64Max, 1, le_rfl⟩ = .ok I ∧
      RoughtimeClient.default.findOverlap [I, I, I] = .ok I ∧ u64Max < I.min + I.max ∧
      RoughtimeClient.default.getRoughtime (List.replicate 3 (RoughtimeClient.default.intervalOf ⟨true, u64Max, 1, le_rfl⟩)) =
        .ok (2 ^ 63 - 2) ∧ 2 ^ 63 - 2 < I.min :=
  ⟨_, rfl, rfl, by decide, rfl, by decide⟩

end Oak.Time
