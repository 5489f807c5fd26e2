import Oak.Lib.Batch
import Oak.Lib.Collect

/-! The Aggregator example (examples/aggregator). Clients submit samples, each a
bucket and a sparse vector; the handler keeps a `ThresholdAggregator` per bucket
and reports the aggregate of a bucket to the backend once the bucket holds
`SAMPLE_THRESHOLD` samples, after which the bucket takes no more. The values of
a sparse vector are of a type `V` with the zero and the addition of `f32`; no
law of that arithmetic is assumed.

Each bucket behaves as an aggregator of its own fed the valid samples for it
(`reportsFor_feed`), so over every sequence of samples a bucket is reported at
most once, with the aggregate of exactly its first `SAMPLE_THRESHOLD` valid
samples; and an aggregate holds at each index the sum of the values there. -/

namespace Oak.Examples.Aggregator

open Oak.Lib

/-- `aggregator_common::Monoid`: an identity and a `combine`; the trait states no law. -/
class Monoid (T : Type) where
  identity : T
  combine : T → T → T

/-- `AggregatorResult`. -/
inductive AggregatorResult (T : Type) where
  | belowThreshold
  | exhausted
  | aggregatedValue (value : T)

/-- The aggregate an answer reveals, if any. -/
def AggregatorResult.value? {T : Type} : AggregatorResult T → Option T
  | .aggregatedValue v => some v
  | _ => none

/-- `ThresholdAggregator`. Its `u64` count stops at the threshold, or at one,
so it is a natural number here. -/
structure ThresholdAggregator (T : Type) where
  currentValue : T
  sampleCount : ℕ
  sampleThreshold : ℕ
  exhausted : Bool

section Threshold

variable {T : Type} [Monoid T]

/-- `ThresholdAggregator::new`. -/
def ThresholdAggregator.new (threshold : ℕ) : ThresholdAggregator T :=
  ⟨Monoid.identity, 0, threshold, false⟩

/-- `ThresholdAggregator::submit`. -/
def ThresholdAggregator.submit (a : ThresholdAggregator T) (sample : T) :
    AggregatorResult T × ThresholdAggregator T :=
  if a.exhausted then (.exhausted, a)
  else
    let currentValue := Monoid.combine a.currentValue sample
    let sampleCount := a.sampleCount + 1
    if sampleCount ≥ a.sampleThreshold then
      -- exhausted, so that no later sample is revealed
      (.aggregatedValue currentValue, ⟨currentValue, sampleCount, a.sampleThreshold, true⟩)
    else (.belowThreshold, ⟨currentValue, sampleCount, a.sampleThreshold, false⟩)

theorem submit_of_exhausted {a : ThresholdAggregator T} (ha : a.exhausted = true) (x : T) :
    a.submit x = (.exhausted, a) := by
  rw [ThresholdAggregator.submit, if_pos ha]

theorem submit_below {v : T} {c k : ℕ} (h : c + 1 < k) (x : T) :
    (⟨v, c, k, false⟩ : ThresholdAggregator T).submit x =
      (.belowThreshold, ⟨Monoid.combine v x, c + 1, k, false⟩) := by
  simp only [ThresholdAggregator.submit, Bool.false_eq_true, if_false, ge_iff_le]
  rw [if_neg (Nat.not_le.2 h)]

theorem submit_release {v : T} {c k : ℕ} (h : k ≤ c + 1) (x : T) :
    (⟨v, c, k, false⟩ : ThresholdAggregator T).submit x =
      (.aggregatedValue (Monoid.combine v x), ⟨Monoid.combine v x, c + 1, k, true⟩) := by
  simp only [ThresholdAggregator.submit, Bool.false_eq_true, if_false, ge_iff_le]
  rw [if_pos h]

omit [Monoid T] in
theorem filterMap_value?_replicate_below (n : ℕ) :
    (List.replicate n (.belowThreshold : AggregatorResult T)).filterMap AggregatorResult.value? = [] :=
  List.filterMap_eq_nil_iff.2 fun _ ha => by rw [(List.mem_replicate.1 ha).2]; rfl

omit [Monoid T] in
theorem filterMap_value?_replicate_exhausted (n : ℕ) :
    (List.replicate n (.exhausted : AggregatorResult T)).filterMap AggregatorResult.value? = [] :=
  List.filterMap_eq_nil_iff.2 fun _ ha => by rw [(List.mem_replicate.1 ha).2]; rfl

theorem feed_submit_of_exhausted {a : ThresholdAggregator T} (ha : a.exhausted = true) (xs : List T) :
    feed ThresholdAggregator.submit a xs = (List.replicate xs.length .exhausted, a) := by
  induction xs with
  | nil => rfl
  | cons x xs ih =>
    rw [feed_cons, submit_of_exhausted ha, ih]
    rfl

theorem feed_submit_below {v : T} {c k : ℕ} {xs : List T} (h : c + xs.length < k) :
    feed ThresholdAggregator.submit ⟨v, c, k, false⟩ xs =
      (List.replicate xs.length .belowThreshold, ⟨xs.foldl Monoid.combine v, c + xs.length, k, false⟩) := by
  induction xs generalizing v c with
  | nil => rfl
  | cons x xs ih =>
    rw [List.length_cons] at h
    rw [feed_cons, submit_below (by omega), ih (by omega), List.length_cons, List.foldl_cons,
      show c + 1 + xs.length = c + (xs.length + 1) by omega]
    rfl

theorem feed_submit_new_release (k : ℕ) (pre : List T) (x : T) (post : List T)
    (h : pre.length + 1 = max k 1) :
    (feed ThresholdAggregator.submit (ThresholdAggregator.new k) (pre ++ x :: post)).1 =
      List.replicate pre.length .belowThreshold ++
        .aggregatedValue ((pre ++ [x]).foldl Monoid.combine Monoid.identity) ::
          List.replicate post.length .exhausted := by
  have hk : k ≤ max k 1 := le_max_left k 1
  have hpre : feed ThresholdAggregator.submit (ThresholdAggregator.new k) pre =
      (List.replicate pre.length .belowThreshold, ⟨pre.foldl Monoid.combine Monoid.identity, pre.length, k, false⟩) := by
    cases pre with
    | nil => rfl
    | cons y ys =>
      have hlt : 0 + (y :: ys).length < k := by
        rw [List.length_cons] at h ⊢
        omega
      rw [ThresholdAggregator.new, feed_submit_below hlt, Nat.zero_add]
  rw [feed_append, hpre, feed_cons, submit_release (by omega), feed_submit_of_exhausted rfl,
    List.foldl_append, List.foldl_cons, List.foldl_nil]

/-- Over every sequence of samples, a fresh aggregator with threshold `k`
answers below the threshold up to its `max k 1`-th sample, which gets the
aggregate of the samples so far, and is exhausted from then on. -/
theorem feed_submit_new (k : ℕ) (xs : List T) :
    (feed ThresholdAggregator.submit (ThresholdAggregator.new k) xs).1 =
      if xs.length < max k 1 then List.replicate xs.length .belowThreshold
      else List.replicate (max k 1 - 1) .belowThreshold ++
        .aggregatedValue ((xs.take (max k 1)).foldl Monoid.combine Monoid.identity) ::
          List.replicate (xs.length - max k 1) .exhausted := by
  have hm1 : 1 ≤ max k 1 := le_max_right k 1
  split_ifs with hlt
  · cases xs with
    | nil => rfl
    | cons x xs =>
      -- a nonempty list below `max k 1` is below `k`
      have hlt' : 0 + (x :: xs).length < k := by
        rw [List.length_cons] at hlt ⊢
        omega
      exact congrArg Prod.fst (feed_submit_below hlt')
  · -- the list is the samples before the `max k 1`-th, that one, and the rest
    have hi : max k 1 - 1 < xs.length := by omega
    have hsplit : xs = xs.take (max k 1 - 1) ++ xs[max k 1 - 1] :: xs.drop (max k 1 - 1 + 1) := by
      rw [← List.drop_eq_getElem_cons hi, List.take_append_drop]
    have hpre : (xs.take (max k 1 - 1)).length + 1 = max k 1 := by
      rw [List.length_take]
      omega
    have htake : xs.take (max k 1 - 1) ++ [xs[max k 1 - 1]] = xs.take (max k 1) := by
      rw [← List.take_succ_eq_append_getElem hi, Nat.sub_add_cancel hm1]
    conv_lhs => rw [hsplit]
    rw [feed_submit_new_release k _ _ _ hpre, htake, List.length_take, List.length_drop,
      Nat.sub_add_cancel hm1, min_eq_left (by omega)]

end Threshold

/-! ### Sparse vectors -/

/-- `SparseVector`, its `HashMap<u32, f32>` as an association list. -/
structure SparseVector (V : Type) where
  entries : AList (fun _ : UInt32 => V)

/-- `SerializedSparseVector`, the protobuf message. -/
structure SerializedSparseVector (V : Type) where
  indices : List UInt32
  values : List V

section Sparse

variable {V : Type}

/-- `Monoid::identity` of `SparseVector`: the empty vector. -/
def SparseVector.identity : SparseVector V := ⟨∅⟩

/-- `TryFrom<&SerializedSparseVector> for SparseVector`. -/
def SparseVector.tryFrom (src : SerializedSparseVector V) : Except String (SparseVector V) :=
  if src.indices.length = src.values.length then
    -- `try_fold` from the identity, each index inserted through `entry`
    SparseVector.mk <$> (src.indices.zip src.values).foldlM
      (insertFresh fun i => s!"Duplicated index: {i}") SparseVector.identity.entries
  else
    let indicesLength := src.indices.length
    let valuesLength := src.values.length
    .error s!"Indices and values have different lengths: {indicesLength} and {valuesLength}"

/-- `From<SparseVector> for SerializedSparseVector`: the indices and the values
in the order of the map. -/
def SerializedSparseVector.ofSparseVector (src : SparseVector V) : SerializedSparseVector V :=
  src.entries.entries.foldl (fun vec e => ⟨vec.indices ++ [e.1], vec.values ++ [e.2]⟩) ⟨[], []⟩

theorem foldl_push (l : List (Sigma fun _ : UInt32 => V)) (indices : List UInt32) (values : List V) :
    l.foldl (fun (vec : SerializedSparseVector V) e => ⟨vec.indices ++ [e.1], vec.values ++ [e.2]⟩)
        ⟨indices, values⟩ = ⟨indices ++ l.map (·.1), values ++ l.map (·.2)⟩ := by
  induction l generalizing indices values with
  | nil => simp
  | cons e l ih => simp [ih]

theorem ofSparseVector_eq (src : SparseVector V) :
    SerializedSparseVector.ofSparseVector src =
      ⟨src.entries.entries.map (·.1), src.entries.entries.map (·.2)⟩ := by
  rw [SerializedSparseVector.ofSparseVector, foldl_push, List.nil_append, List.nil_append]

theorem tryFrom_eq_ok {src : SerializedSparseVector V} {w : SparseVector V}
    (h : SparseVector.tryFrom src = .ok w) :
    src.indices.length = src.values.length ∧
      (src.indices.zip src.values).foldlM (insertFresh fun i => s!"Duplicated index: {i}") ∅ = .ok w.entries := by
  unfold SparseVector.tryFrom at h
  split at h
  · next hlen =>
    refine ⟨hlen, ?_⟩
    cases hf : (src.indices.zip src.values).foldlM (insertFresh fun i => s!"Duplicated index: {i}")
        (∅ : AList (fun _ : UInt32 => V)) with
    | error e =>
      rw [SparseVector.identity, hf] at h
      cases h
    | ok m =>
      rw [SparseVector.identity, hf] at h
      cases h
      rfl
  · cases h

/-- A serialized vector deserializes exactly when it has as many indices as
values and no index twice; the vector then holds at each index the value the
message pairs with it. -/
theorem try_from_accepts (src : SerializedSparseVector V) :
    ((∃ w, SparseVector.tryFrom src = .ok w) ↔
        src.indices.length = src.values.length ∧ src.indices.Nodup) ∧
      ∀ w, SparseVector.tryFrom src = .ok w →
        ∀ i v, w.entries.lookup i = some v ↔ (i, v) ∈ src.indices.zip src.values := by
  refine ⟨⟨?_, ?_⟩, ?_⟩
  · rintro ⟨w, hw⟩
    obtain ⟨hlen, hf⟩ := tryFrom_eq_ok hw
    obtain ⟨hnd, -⟩ := (foldlM_insertFresh_ok_iff _).1 ⟨_, hf⟩
    rw [List.map_fst_zip (Nat.le_of_eq hlen)] at hnd
    exact ⟨hlen, hnd⟩
  · rintro ⟨hlen, hnd⟩
    -- every index is new to the empty map, and none repeats
    have hok := (foldlM_insertFresh_ok_iff (l := src.indices.zip src.values) (m := ∅)
      fun i : UInt32 => s!"Duplicated index: {i}").2
      ⟨by rwa [List.map_fst_zip (Nat.le_of_eq hlen)], fun p _ => AList.notMem_empty p.1⟩
    obtain ⟨m, hm⟩ := hok
    refine ⟨⟨m⟩, ?_⟩
    rw [SparseVector.tryFrom, if_pos hlen, SparseVector.identity, hm]
    rfl
  · intro w hw i v
    obtain ⟨-, hf⟩ := tryFrom_eq_ok hw
    rw [lookup_foldlM_insertFresh _ hf, AList.lookup_empty]
    simp

/-- A vector serialized and deserialized again holds the same value at every index. -/
theorem sparse_vector_round_trip (v : SparseVector V) :
    ∃ w, SparseVector.tryFrom (SerializedSparseVector.ofSparseVector v) = .ok w ∧
      ∀ i, w.entries.lookup i = v.entries.lookup i := by
  have hzip : ((v.entries.entries.map (·.1)).zip (v.entries.entries.map (·.2))) =
      v.entries.entries.map fun e => (e.1, e.2) := by
    exact List.zip_map'
  have hnd : (v.entries.entries.map (·.1)).Nodup := v.entries.nodupKeys
  obtain ⟨m, hm⟩ := (foldlM_insertFresh_ok_iff (l := v.entries.entries.map fun e => (e.1, e.2)) (m := ∅)
    fun i : UInt32 => s!"Duplicated index: {i}").2
    ⟨by rwa [List.map_map], fun p _ => AList.notMem_empty p.1⟩
  refine ⟨⟨m⟩, ?_, fun i => ?_⟩
  · rw [SparseVector.tryFrom, ofSparseVector_eq, if_pos (by simp), SparseVector.identity]
    dsimp only
    rw [hzip, hm]
    rfl
  · -- the entries read back are the pairs of the map
    apply Option.ext
    intro x
    rw [lookup_foldlM_insertFresh _ hm, AList.lookup_empty]
    simp only [reduceCtorEq, false_or, List.mem_map]
    rw [← Option.mem_def, AList.mem_lookup_iff]
    constructor
    · rintro ⟨⟨j, y⟩, he, heq⟩
      obtain ⟨rfl, rfl⟩ := Prod.mk.inj heq
      exact he
    · intro he
      exact ⟨_, he, rfl⟩

variable [Zero V] [Add V]

/-- `Monoid::combine` of `SparseVector`: the other vector's values added into
a copy of this one, index by index. -/
def SparseVector.combine (self other : SparseVector V) : SparseVector V :=
  ⟨other.entries.entries.foldl (fun svec e => addEntry svec e.1 e.2) self.entries⟩

instance : Monoid (SparseVector V) := ⟨SparseVector.identity, SparseVector.combine⟩

theorem lookup_combine (a b : SparseVector V) (i : UInt32) :
    (a.combine b).entries.lookup i =
      match b.entries.lookup i with
      | some v => some ((a.entries.lookup i).getD 0 + v)
      | none => a.entries.lookup i :=
  lookup_foldl_addEntry b.entries.nodupKeys a.entries i

theorem lookup_foldl_combine (svecs : List (SparseVector V)) (acc : SparseVector V) (i : UInt32) :
    (svecs.foldl SparseVector.combine acc).entries.lookup i =
      if acc.entries.lookup i = none ∧ svecs.filterMap (fun s => s.entries.lookup i) = [] then none
      else some ((svecs.filterMap fun s => s.entries.lookup i).foldl (· + ·) ((acc.entries.lookup i).getD 0)) := by
  induction svecs generalizing acc with
  | nil =>
    cases h : acc.entries.lookup i <;> simp [h]
  | cons s svecs ih =>
    rw [List.foldl_cons, ih, lookup_combine]
    cases hs : s.entries.lookup i with
    | none => simp [hs]
    | some v =>
      -- this vector has the index, so the aggregate has it from here on
      simp [hs]

/-- The aggregate of a list of vectors holds, at each index some of them has,
the sum from zero of their values there in order; and no other index. -/
theorem aggregate_sums_values (svecs : List (SparseVector V)) (i : UInt32) :
    (svecs.foldl SparseVector.combine SparseVector.identity).entries.lookup i =
      if svecs.filterMap (fun s => s.entries.lookup i) = [] then none
      else some ((svecs.filterMap fun s => s.entries.lookup i).foldl (· + ·) 0) := by
  rw [lookup_foldl_combine, SparseVector.identity, AList.lookup_empty]
  simp

end Sparse

/-! ### The handler -/

/-- `SAMPLE_THRESHOLD`. -/
def sampleThreshold : ℕ := 5

/-- The gRPC status codes the handler returns. -/
inductive Code
  | invalidArgument
  deriving DecidableEq

/-- What `grpc::build_status` builds. -/
structure Status where
  code : Code
  message : String
  deriving DecidableEq

/-- `Sample`: a bucket, and the data where the message has it. -/
structure Sample (V : Type) where
  bucket : String
  data : Option (SerializedSparseVector V)

/-- `Handler`: the aggregators by bucket. The backend client is modelled by
the samples it is sent. -/
structure Handler (V : Type) where
  aggregators : String → Option (ThresholdAggregator (SparseVector V))

section Handler

variable {V : Type}

/-- `Handler::new`. -/
def Handler.new : Handler V := ⟨fun _ => none⟩

/-- The sample `report` sends to the backend. -/
def reportSample (bucket : String) (svec : SparseVector V) : Sample V :=
  ⟨bucket, some (SerializedSparseVector.ofSparseVector svec)⟩

/-- The vector of a sample for `bucket` that deserializes. -/
def validFor (bucket : String) (sample : Sample V) : Option (SparseVector V) :=
  if sample.bucket = bucket then sample.data.bind fun d => (SparseVector.tryFrom d).toOption else none

/-- The valid samples for `bucket`, in order. -/
def acceptedFor (bucket : String) (samples : List (Sample V)) : List (SparseVector V) :=
  samples.filterMap (validFor bucket)

/-- The samples reported to the backend for `bucket`, in order. -/
def reportsFor (bucket : String) (outs : List (Except Status Unit × Option (Sample V))) : List (Sample V) :=
  outs.filterMap fun o => o.2.filter fun r => r.bucket == bucket

theorem filter_reportSample (b b' : String) (o : Option (SparseVector V)) :
    (o.map (reportSample b)).filter (fun r => r.bucket == b') = if b = b' then o.map (reportSample b) else none := by
  cases o with
  | none => split <;> rfl
  | some w => by_cases hb : b = b' <;> simp [reportSample, hb]

theorem acceptedFor_cons (bucket : String) (s : Sample V) (samples : List (Sample V)) :
    acceptedFor bucket (s :: samples) = (validFor bucket s).toList ++ acceptedFor bucket samples := by
  rw [acceptedFor, acceptedFor, List.filterMap_cons]
  cases validFor bucket s <;> rfl

variable [Zero V] [Add V]

/-- The aggregator of a bucket, a fresh one where the map has none. -/
def Handler.aggregatorOf (h : Handler V) (bucket : String) : ThresholdAggregator (SparseVector V) :=
  (h.aggregators bucket).getD (ThresholdAggregator.new sampleThreshold)

/-- `Handler::submit`: the answer, the sample reported to the backend if any,
and the handler. -/
def Handler.submit (h : Handler V) (bucket : String) (svec : SparseVector V) :
    (Except String Unit × Option (Sample V)) × Handler V :=
  -- `or_insert_with` a fresh aggregator; the map keeps what `submit` leaves
  let (result, aggregator) := (h.aggregatorOf bucket).submit svec
  let h : Handler V := ⟨Function.update h.aggregators bucket (some aggregator)⟩
  match result with
  | .belowThreshold => ((.ok (), none), h)
  | .exhausted => ((.error s!"Exhausted bucket: {bucket}", none), h)
  | .aggregatedValue aggregatedData =>
    -- the report's own errors are logged, not returned
    ((.ok (), some (reportSample bucket aggregatedData)), h)

/-- `Aggregator::submit_sample` of `Handler`. -/
def Handler.submitSample (h : Handler V) (sample : Sample V) :
    (Except Status Unit × Option (Sample V)) × Handler V :=
  match sample.data with
  | none => ((.error ⟨.invalidArgument, "No data specified"⟩, none), h)
  | some data =>
    match SparseVector.tryFrom data with
    | .error err => ((.error ⟨.invalidArgument, s!"Data deserialization error: {err}"⟩, none), h)
    | .ok svec =>
      match h.submit sample.bucket svec with
      | ((.ok (), report), h) => ((.ok (), report), h)
      | ((.error err, report), h) => ((.error ⟨.invalidArgument, s!"Submit sample error: {err}"⟩, report), h)

theorem Handler.submit_report (h : Handler V) (bucket : String) (svec : SparseVector V) :
    (h.submit bucket svec).1.2 = ((h.aggregatorOf bucket).submit svec).1.value?.map (reportSample bucket) := by
  unfold Handler.submit
  cases (h.aggregatorOf bucket).submit svec with
  | mk result a =>
    cases result <;> rfl

theorem Handler.aggregatorOf_submit (h : Handler V) (bucket : String) (svec : SparseVector V) (b : String) :
    (h.submit bucket svec).2.aggregatorOf b =
      if b = bucket then ((h.aggregatorOf bucket).submit svec).2 else h.aggregatorOf b := by
  have hupd : ∀ a : ThresholdAggregator (SparseVector V),
      (⟨Function.update h.aggregators bucket (some a)⟩ : Handler V).aggregatorOf b =
        if b = bucket then a else h.aggregatorOf b := by
    intro a
    by_cases hb : b = bucket
    · subst hb
      simp [Handler.aggregatorOf]
    · simp [Handler.aggregatorOf, hb]
  unfold Handler.submit
  cases (h.aggregatorOf bucket).submit svec with
  | mk result a =>
    cases result <;> exact hupd a

theorem Handler.submitSample_of_invalid (h : Handler V) {sample : Sample V}
    (hs : sample.data.bind (fun d => (SparseVector.tryFrom d).toOption) = none) :
    (h.submitSample sample).1.2 = none ∧ (h.submitSample sample).2 = h := by
  cases hd : sample.data with
  | none => simp [Handler.submitSample, hd]
  | some d =>
    rw [hd, Option.bind_some] at hs
    cases ht : SparseVector.tryFrom d with
    | error e => simp [Handler.submitSample, hd, ht]
    | ok w =>
      rw [ht] at hs
      cases hs

theorem Handler.submitSample_of_valid (h : Handler V) {sample : Sample V} {svec : SparseVector V}
    (hs : sample.data.bind (fun d => (SparseVector.tryFrom d).toOption) = some svec) :
    (h.submitSample sample).1.2 = (h.submit sample.bucket svec).1.2 ∧
      (h.submitSample sample).2 = (h.submit sample.bucket svec).2 := by
  obtain ⟨d, hd, ht⟩ := Option.bind_eq_some_iff.1 hs
  have ht' : SparseVector.tryFrom d = .ok svec := by
    cases htr : SparseVector.tryFrom d with
    | error e =>
      rw [htr] at ht
      cases ht
    | ok w =>
      rw [htr] at ht
      cases ht
      rfl
  unfold Handler.submitSample
  rw [hd]
  dsimp only
  rw [ht']
  dsimp only
  split <;> simp_all

theorem Handler.submitSample_bucket (h : Handler V) (sample : Sample V) (bucket : String) :
    ((h.submitSample sample).1.2.filter fun r => r.bucket == bucket) =
        ((validFor bucket sample).bind fun v =>
          ((h.aggregatorOf bucket).submit v).1.value?.map (reportSample bucket)) ∧
      (h.submitSample sample).2.aggregatorOf bucket =
        ((validFor bucket sample).elim (h.aggregatorOf bucket) fun v => ((h.aggregatorOf bucket).submit v).2) := by
  cases hs : sample.data.bind (fun d => (SparseVector.tryFrom d).toOption) with
  | none =>
    obtain ⟨hr, hh⟩ := h.submitSample_of_invalid hs
    have hv : validFor bucket sample = none := by
      unfold validFor
      split <;> simp [hs]
    rw [hr, hh, hv]
    exact ⟨rfl, rfl⟩
  | some svec =>
    obtain ⟨hr, hh⟩ := h.submitSample_of_valid hs
    rw [hr, hh, Handler.submit_report, Handler.aggregatorOf_submit]
    by_cases hb : sample.bucket = bucket
    · -- the sample's own bucket
      have hv : validFor bucket sample = some svec := by
        rw [validFor, if_pos hb, hs]
      subst hb
      rw [hv, if_pos rfl, filter_reportSample, if_pos rfl]
      exact ⟨rfl, rfl⟩
    · -- another bucket: its report, if any, is not for this one
      have hv : validFor bucket sample = none := by
        rw [validFor, if_neg hb]
      rw [hv, if_neg (Ne.symm hb), filter_reportSample, if_neg hb]
      exact ⟨rfl, rfl⟩

theorem reportsFor_feed (h : Handler V) (samples : List (Sample V)) (bucket : String) :
    reportsFor bucket (feed Handler.submitSample h samples).1 =
        ((feed ThresholdAggregator.submit (h.aggregatorOf bucket) (acceptedFor bucket samples)).1.filterMap
          AggregatorResult.value?).map (reportSample bucket) := by
  induction samples generalizing h with
  | nil => rfl
  | cons s samples ih =>
    obtain ⟨hr, hh⟩ := h.submitSample_bucket s bucket
    rw [feed_cons, reportsFor, List.filterMap_cons, ← reportsFor, hr, ih, hh, acceptedFor_cons]
    cases hv : validFor bucket s with
    | none => rfl
    | some v =>
      -- the sample goes to the bucket's aggregator, which answers it first
      rw [Option.toList_some, List.singleton_append, feed_cons, List.filterMap_cons]
      simp only [Option.bind_some, Option.elim_some]
      cases ((h.aggregatorOf bucket).submit v).1.value? <;> rfl

/-- The Aggregator's k-anonymity: over every sequence of samples, a bucket is
reported to the backend at most once, only after `SAMPLE_THRESHOLD` valid
samples were submitted for it, and with the aggregate of exactly the first
`SAMPLE_THRESHOLD` of them. -/
theorem reports_aggregate_threshold_samples (samples : List (Sample V)) (bucket : String) :
    reportsFor bucket (feed Handler.submitSample Handler.new samples).1 =
      if (acceptedFor bucket samples).length < sampleThreshold then []
      else [reportSample bucket (((acceptedFor bucket samples).take sampleThreshold).foldl
        SparseVector.combine SparseVector.identity)] := by
  have hm : max sampleThreshold 1 = sampleThreshold := rfl
  rw [reportsFor_feed]
  have hfresh : (Handler.new : Handler V).aggregatorOf bucket = ThresholdAggregator.new sampleThreshold := rfl
  rw [hfresh, feed_submit_new, hm]
  split_ifs
  · rw [filterMap_value?_replicate_below]
    rfl
  · rw [List.filterMap_append, filterMap_value?_replicate_below, List.filterMap_cons,
      filterMap_value?_replicate_exhausted]
    rfl

end Handler

end Oak.Examples.Aggregator
