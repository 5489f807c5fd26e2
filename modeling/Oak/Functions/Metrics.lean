import Oak.Lib.Batch
import Oak.Lib.Fallible
import Oak.Lib.Wrapping
import Mathlib.Algebra.Order.Group.Abs
import Mathlib.Algebra.Order.Ring.Cast
import Mathlib.Algebra.Order.Ring.Rat

/-! Differentially private metrics (oak_functions/loader/src/metrics.rs). Each
request reports values under labels; the aggregator adds each configured
bucket's clamped value, and after `batch_size` requests releases every
bucket's sum with Laplace noise and starts the next batch.

The `i64` arithmetic is a release build's: it wraps. An `f64` is a rational
here: the sign check on `epsilon` is the same for finite values, and the
noise, which is all the other floats feed, is an arbitrary function of the
random generator's state.

The aggregator is a batcher: it releases each batch of `batch_size`
requests on its last request, with each bucket's sum of the batch's clamped
values. Those sums are the integer sums, and one request moves each of them
by at most the bucket's range, only while the sums do not wrap: `validate`
does not bound the range, and a wide bucket wraps. -/

namespace Oak.Functions

open Oak.Lib

/-- `BucketConfig`. -/
inductive BucketConfig
  | count
  | sum (min max : Int64)
  deriving DecidableEq

/-- `PrivateMetricsConfig`, with its buckets in the map's iteration order. -/
structure PrivateMetricsConfig where
  epsilon : ℚ
  batchSize : ℕ
  buckets : List (String × BucketConfig)

/-- The check `validate` makes of one bucket. -/
def BucketConfig.validate (label : String) : BucketConfig → Except String Unit
  | .count => pure ()
  | .sum min max => if max > min then pure () else throw ("Max must be bigger than min for bucket " ++ label)

/-- `PrivateMetricsConfig::validate`. -/
def PrivateMetricsConfig.validate (c : PrivateMetricsConfig) : Except String Unit := do
  if ¬c.epsilon > 0 then throw "Epsilon must be positive"
  c.buckets.forM fun (label, bucketConfig) => bucketConfig.validate label

/-- `Ord::clamp` on `i64`; its assertion `min ≤ max` holds for the buckets of a
validated configuration. -/
def clamp (input min max : Int64) : Int64 :=
  if input < min then min else if input > max then max else input

/-- The value `Bucket::add` adds for an input. -/
def BucketConfig.clampInput : BucketConfig → Int64 → Int64
  | .count, input => clamp input 0 1
  | .sum min max, input => clamp input min max

/-- `Bucket`. -/
structure Bucket where
  config : BucketConfig
  value : Int64

/-- `Bucket::add`. -/
def Bucket.add (b : Bucket) (input : Int64) : Bucket :=
  { b with value := b.value + b.config.clampInput input }

/-- A request's data, `HashMap<String, i64>`. -/
abbrev MetricsData := String → Option Int64

/-- `PrivateMetricsAggregator`, with the state of its random generator. -/
structure PrivateMetricsAggregator (R : Type) where
  count : ℕ
  epsilon : ℚ
  batchSize : ℕ
  buckets : List (String × Bucket)
  rng : R

variable {R : Type}

/-- `PrivateMetricsAggregator::new_with_rng`. -/
def PrivateMetricsAggregator.newWithRng (config : PrivateMetricsConfig) (rng : R) :
    Except String (PrivateMetricsAggregator R) :=
  if config.epsilon > 0 then
    .ok ⟨0, config.epsilon, config.batchSize,
      config.buckets.map fun (label, bucketConfig) => (label, ⟨bucketConfig, 0⟩), rng⟩
  else .error "Epsilon must be positive."

/-- `add_laplace_noise`: `noise` draws the rounded, scaled Laplace sample from
the generator. -/
def addLaplaceNoise (noise : R → ℚ → ℚ → Int64 × R) (rng : R) (beta : ℚ) (value : Int64) (scale : ℚ) :
    Int64 × R :=
  let (n, rng) := noise rng beta scale
  (value + n, rng)

/-- The `scale` of `report_metrics`: `(max - min) as f64` for a sum. -/
def BucketConfig.scale : BucketConfig → ℚ
  | .count => 1
  | .sum min max => ((max - min).toInt : ℚ)

/-- The metrics `report_metrics` collects, one noisy value per bucket, drawing
from the generator in the buckets' order. -/
def noisyMetrics (noise : R → ℚ → ℚ → Int64 × R) (beta : ℚ) :
    List (String × Bucket) → R → List (String × Int64) × R
  | [], rng => ([], rng)
  | (label, bucket) :: buckets, rng =>
    let (value, rng) := addLaplaceNoise noise rng beta bucket.value bucket.config.scale
    let (metrics, rng) := noisyMetrics noise beta buckets rng
    ((label, value) :: metrics, rng)

/-- `PrivateMetricsAggregator::reset`. -/
def PrivateMetricsAggregator.reset (a : PrivateMetricsAggregator R) : PrivateMetricsAggregator R :=
  { a with count := 0, buckets := a.buckets.map fun (label, bucket) => (label, { bucket with value := 0 }) }

/-- `PrivateMetricsAggregator::report_metrics`. -/
def PrivateMetricsAggregator.reportMetrics (noise : R → ℚ → ℚ → Int64 × R) (a : PrivateMetricsAggregator R)
    (data : MetricsData) : Option (ℕ × List (String × Int64)) × PrivateMetricsAggregator R :=
  let a := { a with
    count := a.count + 1,
    buckets := a.buckets.map fun (label, bucket) => (label, bucket.add ((data label).getD 0)) }
  if a.count = a.batchSize then
    let beta := (a.buckets.length : ℚ) / a.epsilon
    let (metrics, rng) := noisyMetrics noise beta a.buckets a.rng
    (some (a.batchSize, metrics), { a with rng }.reset)
  else (none, a)

/-- `PrivateMetricsProxy`: the data of one request. -/
structure PrivateMetricsProxy where
  data : MetricsData

/-- `PrivateMetricsProxy::new`. -/
def PrivateMetricsProxy.new : PrivateMetricsProxy := ⟨fun _ => none⟩

/-- `PrivateMetricsProxy::report_metric`: a later value for a label replaces
the earlier one. -/
def PrivateMetricsProxy.reportMetric (p : PrivateMetricsProxy) (label : String) (value : Int64) :
    PrivateMetricsProxy :=
  ⟨fun l => if l = label then some value else p.data l⟩

/-- `PrivateMetricsProxy::publish`. -/
def PrivateMetricsProxy.publish (noise : R → ℚ → ℚ → Int64 × R) (p : PrivateMetricsProxy)
    (a : PrivateMetricsAggregator R) : Option (ℕ × List (String × Int64)) × PrivateMetricsAggregator R :=
  a.reportMetrics noise p.data

/-! ### Validation and clamping -/

/-- A bucket `validate` accepts. -/
def BucketConfig.Valid : BucketConfig → Prop
  | .count => True
  | .sum min max => min < max

theorem BucketConfig.validate_eq_ok {c : BucketConfig} {label : String} :
    c.validate label = .ok () ↔ c.Valid := by
  cases c with
  | count => simp [BucketConfig.validate, BucketConfig.Valid, pure, Except.pure]
  | sum min max =>
    simp only [BucketConfig.validate, BucketConfig.Valid, gt_iff_lt]
    split <;> simp_all [pure, Except.pure, throw, throwThe, MonadExceptOf.throw]

theorem PrivateMetricsConfig.validate_eq_ok {c : PrivateMetricsConfig} :
    c.validate = .ok () ↔ 0 < c.epsilon ∧ ∀ lc ∈ c.buckets, lc.2.Valid := by
  unfold PrivateMetricsConfig.validate
  by_cases he : c.epsilon > 0
  · simp [he, Except.forM_eq_ok, BucketConfig.validate_eq_ok]
  · simp [he, throw, throwThe, MonadExceptOf.throw]

theorem clamp_toInt_mem {min max : Int64} (h : min ≤ max) (input : Int64) :
    min.toInt ≤ (clamp input min max).toInt ∧ (clamp input min max).toInt ≤ max.toInt := by
  rw [Int64.le_iff_toInt_le] at h
  unfold clamp
  split_ifs with hlo hhi
  · omega
  · omega
  · rw [gt_iff_lt, Int64.lt_iff_toInt_lt] at hhi
    rw [Int64.lt_iff_toInt_lt] at hlo
    omega

/-- The lowest and the highest value a bucket adds. -/
def BucketConfig.lo : BucketConfig → Int64
  | .count => 0
  | .sum min _ => min

def BucketConfig.hi : BucketConfig → Int64
  | .count => 1
  | .sum _ max => max

theorem BucketConfig.clampInput_mem {c : BucketConfig} (hv : c.Valid) (input : Int64) :
    c.lo.toInt ≤ (c.clampInput input).toInt ∧ (c.clampInput input).toInt ≤ c.hi.toInt := by
  cases c with
  | count => exact clamp_toInt_mem (by decide) input
  | sum min max => exact clamp_toInt_mem (Int64.le_of_lt hv) input

/-! ### The aggregator is a batcher -/

/-- The value a bucket of configuration `c` holds after the requests `batch`:
each request's value for the label, `0` when it has none, clamped, summed. -/
def batchSum (c : BucketConfig) (label : String) (batch : List MetricsData) : Int64 :=
  (batch.map fun d => c.clampInput ((d label).getD 0)).foldl (· + ·) 0

theorem batchSum_nil (c : BucketConfig) (label : String) : batchSum c label [] = 0 := rfl

theorem batchSum_append_singleton (c : BucketConfig) (label : String) (batch : List MetricsData)
    (d : MetricsData) :
    batchSum c label (batch ++ [d]) = batchSum c label batch + c.clampInput ((d label).getD 0) := by
  simp [batchSum, List.foldl_append]

/-- What a release holds: for each configured bucket, in order, its label and
its sum over the batch plus the noise drawn at some state of the generator. -/
def Released (noise : R → ℚ → ℚ → Int64 × R) (cfg : PrivateMetricsConfig) (batch : List MetricsData)
    (metrics : List (String × Int64)) : Prop :=
  ∃ rngs : List R, rngs.length = cfg.buckets.length ∧
    metrics = List.zipWith (fun (lc : String × BucketConfig) rng =>
      (lc.1, batchSum lc.2 lc.1 batch + (noise rng ((cfg.buckets.length : ℚ) / cfg.epsilon) lc.2.scale).1))
      cfg.buckets rngs

/-- A reply of `report_metrics` against the batcher's: nothing, or the release
of the batch the batcher releases. -/
def ReleaseOf (noise : R → ℚ → ℚ → Int64 × R) (cfg : PrivateMetricsConfig) :
    Option (ℕ × List (String × Int64)) → Option (List MetricsData) → Prop
  | none, none => True
  | some (n, metrics), some batch => n = cfg.batchSize ∧ Released noise cfg batch metrics
  | _, _ => False

/-- The aggregator of configuration `cfg` holds the requests `pending` of the
current batch: it counts them, and each bucket holds their sum. -/
structure Holds (cfg : PrivateMetricsConfig) (pending : List MetricsData) (a : PrivateMetricsAggregator R) :
    Prop where
  count : a.count = pending.length
  lt : pending.length < cfg.batchSize
  epsilon : a.epsilon = cfg.epsilon
  batchSize : a.batchSize = cfg.batchSize
  buckets : a.buckets = cfg.buckets.map fun lc => (lc.1, ⟨lc.2, batchSum lc.2 lc.1 pending⟩)

theorem Holds.newWithRng {cfg : PrivateMetricsConfig} (hb : 0 < cfg.batchSize) {rng : R}
    {a : PrivateMetricsAggregator R} (h : PrivateMetricsAggregator.newWithRng cfg rng = .ok a) :
    Holds cfg [] a := by
  unfold PrivateMetricsAggregator.newWithRng at h
  split at h
  · cases h
    exact ⟨rfl, hb, rfl, rfl, by simp [batchSum_nil]⟩
  · cases h

theorem noisyMetrics_eq (noise : R → ℚ → ℚ → Int64 × R) (beta : ℚ) (buckets : List (String × Bucket)) (rng : R) :
    ∃ rngs : List R, rngs.length = buckets.length ∧
      (noisyMetrics noise beta buckets rng).1 = List.zipWith (fun (lb : String × Bucket) r =>
        (lb.1, lb.2.value + (noise r beta lb.2.config.scale).1)) buckets rngs := by
  induction buckets generalizing rng with
  | nil => exact ⟨[], rfl, rfl⟩
  | cons lb buckets ih =>
    obtain ⟨rngs, hlen, heq⟩ := ih (noise rng beta lb.2.config.scale).2
    refine ⟨rng :: rngs, by simp [hlen], ?_⟩
    simp only [noisyMetrics, addLaplaceNoise, heq, List.zipWith_cons_cons]

theorem Holds.reportMetrics {cfg : PrivateMetricsConfig} {pending : List MetricsData}
    {a : PrivateMetricsAggregator R} (h : Holds cfg pending a) (noise : R → ℚ → ℚ → Int64 × R)
    (d : MetricsData) :
    ReleaseOf noise cfg (a.reportMetrics noise d).1 (batchStep cfg.batchSize pending d).1 ∧
      Holds cfg (batchStep cfg.batchSize pending d).2 (a.reportMetrics noise d).2 := by
  have hadd : (a.buckets.map fun (lb : String × Bucket) => (lb.1, lb.2.add ((d lb.1).getD 0))) =
      cfg.buckets.map fun lc => (lc.1, ⟨lc.2, batchSum lc.2 lc.1 (pending ++ [d])⟩) := by
    simp [h.buckets, Bucket.add, batchSum_append_singleton]
  unfold PrivateMetricsAggregator.reportMetrics batchStep
  by_cases hfull : pending.length + 1 = cfg.batchSize
  · have hcount : a.count + 1 = a.batchSize := by rw [h.count, h.batchSize, hfull]
    simp only [hcount, hfull, if_true]
    obtain ⟨rngs, hlen, heq⟩ := noisyMetrics_eq noise ((a.buckets.length : ℚ) / a.epsilon)
      (a.buckets.map fun (lb : String × Bucket) => (lb.1, lb.2.add ((d lb.1).getD 0))) a.rng
    refine ⟨⟨h.batchSize, rngs, by simpa [h.buckets] using hlen, ?_⟩,
      ⟨rfl, by rw [List.length_nil]; omega, h.epsilon, h.batchSize, ?_⟩⟩
    · rw [List.length_map, heq, hadd, List.zipWith_map_left, h.buckets, List.length_map, h.epsilon]
    · simp [PrivateMetricsAggregator.reset, hadd, batchSum_nil]
  · have hcount : a.count + 1 ≠ a.batchSize := by rw [h.count, h.batchSize]; exact hfull
    simp only [hcount, hfull, if_false]
    exact ⟨trivial, ⟨by simp [h.count], by have := h.lt; simp; omega, h.epsilon, h.batchSize, hadd⟩⟩

theorem Holds.feed {cfg : PrivateMetricsConfig} {pending : List MetricsData} {a : PrivateMetricsAggregator R}
    (h : Holds cfg pending a) (noise : R → ℚ → ℚ → Int64 × R) (ds : List MetricsData) :
    List.Forall₂ (ReleaseOf noise cfg) (feed (PrivateMetricsAggregator.reportMetrics noise) a ds).1
        (feed (batchStep cfg.batchSize) pending ds).1 ∧
      Holds cfg (feed (batchStep cfg.batchSize) pending ds).2 (feed (PrivateMetricsAggregator.reportMetrics noise) a ds).2 :=
  feed_forall₂ (fun a pending => Holds cfg pending a) (ReleaseOf noise cfg)
    (fun _ _ d h => h.reportMetrics noise d) ds h

/-! ### The sums are exact while they fit -/

/-- The largest magnitude of a value a bucket adds. -/
def BucketConfig.bound (c : BucketConfig) : ℕ := max c.lo.toInt.natAbs c.hi.toInt.natAbs

/-- The width of a bucket's range, as an integer. -/
def BucketConfig.spread (c : BucketConfig) : ℤ := c.hi.toInt - c.lo.toInt

/-- A bucket whose sums over `n` requests, and whose range, stay within `i64`. -/
def BucketConfig.Fits (n : ℕ) (c : BucketConfig) : Prop := n * c.bound < 2 ^ 63 ∧ c.spread < 2 ^ 63

instance (n : ℕ) (c : BucketConfig) : Decidable (c.Fits n) := inferInstanceAs (Decidable (_ ∧ _))

theorem BucketConfig.clampInput_abs_le {c : BucketConfig} (hv : c.Valid) (input : Int64) :
    -(c.bound : ℤ) ≤ (c.clampInput input).toInt ∧ (c.clampInput input).toInt ≤ c.bound := by
  obtain ⟨hlo, hhi⟩ := c.clampInput_mem hv input
  have hl : -(c.lo.toInt.natAbs : ℤ) ≤ c.lo.toInt := by omega
  have hh : c.hi.toInt ≤ c.hi.toInt.natAbs := by omega
  have hb : c.lo.toInt.natAbs ≤ c.bound ∧ c.hi.toInt.natAbs ≤ c.bound := ⟨le_max_left .., le_max_right ..⟩
  omega

theorem BucketConfig.scale_eq_spread {c : BucketConfig} (hv : c.Valid) (h : c.spread < 2 ^ 63) :
    c.scale = c.spread := by
  cases c with
  | count => simp [BucketConfig.scale, BucketConfig.spread, BucketConfig.hi, BucketConfig.lo]
  | sum min max =>
    rw [BucketConfig.Valid, Int64.lt_iff_toInt_lt] at hv
    simp only [BucketConfig.spread, BucketConfig.hi, BucketConfig.lo] at h
    simp only [BucketConfig.scale, BucketConfig.spread, BucketConfig.hi, BucketConfig.lo]
    rw [Int64.toInt_sub_of_lt (by omega) h]

section Fits

variable {c : BucketConfig} {batch : List MetricsData} (hv : c.Valid) (hfit : batch.length * c.bound < 2 ^ 63)
include hv hfit

theorem batchSum_toInt (label : String) :
    (batchSum c label batch).toInt = (batch.map fun d => (c.clampInput ((d label).getD 0)).toInt).sum := by
  have hsum : ((batch.map fun (d : MetricsData) => c.clampInput ((d label).getD 0)).foldl (· + ·) 0).toInt =
      (0 : Int64).toInt + ((batch.map fun (d : MetricsData) => c.clampInput ((d label).getD 0)).map Int64.toInt).sum :=
    Int64.toInt_foldl_add (k := 0) (B := c.bound) (fun x hx => by
      obtain ⟨d, -, rfl⟩ := List.mem_map.mp hx
      exact c.clampInput_abs_le hv _)
    (by simp) (by simpa using hfit)
  simpa [batchSum, List.map_map, Function.comp_def] using hsum

theorem batchSum_set_sub_le (label : String) {j : ℕ} (hj : j < batch.length) (d' : MetricsData) :
    |(batchSum c label (batch.set j d')).toInt - (batchSum c label batch).toInt| ≤ c.spread := by
  have hfit' : (batch.set j d').length * c.bound < 2 ^ 63 := by rwa [List.length_set]
  rw [batchSum_toInt hv hfit', batchSum_toInt hv hfit, List.map_set, sum_set_sub (by simpa using hj),
    List.getElem_map]
  obtain ⟨hlo, hhi⟩ := c.clampInput_mem hv ((d' label).getD 0)
  obtain ⟨hlo', hhi'⟩ := c.clampInput_mem hv ((batch[j] label).getD 0)
  rw [abs_sub_le_iff, BucketConfig.spread]
  omega

end Fits

/-! ### Releases -/

/-- Fed any requests from a fresh aggregator of a validated configuration whose
buckets fit, `report_metrics` releases each whole batch of `batch_size`
requests on its last request, each bucket's integer sum of clamped values plus
noise; fewer than `batch_size` requests stay pending; and changing one request
of a batch moves each bucket's sum by at most the scale of its noise. -/
theorem reportMetrics_releases_batches (noise : R → ℚ → ℚ → Int64 × R) {cfg : PrivateMetricsConfig}
    (hv : cfg.validate = .ok ()) (hb : 0 < cfg.batchSize) (hfit : ∀ lc ∈ cfg.buckets, lc.2.Fits cfg.batchSize)
    {rng : R} {a : PrivateMetricsAggregator R} (ha : PrivateMetricsAggregator.newWithRng cfg rng = .ok a)
    (ds : List MetricsData) :
    ∃ (batches : List (List MetricsData)) (rest : List MetricsData),
      ds = batches.flatten ++ rest ∧ (∀ b ∈ batches, b.length = cfg.batchSize) ∧
      List.Forall₂ (ReleaseOf noise cfg) (feed (PrivateMetricsAggregator.reportMetrics noise) a ds).1
        ((batches.map fun b => List.replicate (cfg.batchSize - 1) none ++ [some b]).flatten ++
          List.replicate rest.length none) ∧
      (feed (PrivateMetricsAggregator.reportMetrics noise) a ds).2.count = rest.length ∧
      rest.length < cfg.batchSize ∧
      ∀ b ∈ batches, ∀ lc ∈ cfg.buckets,
        (batchSum lc.2 lc.1 b).toInt = (b.map fun d => (lc.2.clampInput ((d lc.1).getD 0)).toInt).sum ∧
        ∀ j < b.length, ∀ d' : MetricsData,
          |(((batchSum lc.2 lc.1 (b.set j d')).toInt - (batchSum lc.2 lc.1 b).toInt : ℤ) : ℚ)| ≤
            lc.2.scale := by
  obtain ⟨batches, rest, rfl, hbs, hrest⟩ := exists_flatten_append hb ds
  obtain ⟨hrun, hholds⟩ := (Holds.newWithRng hb ha).feed noise (batches.flatten ++ rest)
  rw [feed_batchStep_flatten hb batches hbs rest hrest] at hrun hholds
  refine ⟨batches, rest, rfl, hbs, hrun, hholds.count, hrest, fun b hb' lc hlc => ?_⟩
  have hvalid := (PrivateMetricsConfig.validate_eq_ok.mp hv).2 lc hlc
  obtain ⟨hsum, hspread⟩ := hfit lc hlc
  have hlen : b.length * lc.2.bound < 2 ^ 63 := by rwa [hbs b hb']
  refine ⟨batchSum_toInt hvalid hlen lc.1, fun j hj d' => ?_⟩
  rw [lc.2.scale_eq_spread hvalid hspread, ← Int.cast_abs]
  exact_mod_cast batchSum_set_sub_le hvalid hlen lc.1 hj d'

/-- A configuration with a bucket of each kind, released every two requests. -/
def exampleConfig : PrivateMetricsConfig := ⟨1, 2, [("requests", .count), ("latency", .sum 10 20)]⟩

theorem reportMetrics_releases_batches_example :
    ∃ a, PrivateMetricsAggregator.newWithRng exampleConfig () = .ok a ∧
    ∃ (batches : List (List MetricsData)) (rest : List MetricsData),
      [(PrivateMetricsProxy.new.reportMetric "latency" 25).data, PrivateMetricsProxy.new.data,
        PrivateMetricsProxy.new.data] = batches.flatten ++ rest ∧
      (∀ b ∈ batches, b.length = exampleConfig.batchSize) ∧
      List.Forall₂ (ReleaseOf (fun (r : Unit) _ _ => ((0 : Int64), r)) exampleConfig)
        (feed (PrivateMetricsAggregator.reportMetrics fun (r : Unit) _ _ => ((0 : Int64), r)) a
          [(PrivateMetricsProxy.new.reportMetric "latency" 25).data, PrivateMetricsProxy.new.data,
            PrivateMetricsProxy.new.data]).1
        ((batches.map fun b => List.replicate (exampleConfig.batchSize - 1) none ++ [some b]).flatten ++
          List.replicate rest.length none) ∧
      (feed (PrivateMetricsAggregator.reportMetrics fun (r : Unit) _ _ => ((0 : Int64), r)) a
          [(PrivateMetricsProxy.new.reportMetric "latency" 25).data, PrivateMetricsProxy.new.data,
            PrivateMetricsProxy.new.data]).2.count = rest.length ∧
      rest.length < exampleConfig.batchSize ∧
      ∀ b ∈ batches, ∀ lc ∈ exampleConfig.buckets,
        (batchSum lc.2 lc.1 b).toInt = (b.map fun d => (lc.2.clampInput ((d lc.1).getD 0)).toInt).sum ∧
        ∀ j < b.length, ∀ d' : MetricsData,
          |(((batchSum lc.2 lc.1 (b.set j d')).toInt - (batchSum lc.2 lc.1 b).toInt : ℤ) : ℚ)| ≤
            lc.2.scale :=
  ⟨_, rfl, reportMetrics_releases_batches _ rfl (by decide) (by decide) rfl _⟩

/-- Without the fit, a bucket of range `[0, i64::MAX]` fed `i64::MAX` twice
releases `-2`: its sum wraps, is not the integer sum, and a request moved to
the empty one moves it by more than the scale of its noise. -/
theorem reportMetrics_wraps_without_fit :
    PrivateMetricsConfig.validate ⟨1, 2, [("a", .sum 0 Int64.maxValue)]⟩ = .ok () ∧
    (∃ a, PrivateMetricsAggregator.newWithRng ⟨1, 2, [("a", .sum 0 Int64.maxValue)]⟩ () = .ok a ∧
      (feed (PrivateMetricsAggregator.reportMetrics fun (r : Unit) _ _ => ((0 : Int64), r)) a
        [(PrivateMetricsProxy.new.reportMetric "a" Int64.maxValue).data,
          (PrivateMetricsProxy.new.reportMetric "a" Int64.maxValue).data]).1 = [none, some (2, [("a", -2)])]) ∧
    (batchSum (.sum 0 Int64.maxValue) "a" [(PrivateMetricsProxy.new.reportMetric "a" Int64.maxValue).data,
        (PrivateMetricsProxy.new.reportMetric "a" Int64.maxValue).data]).toInt ≠
      ([(PrivateMetricsProxy.new.reportMetric "a" Int64.maxValue).data,
        (PrivateMetricsProxy.new.reportMetric "a" Int64.maxValue).data].map fun d =>
          ((BucketConfig.sum 0 Int64.maxValue).clampInput ((d "a").getD 0)).toInt).sum ∧
    ¬ |(((batchSum (.sum 0 Int64.maxValue) "a" [(PrivateMetricsProxy.new.reportMetric "a" Int64.maxValue).data,
          PrivateMetricsProxy.new.data]).toInt -
        (batchSum (.sum 0 Int64.maxValue) "a" [(PrivateMetricsProxy.new.reportMetric "a" Int64.maxValue).data,
          (PrivateMetricsProxy.new.reportMetric "a" Int64.maxValue).data]).toInt : ℤ) : ℚ)| ≤
      (BucketConfig.sum 0 Int64.maxValue).scale :=
  ⟨rfl, ⟨_, rfl, rfl⟩, by decide, by decide⟩

/-- `validate` accepts a bucket whose range `max - min` wraps to a negative
scale, and one whose sum over two requests wraps. -/
theorem bucket_arithmetic_wraps :
    PrivateMetricsConfig.validate ⟨1, 1, [("a", .sum Int64.minValue 0)]⟩ = .ok () ∧
    (BucketConfig.sum Int64.minValue 0).scale = -2 ^ 63 ∧
    PrivateMetricsConfig.validate ⟨1, 2, [("a", .sum 0 Int64.maxValue)]⟩ = .ok () ∧
    (((⟨.sum 0 Int64.maxValue, 0⟩ : Bucket).add Int64.maxValue).add Int64.maxValue).value.toInt =
      2 * Int64.maxValue.toInt - 2 ^ 64 :=
  ⟨rfl, by decide, rfl, by decide⟩

end Oak.Functions
