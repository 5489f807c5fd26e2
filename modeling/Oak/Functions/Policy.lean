import Oak.Lib.Protobuf

/-! The Oak Functions response policy (oak_functions/loader/src/server.rs and
grpc.rs). Every request's function runs for the policy's fixed time; whatever
it produced by then is turned into a response, replaced by an error response
when its body is over the policy's size, and padded with zeros up to that
size. The client receives the response's protobuf encoding.

The padding makes the body's size constant, but the encoding's size is not:
proto3 leaves out the `status` and `length` fields when they are zero. The
size is constant only over responses whose status is a one-byte varint other
than zero and whose body, before padding, is not empty; every response the
runtime makes itself is such a response. -/

namespace Oak.Functions

open Oak.Lib

/-- `StatusCode` of invocation.proto. -/
inductive StatusCode
  | unspecified
  | success
  | badRequest
  | policySizeViolation
  | policyTimeViolation
  | internalServerError
  deriving DecidableEq, Repr

/-- `status as i32`. -/
def StatusCode.toI32 : StatusCode → Int32
  | .unspecified => 0
  | .success => 1
  | .badRequest => 2
  | .policySizeViolation => 3
  | .policyTimeViolation => 4
  | .internalServerError => 5

/-- The `Response` message as prost holds it: the enumeration as its `i32`,
so a function may return any status value. -/
structure Response where
  status : Int32
  body : List UInt8
  length : UInt64
  deriving DecidableEq, Repr

/-- `Response::create`. -/
def Response.create (status : StatusCode) (body : List UInt8) : Response :=
  ⟨status.toI32, body, UInt64.ofNat body.length⟩

/-- `FixedSizeBodyPadder::pad`: zeros appended up to `bodySize`, with the
length of the body before padding in `length`. -/
def Response.pad (r : Response) (bodySize : ℕ) : Except String Response :=
  if r.body.length ≤ bodySize then
    .ok ⟨r.status, r.body ++ List.replicate (bodySize - r.body.length) 0, UInt64.ofNat r.body.length⟩
  else .error "response body is larger than the input body_size"

/-- `Response::body`: the body cut at the effective length, `none` where the
slice panics. `usize::try_from` of the `u64` length cannot fail on the 64-bit
targets the loader runs on. -/
def Response.body? (r : Response) : Option (List UInt8) :=
  if r.length.toNat ≤ r.body.length then some (r.body.take r.length.toNat) else none

/-- prost's encoding of `Response`: its fields in the order of their numbers,
each left out when it holds its default. -/
def Response.encode (r : Response) : List UInt8 :=
  int32Field 1 r.status.toInt ++ bytesField 2 r.body ++ fixed64Field 3 r.length

/-- `MIN_RESPONSE_SIZE`. -/
def minResponseSize : ℕ := 50

/-- The policy as read from the configuration, not yet validated. The
processing time is the duration's whole milliseconds, as `as_millis` gives it. -/
structure Policy where
  constantResponseSizeBytes : UInt32
  constantProcessingTime : ℕ

/-- The `ServerPolicy` message. -/
structure ServerPolicy where
  constantResponseSizeBytes : UInt32
  constantProcessingTimeMs : UInt32

/-- `Policy::validate`. -/
def Policy.validate (p : Policy) : Except String ServerPolicy :=
  if p.constantResponseSizeBytes.toNat < minResponseSize then .error "Response size is too small"
  else if p.constantProcessingTime < 2 ^ 32 then
    .ok ⟨p.constantResponseSizeBytes, UInt32.ofNat p.constantProcessingTime⟩
  else .error "could not convert milliseconds to u32"

/-- What `task.now_or_never()` finds once the policy's time has elapsed. The
time itself is not modelled: each run is one of these outcomes. -/
inductive FunctionOutcome
  /-- `None`: the function had not finished. -/
  | notFinished
  /-- `Some(Err(_))`: the task could not be joined. -/
  | joinError
  /-- `Some(Ok(Err(err)))`, with the bytes of `err.to_string()`. -/
  | failed (message : List UInt8)
  /-- `Some(Ok(Ok(rsp)))`. -/
  | finished (rsp : Response)

/-- The first `response` of `apply_policy`, by the outcome. -/
def FunctionOutcome.response : FunctionOutcome → Response
  | .notFinished =>
    Response.create .policyTimeViolation "Reason: response not available.".toUTF8.toList
  | .joinError =>
    Response.create .internalServerError "Reason: internal server error.".toUTF8.toList
  | .failed message => Response.create .internalServerError message
  | .finished rsp => rsp

/-- `apply_policy`. -/
def applyPolicy (policy : ServerPolicy) (outcome : FunctionOutcome) : Except String Response :=
  let response := outcome.response
  let response :=
    if response.body.length > policy.constantResponseSizeBytes.toNat then
      Response.create .policySizeViolation "Reason: the response is too large.".toUTF8.toList
    else response
  response.pad policy.constantResponseSizeBytes.toNat

/-- `handle_request`, after the Wasm function's outcome. Encoding into a vector
cannot fail. -/
def handleRequest (policy : ServerPolicy) (outcome : FunctionOutcome) :
    Except String (List UInt8) := do
  let response ← (applyPolicy policy outcome).mapError fun _ => "internal error"
  pure response.encode

/-! ### Validated policies -/

/-- A policy whose size fits every error response the runtime makes. -/
def ServerPolicy.Valid (sp : ServerPolicy) : Prop :=
  minResponseSize ≤ sp.constantResponseSizeBytes.toNat

theorem Policy.validate_valid {p : Policy} {sp : ServerPolicy} (h : p.validate = .ok sp) :
    sp.Valid ∧ sp.constantResponseSizeBytes = p.constantResponseSizeBytes := by
  unfold Policy.validate at h
  split at h
  · cases h
  · rename_i hge
    split at h
    · cases h
      exact ⟨Nat.le_of_not_lt hge, rfl⟩
    · cases h

/-! ### Padding -/

section Pad

variable {r : Response} {n : ℕ}

theorem Response.pad_eq (h : r.body.length ≤ n) :
    r.pad n = .ok ⟨r.status, r.body ++ List.replicate (n - r.body.length) 0,
      UInt64.ofNat r.body.length⟩ := by
  rw [Response.pad, if_pos h]

theorem Response.length_pad_body (h : r.body.length ≤ n) {r' : Response} (hr : r.pad n = .ok r') :
    r'.body.length = n := by
  rw [Response.pad_eq h] at hr
  cases hr
  simp only [List.length_append, List.length_replicate]
  omega

theorem Response.take_pad_body (h : r.body.length ≤ n) (hn : n < 2 ^ 64) {r' : Response}
    (hr : r.pad n = .ok r') : r'.body.take r'.length.toNat = r.body := by
  rw [Response.pad_eq h] at hr
  cases hr
  have hlen : (UInt64.ofNat r.body.length).toNat = r.body.length := by
    rw [UInt64.toNat_ofNat', Nat.mod_eq_of_lt (by omega)]
  simp only [hlen, List.take_left]

theorem Response.pad_length_eq_zero (h : r.body.length ≤ n) (hn : n < 2 ^ 64) {r' : Response}
    (hr : r.pad n = .ok r') : r'.length = 0 ↔ r.body = [] := by
  rw [Response.pad_eq h] at hr
  cases hr
  rw [← List.length_eq_zero_iff, ← UInt64.toNat_inj, UInt64.toNat_ofNat', UInt64.toNat_zero,
    Nat.mod_eq_of_lt (by omega)]

end Pad

/-! ### The responses of `apply_policy` -/

/-- The response `apply_policy` pads: the outcome's, unless its body is over
`n` bytes. -/
def FunctionOutcome.sized (n : ℕ) (o : FunctionOutcome) : Response :=
  if o.response.body.length > n then
    Response.create .policySizeViolation "Reason: the response is too large.".toUTF8.toList
  else o.response

theorem applyPolicy_eq (sp : ServerPolicy) (o : FunctionOutcome) :
    applyPolicy sp o = (o.sized sp.constantResponseSizeBytes.toNat).pad
      sp.constantResponseSizeBytes.toNat := rfl

theorem length_reasonTooLarge : "Reason: the response is too large.".toUTF8.toList.length = 34 := by
  decide +kernel

theorem FunctionOutcome.length_sized_le {n : ℕ} (hn : minResponseSize ≤ n) (o : FunctionOutcome) :
    (o.sized n).body.length ≤ n := by
  unfold FunctionOutcome.sized minResponseSize at *
  split
  · simp only [Response.create, length_reasonTooLarge]
    omega
  · omega

section Apply

variable {sp : ServerPolicy} (hv : sp.Valid)
include hv

theorem applyPolicy_ok (o : FunctionOutcome) :
    ∃ r, applyPolicy sp o = .ok r ∧ r.body.length = sp.constantResponseSizeBytes.toNat := by
  have hle := o.length_sized_le hv
  refine ⟨_, (applyPolicy_eq sp o).trans (Response.pad_eq hle), ?_⟩
  exact Response.length_pad_body hle (Response.pad_eq hle)

theorem applyPolicy_body (o : FunctionOutcome) :
    ∃ p, applyPolicy sp o = .ok p ∧ p.body.length = sp.constantResponseSizeBytes.toNat ∧
      p.status = (o.sized sp.constantResponseSizeBytes.toNat).status ∧ p.length.toNat ≤ p.body.length ∧
      p.body? = some (o.sized sp.constantResponseSizeBytes.toNat).body := by
  have hle := o.length_sized_le hv
  have hn : sp.constantResponseSizeBytes.toNat < 2 ^ 64 := by
    have := sp.constantResponseSizeBytes.toNat_lt
    omega
  have hpad := Response.pad_eq hle
  have hbody := Response.length_pad_body hle hpad
  have htake := Response.take_pad_body hle hn hpad
  -- the effective length is the length of the body before padding
  have hlength : (UInt64.ofNat (o.sized sp.constantResponseSizeBytes.toNat).body.length).toNat =
      (o.sized sp.constantResponseSizeBytes.toNat).body.length := by
    rw [UInt64.toNat_ofNat', Nat.mod_eq_of_lt (by omega)]
  refine ⟨_, (applyPolicy_eq sp o).trans hpad, hbody, rfl, ?_, ?_⟩
  · rw [hlength, hbody]
    exact hle
  · rw [Response.body?, if_pos (by rw [hlength, hbody]; exact hle), htake]

/-- The size of what `handle_request` sends: the status field, the padded body
and the length field, the last left out when the body before padding was
empty. -/
theorem length_handleRequest (o : FunctionOutcome) :
    ∃ bytes, handleRequest sp o = .ok bytes ∧
      bytes.length = (int32Field 1 (o.sized sp.constantResponseSizeBytes.toNat).status.toInt).length +
        (1 + varintLen sp.constantResponseSizeBytes.toNat + sp.constantResponseSizeBytes.toNat) +
        (if (o.sized sp.constantResponseSizeBytes.toNat).body = [] then 0 else 9) := by
  obtain ⟨r, hr, hbody⟩ := applyPolicy_ok hv o
  have hn : sp.constantResponseSizeBytes.toNat < 2 ^ 64 := by
    have := sp.constantResponseSizeBytes.toNat_lt
    omega
  have hle := o.length_sized_le hv
  rw [applyPolicy_eq] at hr
  have hne : r.body ≠ [] := by
    have : minResponseSize ≤ r.body.length := hbody ▸ hv
    unfold minResponseSize at this
    exact List.ne_nil_of_length_pos (by omega)
  have hstatus : r.status = (o.sized sp.constantResponseSizeBytes.toNat).status := by
    rw [Response.pad_eq hle] at hr
    cases hr
    rfl
  refine ⟨r.encode, by rw [handleRequest, applyPolicy_eq, hr]; rfl, ?_⟩
  rw [Response.encode, List.length_append, List.length_append, length_bytesField (by omega) hne,
    length_fixed64Field (by omega), hbody, hstatus]
  simp only [Response.pad_length_eq_zero hle hn hr]

end Apply

/-- What `apply_policy` returns for an outcome: a body of the policy's size and
an effective length within it, so that `Response::body` does not panic; for a
function that finished, its own status and body when the body fits, and the
size violation otherwise. -/
structure Frames (sp : ServerPolicy) (o : FunctionOutcome) (p : Response) : Prop where
  length_body : p.body.length = sp.constantResponseSizeBytes.toNat
  length_le : p.length.toNat ≤ p.body.length
  no_panic : p.body?.isSome
  finished_le : ∀ r, o = .finished r → r.body.length ≤ sp.constantResponseSizeBytes.toNat →
    p.status = r.status ∧ p.body? = some r.body
  finished_gt : ∀ r, o = .finished r → sp.constantResponseSizeBytes.toNat < r.body.length →
    p.status = StatusCode.policySizeViolation.toI32 ∧
      p.body? = some "Reason: the response is too large.".toUTF8.toList

/-- Under every valid policy and for every outcome of the function,
`apply_policy` returns a response that frames it as `Frames` says. -/
theorem apply_policy_frames {sp : ServerPolicy} (hv : sp.Valid) (o : FunctionOutcome) :
    ∃ p, applyPolicy sp o = .ok p ∧ Frames sp o p := by
  obtain ⟨p, hp, hbody, hstatus, hle, hget⟩ := applyPolicy_body hv o
  refine ⟨p, hp, ⟨hbody, hle, by rw [hget]; rfl, ?_, ?_⟩⟩
  · rintro r rfl hfit
    have hsized : (FunctionOutcome.finished r).sized sp.constantResponseSizeBytes.toNat = r := by
      rw [FunctionOutcome.sized, FunctionOutcome.response, if_neg (Nat.not_lt.2 hfit)]
    rw [hsized] at hstatus hget
    exact ⟨hstatus, hget⟩
  · rintro r rfl hover
    have hsized : (FunctionOutcome.finished r).sized sp.constantResponseSizeBytes.toNat =
        Response.create .policySizeViolation "Reason: the response is too large.".toUTF8.toList := by
      rw [FunctionOutcome.sized, FunctionOutcome.response, if_pos hover]
    rw [hsized] at hstatus hget
    exact ⟨hstatus, hget⟩

theorem apply_policy_frames_min :
    (⟨50, 0⟩ : ServerPolicy).Valid ∧
      ∃ p, applyPolicy ⟨50, 0⟩ .notFinished = .ok p ∧ Frames ⟨50, 0⟩ .notFinished p := by
  have hv : (⟨50, 0⟩ : ServerPolicy).Valid := by
    unfold ServerPolicy.Valid minResponseSize
    decide
  exact ⟨hv, apply_policy_frames hv .notFinished⟩

/-- The outcomes whose encoded response keeps both scalar fields: a status of
one varint byte other than zero, and a body that was not empty. The runtime's
own error responses are all such. -/
def FunctionOutcome.SetsFields (n : ℕ) : FunctionOutcome → Prop
  | .notFinished => True
  | .joinError => True
  | .failed message => message ≠ []
  | .finished rsp => n < rsp.body.length ∨ (0 < rsp.status.toInt ∧ rsp.status.toInt < 128 ∧ rsp.body ≠ [])

instance (n : ℕ) : DecidablePred (FunctionOutcome.SetsFields n) := fun o => by
  cases o <;> unfold FunctionOutcome.SetsFields <;> infer_instance

theorem FunctionOutcome.sized_of_setsFields {n : ℕ} {o : FunctionOutcome} (h : o.SetsFields n) :
    0 < (o.sized n).status.toInt ∧ (o.sized n).status.toInt < 128 ∧ (o.sized n).body ≠ [] := by
  unfold FunctionOutcome.sized
  split
  · refine ⟨by decide, by decide, ?_⟩
    simp only [Response.create, ← List.length_pos_iff, length_reasonTooLarge]
    omega
  · rename_i hle
    cases o with
    | notFinished => exact ⟨by decide, by decide, List.ne_nil_of_length_pos (by decide +kernel)⟩
    | joinError => exact ⟨by decide, by decide, List.ne_nil_of_length_pos (by decide +kernel)⟩
    | failed message =>
      exact ⟨(by decide : (0 : ℤ) < (5 : Int32).toInt), (by decide : (5 : Int32).toInt < 128), h⟩
    | finished rsp =>
      -- a body over the size was replaced above, so the status and body are the function's
      rcases h with hlt | hs
      · exact absurd hlt hle
      · exact hs

theorem length_handleRequest_of_setsFields {sp : ServerPolicy} (hv : sp.Valid) {o : FunctionOutcome}
    (h : o.SetsFields sp.constantResponseSizeBytes.toNat) :
    ∃ bytes, handleRequest sp o = .ok bytes ∧
      bytes.length = 12 + varintLen sp.constantResponseSizeBytes.toNat +
        sp.constantResponseSizeBytes.toNat := by
  obtain ⟨bytes, hb, hlen⟩ := length_handleRequest hv o
  obtain ⟨hpos, hlt, hne⟩ := o.sized_of_setsFields h
  refine ⟨bytes, hb, ?_⟩
  rw [hlen, length_int32Field_of_small (by omega) hpos hlt, if_neg hne]
  omega

/-- A response with an empty body and one with a one-byte body, both of status
`SUCCESS`, under the smallest policy `Policy::validate` accepts: their
encodings are 54 and 63 bytes long. -/
theorem handleRequest_size_depends_on_body :
    ∃ sp, Policy.validate ⟨50, 0⟩ = .ok sp ∧
      (handleRequest sp (.finished (Response.create .success []))).map List.length = .ok 54 ∧
      (handleRequest sp (.finished (Response.create .success [7]))).map List.length = .ok 63 :=
  ⟨_, rfl, by decide +kernel, by decide +kernel⟩

end Oak.Functions
