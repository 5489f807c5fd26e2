import Oak.Lib.Traversal
import Oak.Lib.Bytes
import Oak.Runtime.State

/-! Messages of bytes and handles (`oak_io`). A value of a prost message type
is sent as its prost encoding and, apart from it, the handles it holds, in the
order `HandleVisit::fold` visits them; the receiver decodes the bytes and puts
the handles back in the same order.

`Ty` describes the message types `HandleVisit` is implemented for: the handle
wrappers `Sender` and `Receiver`, the types of the blanket impl (scalars and
messages without handles), `Option`, `Vec`, `Box` and `HashMap`, and the
structs and `oneof` enums of the derive macro, whose fold visits the fields in
declaration order. A `HashMap` is its entries in ascending key order, the order
its fold sorts them into. prost's own encoding is a codec for each type,
assumed to decode what it encodes. -/

namespace Oak.Io

open Oak.Lib

/-- The message types with a `HandleVisit` impl. -/
inductive Ty : Type 1
  | handle
  | scalar (α : Type)
  | option (t : Ty)
  | vec (t : Ty)
  | box (t : Ty)
  | map (K : Type) (t : Ty)
  | unit
  | prod (a b : Ty)
  | sum (a b : Ty)

/-- The values of a message type. -/
def Ty.Val : Ty → Type
  | .handle => Handle
  | .scalar α => α
  | .option t => Option t.Val
  | .vec t => List t.Val
  | .box t => t.Val
  | .map K t => List (K × t.Val)
  | .unit => Unit
  | .prod a b => a.Val × b.Val
  | .sum a b => a.Val ⊕ b.Val

/-- A struct with a derived `HandleVisit`, by the types of its fields. -/
def Ty.struct : List Ty → Ty
  | [] => .unit
  | t :: ts => .prod t (Ty.struct ts)

/-- A `oneof` enum with a derived `HandleVisit`, by the fields of its variants. -/
def Ty.oneof : List (List Ty) → Ty
  | [] => .scalar Empty
  | fs :: vs => .sum (.struct fs) (Ty.oneof vs)

/-- `HandleVisit::fold`, as the impls of `handle.rs`, `sender.rs`, `receiver.rs`
and the derive macro define it. -/
def Ty.fold {B : Type} (f : B → Handle → B × Handle) : (t : Ty) → B → t.Val → B × t.Val
  | .handle, b, h => f b h
  | .scalar _, b, x => (b, x)
  | .option _, b, none => (b, none)
  | .option t, b, some x =>
    let (b, x) := t.fold f b x
    (b, some x)
  | .vec t, b, xs => mapAccum (t.fold f) b xs
  | .box t, b, x => t.fold f b x
  | .map _ t, b, entries =>
    mapAccum (fun b (e : _ × t.Val) =>
      let (b, v) := t.fold f b e.2
      (b, (e.1, v))) b entries
  -- `accessors_fold`: each field in turn, from the accumulator the previous one left
  | .unit, b, x => (b, x)
  | .prod s t, b, (x, y) =>
    let (b, x) := s.fold f b x
    let (b, y) := t.fold f b y
    (b, (x, y))
  | .sum s _, b, .inl x =>
    let (b, x) := s.fold f b x
    (b, .inl x)
  | .sum _ t, b, .inr y =>
    let (b, y) := t.fold f b y
    (b, .inr y)

/-- The handle slots of the values of a message type, in the order of its fold. -/
def Ty.slots : (t : Ty) → Slots t.Val Handle
  | .handle => Slots.one
  | .scalar _ => Slots.empty
  | .option t => t.slots.option
  | .vec t => t.slots.list
  | .box t => t.slots
  | .map _ t => (Slots.empty.prod t.slots).list
  | .unit => Slots.empty
  | .prod a b => a.slots.prod b.slots
  | .sum a b => a.slots.sum b.slots

theorem Ty.lawful (t : Ty) : t.slots.Lawful := by
  induction t with
  | handle => exact Slots.lawful_one
  | scalar => exact Slots.lawful_empty
  | option t ih => exact ih.option
  | vec t ih => exact ih.list
  | box t ih => exact ih
  | map K t ih => exact (Slots.lawful_empty.prod ih).list
  | unit => exact Slots.lawful_empty
  | prod a b iha ihb => exact iha.prod ihb
  | sum a b iha ihb => exact iha.sum ihb

theorem Ty.folds {B : Type} (t : Ty) : t.slots.Folds (t.fold (B := B)) := by
  induction t with
  | handle => exact Slots.folds_one
  | scalar => exact Slots.folds_empty
  | option t ih =>
    intro f b v
    cases v with
    | none => rfl
    | some x => exact Slots.Folds.option ih f b (some x)
  | vec t ih => exact Slots.Folds.list ih
  | box t ih => exact ih
  | map K t ih => exact Slots.Folds.list (Slots.folds_empty.prod ih)
  | unit => exact Slots.folds_empty
  | prod a b iha ihb =>
    intro f b v
    obtain ⟨x, y⟩ := v
    exact Slots.Folds.prod iha ihb f b (x, y)
  | sum a b iha ihb =>
    intro f b v
    cases v with
    | inl x => exact Slots.Folds.sum iha ihb f b (.inl x)
    | inr y => exact Slots.Folds.sum iha ihb f b (.inr y)

theorem Ty.fold_eq {B : Type} (t : Ty) (f : B → Handle → B × Handle) (b : B) (v : t.Val) :
    t.fold f b v = ((mapAccum f b (t.slots.get v)).1, t.slots.put v (mapAccum f b (t.slots.get v)).2) :=
  t.folds f b v

/-! ### Extracting and injecting handles -/

/-- `oak_abi::INVALID_HANDLE`. -/
def invalidHandle : Handle := 0

/-- prost's `DecodeError`. -/
structure DecodeError where
  description : String

/-- `OakError`, with the variants the functions here return. -/
inductive OakError
  | protobufDecodeError (e : Option DecodeError)
  | oakStatus (s : OakStatus)

/-- `extract_handles`: the handles of `msg` in fold order, and `msg` with each
of them set to `INVALID_HANDLE`. -/
def extractHandles (t : Ty) (msg : t.Val) : List Handle × t.Val :=
  t.fold (fun handles handle => (handles ++ [handle], invalidHandle)) [] msg

/-- The closure `inject_handles` folds with: the next handle of the iterator
goes into the slot. -/
def injectStep : Except OakError (List Handle) → Handle → Except OakError (List Handle) × Handle
  | .error e, handle => (.error e, handle)
  -- "Not enough handles provided to populate message"
  | .ok [], handle => (.error (.protobufDecodeError none), handle)
  | .ok (toInject :: handles), _ => (.ok handles, toInject)

/-- `inject_handles`: fill the slots of `msg` with `handles` in fold order;
an error unless there are exactly as many. -/
def injectHandles (t : Ty) (msg : t.Val) (handles : List Handle) : Except OakError Unit × t.Val :=
  let (remaining, msg) := t.fold injectStep (.ok handles) msg
  (remaining.bind fun
    | [] => .ok ()
    -- "Too many handles provided for message"
    | _ :: _ => .error (.protobufDecodeError none), msg)

theorem mapAccum_extract (acc xs : List Handle) :
    mapAccum (fun handles handle => (handles ++ [handle], invalidHandle)) acc xs =
      (acc ++ xs, List.replicate xs.length invalidHandle) := by
  induction xs generalizing acc with
  | nil => simp
  | cons x xs ih => simp [mapAccum_cons, ih, List.replicate_succ]

theorem extractHandles_eq (t : Ty) (msg : t.Val) :
    extractHandles t msg =
      (t.slots.get msg, t.slots.put msg (List.replicate (t.slots.get msg).length invalidHandle)) := by
  rw [extractHandles, t.fold_eq, mapAccum_extract, List.nil_append]

theorem mapAccum_injectStep_error (e : OakError) (xs : List Handle) :
    mapAccum injectStep (.error e) xs = (.error e, xs) := by
  induction xs with
  | nil => rfl
  | cons x xs ih => rw [mapAccum_cons, injectStep, ih]

theorem mapAccum_injectStep_ok (ks xs : List Handle) :
    mapAccum injectStep (.ok ks) xs =
      (if xs.length ≤ ks.length then .ok (ks.drop xs.length) else .error (.protobufDecodeError none),
        ks.take xs.length ++ xs.drop ks.length) := by
  induction xs generalizing ks with
  | nil => simp
  | cons x xs ih =>
    cases ks with
    | nil => simp [mapAccum_cons, injectStep, mapAccum_injectStep_error]
    | cons k ks => simp [mapAccum_cons, injectStep, ih]

theorem injectHandles_eq (t : Ty) (msg : t.Val) (handles : List Handle) :
    injectHandles t msg handles =
      (if handles.length = (t.slots.get msg).length then .ok () else .error (.protobufDecodeError none),
        t.slots.put msg (handles.take (t.slots.get msg).length ++ (t.slots.get msg).drop handles.length)) := by
  rw [injectHandles, t.fold_eq, mapAccum_injectStep_ok]
  by_cases hle : (t.slots.get msg).length ≤ handles.length
  · by_cases heq : handles.length = (t.slots.get msg).length
    · have hdrop : handles.drop (t.slots.get msg).length = [] := List.drop_eq_nil_of_le (by omega)
      simp [heq, hdrop, Except.bind]
    · have hdrop : handles.drop (t.slots.get msg).length ≠ [] := by
        simp only [ne_eq, List.drop_eq_nil_iff]
        omega
      obtain ⟨k, ks, hks⟩ := List.exists_cons_of_ne_nil hdrop
      simp [hle, heq, hks, Except.bind]
  · have hne : handles.length ≠ (t.slots.get msg).length := by omega
    simp [hle, hne, Except.bind]

/-! ### Encoding and decoding -/

/-- `Message`: bytes and handles. -/
structure Message where
  bytes : List UInt8
  handles : List Handle
  deriving DecidableEq

/-- prost's encoding of a message type. -/
structure Prost (t : Ty) where
  encode : t.Val → List UInt8
  decode : List UInt8 → Except DecodeError t.Val

/-- `Encodable::encode` for a prost message with `HandleVisit`: the handles
are extracted from a clone, the bytes are those of the value itself. -/
def encode {t : Ty} (p : Prost t) (v : t.Val) : Except OakError Message :=
  let handles := (extractHandles t v).1
  .ok ⟨p.encode v, handles⟩

/-- `Decodable::decode` for a prost message with `HandleVisit`. -/
def decode {t : Ty} (p : Prost t) (message : Message) : Except OakError t.Val :=
  match p.decode message.bytes with
  | .error e => .error (.protobufDecodeError (some e))
  | .ok value =>
    let (injected, value) := injectHandles t value message.handles
    injected.map fun _ => value

/-- A type that is `Encodable` and `Decodable`. -/
structure Codec (α : Type) where
  encode : α → Except OakError Message
  decode : Message → Except OakError α

/-- The blanket `Encodable` and `Decodable` impls of a prost message type. -/
def Prost.codec {t : Ty} (p : Prost t) : Codec t.Val := ⟨Io.encode p, Io.decode p⟩

/-- `Encodable` and `Decodable` for `Either<L, R>`: the variant in the first byte. -/
def Codec.either {L R : Type} (l : Codec L) (r : Codec R) : Codec (L ⊕ R) where
  encode
    | .inl m => (l.encode m).map fun inner => { inner with bytes := 0 :: inner.bytes }
    | .inr m => (r.encode m).map fun inner => { inner with bytes := 1 :: inner.bytes }
  decode message :=
    match message.bytes with
    | variant :: bytes =>
      if variant = 0 then (l.decode ⟨bytes, message.handles⟩).map .inl
      else if variant = 1 then (r.decode ⟨bytes, message.handles⟩).map .inr
      else .error (.oakStatus .errInvalidArgs)
    | [] => .error (.oakStatus .errInvalidArgs)

/-- `InitWrapper`: an init message and the read handle of the command receiver. -/
structure InitWrapper (Init : Type) where
  init : Init
  commandReceiver : Handle

/-- `Encodable` and `Decodable` for `InitWrapper`: the command receiver's handle first. -/
def Codec.initWrapper {Init : Type} (i : Codec Init) : Codec (InitWrapper Init) where
  encode w := (i.encode w.init).map fun initMessage =>
    { initMessage with handles := w.commandReceiver :: initMessage.handles }
  decode message :=
    match message.handles with
    | handle :: handles => (i.decode ⟨message.bytes, handles⟩).map fun init => ⟨init, handle⟩
    | [] => .error (.oakStatus .errInvalidArgs)

/-- The handle slots of an `InitWrapper`: the command receiver, then those of
the init message. -/
def InitWrapper.slots {Init : Type} (s : Slots Init Handle) : Slots (InitWrapper Init) Handle where
  get w := w.commandReceiver :: s.get w.init
  put w
    | handle :: handles => ⟨s.put w.init handles, handle⟩
    | [] => w

theorem InitWrapper.lawful {Init : Type} {s : Slots Init Handle} (hs : s.Lawful) : (InitWrapper.slots s).Lawful where
  put_get w := congrArg (fun init => InitWrapper.mk init w.commandReceiver) (hs.put_get w.init)
  get_put w {hs'} h := by
    match hs', h with
    | handle :: handles, h =>
      simp only [InitWrapper.slots, List.length_cons, Nat.add_right_cancel_iff] at h ⊢
      rw [hs.get_put w.init h]
  put_put w {hs₁ hs₂} h₁ h₂ := by
    match hs₁, hs₂, h₁, h₂ with
    | k₁ :: ks₁, k₂ :: ks₂, h₁, h₂ =>
      simp only [InitWrapper.slots, List.length_cons, Nat.add_right_cancel_iff] at h₁ h₂ ⊢
      rw [hs.put_put w.init h₁ h₂]

/-- A codec round-trips with the handle slots `s`: every value encodes, to
its handles in slot order; its bytes with any handles decode exactly when they
are as many as the slots, to the value with those handles in its slots. -/
structure Codec.RoundTrip {α : Type} (c : Codec α) (s : Slots α Handle) : Prop where
  lawful : s.Lawful
  encode_decode (v : α) : ∃ bytes, c.encode v = .ok ⟨bytes, s.get v⟩ ∧ ∀ hs : List Handle,
    ((∃ w, c.decode ⟨bytes, hs⟩ = .ok w) ↔ hs.length = (s.get v).length) ∧
      (hs.length = (s.get v).length → c.decode ⟨bytes, hs⟩ = .ok (s.put v hs))

theorem Codec.RoundTrip.decode_encode {α : Type} {c : Codec α} {s : Slots α Handle} (h : c.RoundTrip s)
    {v : α} {m : Message} (he : c.encode v = .ok m) : c.decode m = .ok v := by
  obtain ⟨bytes, henc, hdec⟩ := h.encode_decode v
  rw [henc, Except.ok.injEq] at he
  subst he
  rw [(hdec _).2 rfl, h.lawful.put_get]

theorem decode_encode_bytes {t : Ty} {p : Prost t} (hp : ∀ v, p.decode (p.encode v) = .ok v) (v : t.Val)
    (handles : List Handle) :
    decode p ⟨p.encode v, handles⟩ =
      if handles.length = (t.slots.get v).length then .ok (t.slots.put v handles)
      else .error (.protobufDecodeError none) := by
  by_cases hlen : handles.length = (t.slots.get v).length
  · have htake : handles.take (t.slots.get v).length = handles := List.take_of_length_le hlen.le
    simp [decode, hp, injectHandles_eq, hlen, htake, Except.map]
  · simp [decode, hp, injectHandles_eq, hlen, Except.map]

theorem Prost.roundTrip {t : Ty} {p : Prost t} (hp : ∀ v, p.decode (p.encode v) = .ok v) :
    p.codec.RoundTrip t.slots where
  lawful := t.lawful
  encode_decode v := by
    refine ⟨p.encode v, by simp [Prost.codec, Io.encode, extractHandles_eq], fun hs => ?_⟩
    simp only [Prost.codec, decode_encode_bytes hp]
    by_cases hlen : hs.length = (t.slots.get v).length <;> simp [hlen]

theorem Except.exists_map_eq_ok {ε α β : Type} (f : α → β) (x : Except ε α) :
    (∃ w, x.map f = .ok w) ↔ ∃ a, x = .ok a := by
  cases x <;> simp [Except.map]

theorem Codec.RoundTrip.either {L R : Type} {l : Codec L} {r : Codec R} {sl : Slots L Handle}
    {sr : Slots R Handle} (hl : l.RoundTrip sl) (hr : r.RoundTrip sr) : (l.either r).RoundTrip (sl.sum sr) where
  lawful := hl.lawful.sum hr.lawful
  encode_decode v := by
    cases v with
    | inl a =>
      obtain ⟨bytes, henc, hdec⟩ := hl.encode_decode a
      refine ⟨0 :: bytes, by simp [Codec.either, henc, Slots.sum, Except.map], fun hs => ?_⟩
      have hdecode : (l.either r).decode ⟨0 :: bytes, hs⟩ = (l.decode ⟨bytes, hs⟩).map .inl := by
        simp [Codec.either]
      obtain ⟨hiff, hput⟩ := hdec hs
      rw [hdecode, Except.exists_map_eq_ok]
      exact ⟨hiff, fun h => by rw [hput h]; rfl⟩
    | inr b =>
      obtain ⟨bytes, henc, hdec⟩ := hr.encode_decode b
      refine ⟨1 :: bytes, by simp [Codec.either, henc, Slots.sum, Except.map], fun hs => ?_⟩
      have hdecode : (l.either r).decode ⟨1 :: bytes, hs⟩ = (r.decode ⟨bytes, hs⟩).map .inr := by
        simp [Codec.either]
      obtain ⟨hiff, hput⟩ := hdec hs
      rw [hdecode, Except.exists_map_eq_ok]
      exact ⟨hiff, fun h => by rw [hput h]; rfl⟩

theorem Codec.RoundTrip.initWrapper {Init : Type} {i : Codec Init} {s : Slots Init Handle} (hi : i.RoundTrip s) :
    i.initWrapper.RoundTrip (InitWrapper.slots s) where
  lawful := InitWrapper.lawful hi.lawful
  encode_decode w := by
    obtain ⟨bytes, henc, hdec⟩ := hi.encode_decode w.init
    refine ⟨bytes, by simp [Codec.initWrapper, henc, InitWrapper.slots, Except.map], fun hs => ?_⟩
    cases hs with
    | nil => simp [Codec.initWrapper, InitWrapper.slots]
    | cons handle handles =>
      have hdecode : i.initWrapper.decode ⟨bytes, handle :: handles⟩ =
          (i.decode ⟨bytes, handles⟩).map fun init => ⟨init, handle⟩ := rfl
      obtain ⟨hiff, hput⟩ := hdec handles
      simp only [hdecode, Except.exists_map_eq_ok, InitWrapper.slots, List.length_cons, Nat.add_right_cancel_iff]
      exact ⟨hiff, fun h => by rw [hput h]; rfl⟩

/-- The round trip of `oak_io`: a prost message type with `HandleVisit`
round-trips through `Encodable` and `Decodable` with its handle slots in fold
order, when prost decodes what it encodes; `Either` and `InitWrapper`
round-trip whenever their components do. -/
theorem handle_round_trip :
    (∀ (t : Ty) (p : Prost t), (∀ v, p.decode (p.encode v) = .ok v) →
      (∀ v m, encode p v = .ok m → decode p m = .ok v) ∧ p.codec.RoundTrip t.slots) ∧
    (∀ {L R : Type} (l : Codec L) (r : Codec R) (sl : Slots L Handle) (sr : Slots R Handle),
      l.RoundTrip sl → r.RoundTrip sr →
        (∀ v m, (l.either r).encode v = .ok m → (l.either r).decode m = .ok v) ∧
          (l.either r).RoundTrip (sl.sum sr)) ∧
    (∀ {Init : Type} (i : Codec Init) (s : Slots Init Handle), i.RoundTrip s →
      (∀ v m, i.initWrapper.encode v = .ok m → i.initWrapper.decode m = .ok v) ∧
        i.initWrapper.RoundTrip (InitWrapper.slots s)) := by
  refine ⟨fun t p hp => ?_, fun l r sl sr hl hr => ?_, fun i s hi => ?_⟩
  · have h := Prost.roundTrip hp
    exact ⟨fun _ _ he => h.decode_encode he, h⟩
  · have h := hl.either hr
    exact ⟨fun _ _ he => h.decode_encode he, h⟩
  · have h := hi.initWrapper
    exact ⟨fun _ _ he => h.decode_encode he, h⟩

/-- A prost encoding of a lone handle: its eight bytes, little-endian. -/
def handleProst : Prost .handle := ⟨fun (h : Handle) => toLE 8 h.toNat, fun bytes => .ok (UInt64.ofNat (ofLE bytes))⟩

theorem handleProst_decode_encode (h : Handle) : handleProst.decode (handleProst.encode h) = .ok h := by
  simp [handleProst, ofLE_toLE]

theorem handle_round_trip_initWrapper :
    (handleProst.codec.either handleProst.codec).initWrapper.RoundTrip
      (InitWrapper.slots (Ty.handle.slots.sum Ty.handle.slots)) := by
  obtain ⟨hprost, heither, hinit⟩ := handle_round_trip
  have hhandle := (hprost .handle handleProst handleProst_decode_encode).2
  exact (hinit _ _ (heither _ _ _ _ hhandle hhandle).2).2

end Oak.Io
