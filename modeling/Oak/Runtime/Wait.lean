import Oak.Runtime.Counts
import Oak.Lib.Bytes

/-! What `wait_on_channels` reports. The status vector has one entry per
handle: `InvalidChannel` for a handle that is not a read handle of the Node's
table, and otherwise the `channel_status` of its channel. Translating the
handles leaves the channels as they were but for their reader counts, which no
status reads: a read half is cloned, and a write half is cloned and dropped
again. A pass of the call's loop parks exactly when the Runtime is not
terminating and every one of at least one handle is a read handle whose channel
is `NotReady`; a woken call makes the same pass on the statuses of the state it
is woken in. -/

namespace Oak

open Oak.Lib

/-- A channel with its reader count forgotten. -/
def Channel.withoutReaders (ch : Channel) : Channel := { ch with readerCount := 0 }

@[simp] theorem Channel.withoutReaders_incCount_read (ch : Channel) :
    (ch.incCount .read).withoutReaders = ch.withoutReaders := rfl

namespace Runtime

theorem channelStatus_withoutReaders (info : NodeInfo) (half : ChannelHalf) (ch : Channel) (dg : Downgrading) :
    channelStatus info half ch.withoutReaders dg = channelStatus info half ch dg := rfl

theorem channelStatus_read {info : NodeInfo} {half : ChannelHalf} (ch : Channel) (dg : Downgrading)
    (hd : half.direction = .read) : ∃ st, channelStatus info half ch dg = .ok st ∧ st ≠ .invalidChannel := by
  unfold channelStatus
  simp only [hd]
  split
  · exact ⟨.permissionDenied, rfl, by decide⟩
  · split
    · exact ⟨.readReady, rfl, by decide⟩
    · split
      · exact ⟨.orphaned, rfl, by decide⟩
      · exact ⟨.notReady, rfl, by decide⟩

/-- The status `readers_statuses` gives one half. -/
def halfStatus (s : Runtime) (info : NodeInfo) (downgrade : Downgrading) (half : ChannelHalf) :
    ChannelReadStatus :=
  match s.channels.lookup half.channel with
  | some ch =>
    match channelStatus info half ch downgrade with
    | .ok st => st
    | .error _ => .invalidChannel
  | none => .invalidChannel

/-- The status reported for a handle. -/
def readStatus (s : Runtime) (info : NodeInfo) (downgrade : Downgrading) (handle : Handle) :
    ChannelReadStatus :=
  ((readHalf info handle).map (s.halfStatus info downgrade)).getD .invalidChannel

theorem readersStatuses_eq (s : Runtime) (info : NodeInfo) (readers : List ChannelHalf) (dg : Downgrading) :
    s.readersStatuses info readers dg = readers.map (s.halfStatus info dg) := rfl

/-! ### Translating the handles -/

theorem abiToReadHalf_error_eq {s s' : Runtime} {P : Multiset ChannelHalf} {n : NodeId} {info : NodeInfo}
    (hs : s.Counted P) (hi : s.nodeInfos.lookup n = some info) {handle : Handle} {e : OakStatus}
    (h : abiToReadHalf s info handle = (s', .error e)) : s' = s := by
  obtain ⟨-, rfl | ⟨half, hl, hd, rfl⟩⟩ := abiToReadHalf_error h
  · rfl
  · have hmem := NodeInfo.mem_tableHalves hl
    obtain ⟨ch, hch⟩ := Finmap.mem_iff.1 (hs.live_of_table hi hmem)
    have hw : 0 < ch.writerCount := by
      have hcount := hs.count_eq half.channel ch .write hch
      have hpos : 0 < (s.halves + P).count half :=
        Multiset.count_pos.2 (Multiset.mem_add.2 (Or.inl (Multiset.mem_of_le (tableHalves_le_halves hi) hmem)))
      have hhalf : half = ⟨half.channel, .write⟩ := by
        cases half
        simp_all
      rw [hhalf, ← hcount] at hpos
      exact hpos
    have hnew : s.halfNew half = { s with channels := s.channels.insert half.channel (ch.incCount .write) } := by
      simp [halfNew, hch, hd]
    have hback : (ch.incCount .write).decCount .write = ch := by
      cases ch
      rfl
    have hlook : ({ s with channels := s.channels.insert half.channel (ch.incCount .write) } : Runtime).channels.lookup
        half.channel = some (ch.incCount .write) := by simp
    rw [hnew, dropHalves_cons_keep [] hlook (by rw [hd, hback]; omega), dropHalves_nil, hd, hback,
      Finmap.insert_insert, insert_lookup_self hch]

theorem collectReaders_channels {s : Runtime} {P : Multiset ChannelHalf} {n : NodeId} {info : NodeInfo}
    (hs : s.Counted P) (hi : s.nodeInfos.lookup n = some info) (i : Nat) (handles : List Handle) (c : ChannelId) :
    ((collectReaders s info i handles).1.channels.lookup c).map Channel.withoutReaders =
      (s.channels.lookup c).map Channel.withoutReaders := by
  induction handles generalizing s i P with
  | nil => rfl
  | cons handle handles ih =>
    rw [collectReaders]
    split
    · next s₁ half h₁ =>
      obtain ⟨hl, hd, rfl⟩ := abiToReadHalf_ok h₁
      have hc := hs.halfNew (hs.live_of_table hi (NodeInfo.mem_tableHalves hl))
      rw [ih hc (by rw [halfNew_nodeInfos]; exact hi), lookup_halfNew, Option.map_map]
      congr 1
      funext ch
      by_cases hcc : c = half.channel
      · simp [hcc, hd]
      · simp [hcc]
    · next s₁ e h₁ =>
      obtain rfl := abiToReadHalf_error_eq hs hi h₁
      exact ih hs hi (i + 1)

theorem halfStatus_collectReaders {s : Runtime} {P : Multiset ChannelHalf} {n : NodeId} {info : NodeInfo}
    (hs : s.Counted P) (hi : s.nodeInfos.lookup n = some info) (i : Nat) (handles : List Handle)
    (dg : Downgrading) (half : ChannelHalf) :
    (collectReaders s info i handles).1.halfStatus info dg half = s.halfStatus info dg half := by
  have hc := collectReaders_channels hs hi i handles half.channel
  unfold halfStatus
  rcases h₁ : (collectReaders s info i handles).1.channels.lookup half.channel with _ | ch₁ <;>
    rcases h₀ : s.channels.lookup half.channel with _ | ch₀
  · rfl
  · simp [h₁, h₀] at hc
  · simp [h₁, h₀] at hc
  · simp only [h₁, h₀, Option.map_some, Option.some.injEq] at hc
    dsimp only
    rw [← channelStatus_withoutReaders info half ch₁, hc, channelStatus_withoutReaders]

/-! ### The status vector -/

theorem readers_zip (info : NodeInfo) (g : ChannelHalf → ChannelReadStatus) (i : Nat) (handles : List Handle) :
    ((((handles.map (readHalf info)).zipIdx i).filterMap fun p => p.1.map ((p.2, ·))).map Prod.fst).zip
        (((((handles.map (readHalf info)).zipIdx i).filterMap fun p => p.1.map ((p.2, ·))).map Prod.snd).map g) =
      ((handles.map fun h => (readHalf info h).map g).zipIdx i).filterMap fun p => p.1.map ((p.2, ·)) := by
  induction handles generalizing i with
  | nil => rfl
  | cons handle handles ih =>
    have ih' := ih (i + 1)
    simp only [List.map_map] at ih'
    cases hr : readHalf info handle <;> simp [List.zipIdx_cons, hr, ih']

theorem readHalf_eq_none {info : NodeInfo} {handle : Handle} :
    readHalf info handle = none ↔ ∀ half, info.abiHandles.lookup handle = some half → half.direction ≠ .read := by
  simp only [Option.eq_none_iff_forall_ne_some, ne_eq, readHalf_eq_some, not_and]

theorem readStatus_of_readHalf (s : Runtime) {info : NodeInfo} (dg : Downgrading) {handle : Handle}
    {half : ChannelHalf} (h : readHalf info handle = some half) :
    s.readStatus info dg handle = s.halfStatus info dg half := by
  simp [readStatus, h]

theorem halfStatus_of_table {s : Runtime} {P : Multiset ChannelHalf} {n : NodeId} {info : NodeInfo}
    (hs : s.Counted P) (hn : s.nodeInfos.lookup n = some info) {handle : Handle} {half : ChannelHalf}
    (hl : info.abiHandles.lookup handle = some half) (hd : half.direction = .read) (dg : Downgrading) :
    ∃ ch, s.channels.lookup half.channel = some ch ∧
      channelStatus info half ch dg = .ok (s.halfStatus info dg half) ∧ s.halfStatus info dg half ≠ .invalidChannel := by
  obtain ⟨ch, hch⟩ := Finmap.mem_iff.1 (hs.live_of_table hn (NodeInfo.mem_tableHalves hl))
  obtain ⟨st, hst, hne⟩ := @channelStatus_read info half ch dg hd
  have heq : s.halfStatus info dg half = st := by simp [halfStatus, hch, hst]
  rw [heq]
  exact ⟨ch, hch, hst, hne⟩

theorem readStatus_eq_invalidChannel_iff {s : Runtime} {P : Multiset ChannelHalf} {n : NodeId} {info : NodeInfo}
    (hs : s.Counted P) (hn : s.nodeInfos.lookup n = some info) (dg : Downgrading) (handle : Handle) :
    s.readStatus info dg handle = .invalidChannel ↔ readHalf info handle = none := by
  cases hr : readHalf info handle with
  | none => simp [readStatus, hr]
  | some half =>
    obtain ⟨hl, hd⟩ := readHalf_eq_some.1 hr
    obtain ⟨-, -, -, hne⟩ := halfStatus_of_table hs hn hl hd dg
    simp [readStatus_of_readHalf s dg hr, hne]

theorem readStatus_eq_notReady {s : Runtime} {info : NodeInfo} {dg : Downgrading} {handle : Handle} :
    s.readStatus info dg handle = .notReady ↔
      ∃ half, readHalf info handle = some half ∧ s.halfStatus info dg half = .notReady := by
  unfold readStatus
  cases readHalf info handle <;> simp

theorem all_notReady_iff (s : Runtime) (info : NodeInfo) (dg : Downgrading) (handles : List Handle) :
    (((handles.filterMap (readHalf info)).map (s.halfStatus info dg)).all (· == .notReady) = true ∧
        (handles.filterMap (readHalf info)).length = handles.length) ↔
      ∀ h ∈ handles, s.readStatus info dg h = .notReady := by
  simp only [List.all_eq_true, List.mem_map, List.mem_filterMap, beq_iff_eq, List.filterMap_length_eq_length,
    readStatus_eq_notReady]
  constructor
  · rintro ⟨hall, hsome⟩ h hh
    obtain ⟨half, hhalf⟩ := Option.isSome_iff_exists.1 (hsome h hh)
    exact ⟨half, hhalf, hall _ ⟨half, ⟨h, hh, hhalf⟩, rfl⟩⟩
  · intro hall
    refine ⟨?_, fun h hh => ?_⟩
    · rintro x ⟨half, ⟨h, hh, hhalf⟩, rfl⟩
      obtain ⟨half', hhalf', hst⟩ := hall h hh
      rw [hhalf] at hhalf'
      cases hhalf'
      exact hst
    · obtain ⟨half, hhalf, -⟩ := hall h hh
      simp [hhalf]

/-- What one pass of `wait_on_channels`'s loop answers, read off the statuses of
the handles in `s`: `ErrTerminated` when the Runtime is terminating, nothing when
the call parks, and else the status of each handle. -/
def waitAnswer (s : Runtime) (info : NodeInfo) (handles : List Handle) (dg : Downgrading) :
    Option (Except OakStatus (List ChannelReadStatus)) :=
  if s.terminating then some (.error .errTerminated)
  else if handles ≠ [] ∧ handles.all (fun h => s.readStatus info dg h == .notReady) then none
  else some (.ok (handles.map (s.readStatus info dg)))

/-- Scattering the readers' statuses back through their positions gives each
handle its status. -/
theorem scatter_readersStatuses (t : Runtime) (info : NodeInfo) (dg : Downgrading) {handles : List Handle}
    {readers : List (Nat × ChannelHalf)}
    (hw : readers = ((handles.map (readHalf info)).zipIdx 0).filterMap fun p => p.1.map ((p.2, ·))) :
    ((readers.map Prod.fst).zip (t.readersStatuses info (readers.map Prod.snd) dg)).foldl
        (fun acc (p : Nat × ChannelReadStatus) => acc.set p.1 p.2) (List.replicate handles.length .invalidChannel) =
      handles.map (t.readStatus info dg) := by
  rw [readersStatuses_eq, hw, readers_zip]
  have hlen : handles.length = (handles.map fun h => (readHalf info h).map (t.halfStatus info dg)).length := by
    simp
  rw [hlen, foldl_set_filterMap_zipIdx, List.map_map]
  rfl

theorem readersStatuses_all_notReady_iff (t : Runtime) (info : NodeInfo) (dg : Downgrading) {handles : List Handle}
    {readers : List (Nat × ChannelHalf)}
    (hw : readers = ((handles.map (readHalf info)).zipIdx 0).filterMap fun p => p.1.map ((p.2, ·))) :
    ((t.readersStatuses info (readers.map Prod.snd) dg).all (· == .notReady) = true ∧
      readers.length = handles.length) ↔ ∀ h ∈ handles, t.readStatus info dg h = .notReady := by
  have hlen : readers.length = (handles.filterMap (readHalf info)).length := by
    rw [hw, ← readers_snd info 0 handles, List.length_map]
  rw [hlen, readersStatuses_eq, hw, readers_snd]
  exact all_notReady_iff t info dg handles

/-- A pass of the loop answers what `waitAnswer` says, in the state it runs in,
whenever its readers are the read halves its handles name, at their positions.
The statuses are scattered back to their handles' places by `reader_pos`. -/
theorem waitLoop_snd (t : Runtime) (n : NodeId) (info : NodeInfo) (w : ParkedWait)
    (hw : w.readers = ((w.readHandles.map (readHalf info)).zipIdx 0).filterMap fun p => p.1.map ((p.2, ·))) :
    (t.waitLoop n info w).2 = t.waitAnswer info w.readHandles w.downgrade := by
  obtain ⟨handles, readers, dg⟩ := w
  dsimp only at hw ⊢
  -- the loop's test for returning is the negation of `waitAnswer`'s test for parking
  have hbool : ((!(t.readersStatuses info (readers.map Prod.snd) dg).all (· == .notReady)) || handles.isEmpty ||
      readers.length != handles.length) = true ↔
        ¬(handles ≠ [] ∧ handles.all (fun h => t.readStatus info dg h == .notReady)) := by
    simp only [List.all_eq_true, beq_iff_eq]
    rw [← readersStatuses_all_notReady_iff t info dg hw]
    simp only [Bool.or_eq_true, Bool.not_eq_true', Bool.eq_false_iff, List.isEmpty_iff, bne_iff_ne, ne_eq]
    tauto
  unfold waitLoop waitAnswer
  by_cases hterm : t.terminating = true
  · simp [hterm]
  · simp only [hterm, Bool.false_eq_true, if_false, scatter_readersStatuses t info dg hw]
    by_cases hcond : handles ≠ [] ∧ handles.all (fun h => t.readStatus info dg h == .notReady)
    · rw [if_neg (by rw [hbool]; exact not_not.2 hcond), if_pos hcond]
    · rw [if_pos (hbool.2 hcond), if_neg hcond]

theorem waitAnswer_collectReaders {s : Runtime} {P : Multiset ChannelHalf} {n : NodeId} {info : NodeInfo}
    (hs : s.Counted P) (hn : s.nodeInfos.lookup n = some info) (handles : List Handle) (dg : Downgrading) :
    (collectReaders s info 0 handles).1.waitAnswer info handles dg = s.waitAnswer info handles dg := by
  have hterm := (collectReaders_spec hs hn 0 handles).2.terminating
  have hfun : (collectReaders s info 0 handles).1.readStatus info dg = s.readStatus info dg := by
    have hhalf : (collectReaders s info 0 handles).1.halfStatus info dg = s.halfStatus info dg :=
      funext (halfStatus_collectReaders hs hn 0 handles dg)
    funext handle
    simp only [readStatus, hhalf]
  simp only [waitAnswer, hterm, hfun]

theorem waitOnChannels_snd {s : Runtime} {P : Multiset ChannelHalf} {n : NodeId} {info : NodeInfo}
    (hs : s.Counted P) (hn : s.nodeInfos.lookup n = some info) (handles : List Handle) (dg : Downgrading) :
    (s.waitOnChannels n handles dg).map Prod.snd = some (s.waitAnswer info handles dg) := by
  simp only [waitOnChannels, hn, Option.map_some]
  rw [waitLoop_snd _ n info _ (collectReaders_snd s info 0 handles)]
  exact congrArg some (waitAnswer_collectReaders hs hn handles dg)

theorem unpark_snd {s : Runtime} {n : NodeId} {w : ParkedWait} (hp : s.ParkedHeld)
    (hw : s.parked.lookup n = some w) :
    ∃ info, s.nodeInfos.lookup n = some info ∧
      (s.unpark n).map Prod.snd = some (s.waitAnswer info w.readHandles w.downgrade) := by
  obtain ⟨info, hi, hr⟩ := hp n w hw
  refine ⟨info, hi, ?_⟩
  simp only [unpark, hw, hi, Option.map_some]
  -- the woken state differs from `s` only in its parked calls, which no status reads
  exact congrArg some (waitLoop_snd _ n info w hr)

/-- What a pass `pass` of `wait_on_channels` reports to a Node whose table is
`info`, on `handles`: when it returns `Ok`, the status of each handle in its place;
a handle's status is `InvalidChannel` exactly when it is not a read handle of the
table, and otherwise what `channel_status` answers on its channel. It returns `Ok`
when the Runtime is not terminating and some handle is not `NotReady` (or there is
none), `ErrTerminated` when the Runtime is terminating, and parks otherwise. -/
structure WaitReports (s : Runtime) (info : NodeInfo) (handles : List Handle) (dg : Downgrading)
    (pass : Option (Runtime × Option (Except OakStatus (List ChannelReadStatus)))) : Prop where
  statuses : ∀ s' st, pass = some (s', some (.ok st)) → st = handles.map (s.readStatus info dg)
  invalid_iff : ∀ handle, s.readStatus info dg handle = .invalidChannel ↔
    ∀ half, info.abiHandles.lookup handle = some half → half.direction ≠ .read
  status_read : ∀ handle half, info.abiHandles.lookup handle = some half → half.direction = .read →
    ∃ ch, s.channels.lookup half.channel = some ch ∧ channelStatus info half ch dg = .ok (s.readStatus info dg handle)
  ok_iff : (∃ s' st, pass = some (s', some (.ok st))) ↔
    s.terminating = false ∧ (handles = [] ∨ ∃ h ∈ handles, s.readStatus info dg h ≠ .notReady)
  terminated_iff : (∃ s', pass = some (s', some (.error .errTerminated))) ↔ s.terminating = true
  parks_iff : (∃ s', pass = some (s', none)) ↔
    s.terminating = false ∧ handles ≠ [] ∧ ∀ h ∈ handles, s.readStatus info dg h = .notReady

/-- The three answers of a pass. -/
theorem waitAnswer_cases (s : Runtime) (info : NodeInfo) (handles : List Handle) (dg : Downgrading) :
    s.terminating = true ∧ s.waitAnswer info handles dg = some (.error .errTerminated) ∨
    s.terminating = false ∧ (handles ≠ [] ∧ ∀ h ∈ handles, s.readStatus info dg h = .notReady) ∧
      s.waitAnswer info handles dg = none ∨
    s.terminating = false ∧ (handles = [] ∨ ∃ h ∈ handles, s.readStatus info dg h ≠ .notReady) ∧
      s.waitAnswer info handles dg = some (.ok (handles.map (s.readStatus info dg))) := by
  have hcond : (handles ≠ [] ∧ handles.all (fun h => s.readStatus info dg h == .notReady)) ↔
      handles ≠ [] ∧ ∀ h ∈ handles, s.readStatus info dg h = .notReady := by
    simp only [List.all_eq_true, beq_iff_eq]
  unfold waitAnswer
  cases s.terminating
  · by_cases hp : handles ≠ [] ∧ handles.all (fun h => s.readStatus info dg h == .notReady)
    · exact .inr (.inl ⟨rfl, hcond.1 hp, if_pos hp⟩)
    · refine .inr (.inr ⟨rfl, ?_, if_neg hp⟩)
      rw [hcond] at hp
      simpa only [ne_eq, not_and_or, not_not, not_forall, exists_prop] using hp
  · exact .inl ⟨rfl, rfl⟩

theorem WaitReports.of_snd {s : Runtime} {P : Multiset ChannelHalf} {n : NodeId} {info : NodeInfo}
    (hs : s.Counted P) (hn : s.nodeInfos.lookup n = some info) {handles : List Handle} {dg : Downgrading}
    {pass : Option (Runtime × Option (Except OakStatus (List ChannelReadStatus)))}
    (h : pass.map Prod.snd = some (s.waitAnswer info handles dg)) : s.WaitReports info handles dg pass := by
  obtain ⟨⟨s₁, r⟩, rfl, hr⟩ := Option.map_eq_some_iff.1 h
  obtain rfl : r = s.waitAnswer info handles dg := hr
  refine ⟨?_, fun handle => (readStatus_eq_invalidChannel_iff hs hn dg handle).trans readHalf_eq_none,
    fun handle half hl hd => ?_, ?_, ?_, ?_⟩
  rotate_left
  · obtain ⟨ch, hch, hst, -⟩ := halfStatus_of_table hs hn hl hd dg
    rw [readStatus_of_readHalf s dg (readHalf_eq_some.2 ⟨hl, hd⟩)]
    exact ⟨ch, hch, hst⟩
  -- the rest reads the pass's answer off its three cases
  all_goals
    rcases waitAnswer_cases s info handles dg with ⟨ht, he⟩ | ⟨ht, hc, he⟩ | ⟨ht, hc, he⟩ <;>
      simp_all [ne_eq] <;> tauto

/-- In every state a run of the `Runtime` reaches, and for every Node of it,
`wait_on_channels` reports as `WaitReports` says: on the call's first pass, and on
each pass after its parked call is woken, with the statuses of the state it is
woken in. -/
theorem wait_on_channels_statuses {tr : List Event} {s : Runtime} (hrun : Run Runtime.step create tr s)
    {n : NodeId} {info : NodeInfo} (hn : s.nodeInfos.lookup n = some info) :
    (∀ handles dg, s.WaitReports info handles dg (s.waitOnChannels n handles dg)) ∧
      ∀ w, s.parked.lookup n = some w → s.WaitReports info w.readHandles w.downgrade (s.unpark n) := by
  have hs := WellFormed.of_run hrun
  refine ⟨fun handles dg => .of_snd hs.counted hn (waitOnChannels_snd hs.counted hn handles dg), fun w hw => ?_⟩
  obtain ⟨info', hi, hsnd⟩ := unpark_snd hs.parked hw
  obtain rfl : info' = info := Option.some.inj (hi.symm.trans hn)
  exact .of_snd hs.counted hn hsnd

/-- Node 0 of `handoff` waits on its read handle while the channel is empty and
parks; Node 1 writes, and the woken call reports `ReadReady`. -/
theorem wait_on_channels_statuses_handoff :
    ∃ tr s info w, Run Runtime.step create tr s ∧ s.nodeInfos.lookup 0 = some info ∧
      s.parked.lookup 0 = some w ∧ w.readHandles = [2] ∧
      s.WaitReports info w.readHandles w.downgrade (s.unpark 0) ∧
      (s.unpark 0).map Prod.snd = some (some (.ok [.readReady])) := by
  obtain ⟨⟨tr, s⟩, he⟩ := Option.isSome_iff_exists.1
    (by decide +kernel : (runFrom Runtime.step create (handoff.take 6)).isSome)
  have hinfo : (runFrom Runtime.step create (handoff.take 6)).map (fun p => (p.2.nodeInfos.lookup 0).isSome) =
      some true := by decide +kernel
  have hpark : (runFrom Runtime.step create (handoff.take 6)).map
      (fun p => (p.2.parked.lookup 0).map ParkedWait.readHandles) = some (some [2]) := by decide +kernel
  have hwake : (runFrom Runtime.step create (handoff.take 6)).map (fun p => (p.2.unpark 0).map Prod.snd) =
      some (some (some (.ok [.readReady]))) := by decide +kernel
  rw [he, Option.map_some, Option.some.injEq] at hinfo hpark hwake
  obtain ⟨info, hi⟩ := Option.isSome_iff_exists.1 hinfo
  obtain ⟨w, hw, hhs⟩ := Option.map_eq_some_iff.1 hpark
  have hr := Run.of_runFrom_init he
  exact ⟨tr, s, info, w, hr, hi, hw, hhs, (wait_on_channels_statuses hr hi).2 w hw, hwake⟩

/-- A terminating Runtime returns `ErrTerminated` at once, without parking,
also on a read handle whose channel is `NotReady`: Node 0 creates a channel,
keeps both handles, and the Runtime stops. -/
theorem wait_on_channels_terminating :
    ∃ tr s info, Run Runtime.step create tr s ∧ s.nodeInfos.lookup 0 = some info ∧
      readHalf info 2 ≠ none ∧ s.readStatus info .no 2 = .notReady ∧
      ∃ s', s.waitOnChannels 0 [2] .no = some (s', some (.error .errTerminated)) := by
  have h₁ := (Run.nil : Run Runtime.step create [] create).snoc
    (a := .channelCreate 0 Label.publicUntrusted .no 1 2) rfl
  have h₂ := h₁.snoc (a := .stop) rfl
  refine ⟨_, _, _, h₂, by simp; rfl, by decide, by decide, ?_⟩
  exact ⟨_, rfl⟩

end Runtime

end Oak
