import Oak.Label
import Oak.Lib.FinmapSum

/-! The state of the Oak `Runtime` (`oak_runtime/src/lib.rs`, `channel.rs`).
Each Node has a label, a downgrading privilege and a table from ABI handles to
channel halves. Each `Channel` has a label, a message queue and the numbers of
live `ChannelHalf` values for each of its ends. Those numbers are kept by the
side effects of `ChannelHalf::new`, `Clone` and `Drop`; dropping the last half
of a channel frees the `Channel` and with it every message still queued, whose
halves are dropped in turn. A channel is named by an allocation id, in the
place of the `Arc<Channel>` pointer of the source. A Node's thread parked in
`wait_on_channels` keeps the read halves the call cloned, so the state records
the parked calls too. -/

namespace Oak

open Oak.Lib

/-- `oak_abi::Handle`. -/
abbrev Handle := UInt64

/-- `NodeId(u64)`, taken from the `next_node_id` counter. -/
abbrev NodeId := Nat

/-- The allocation of one `Channel` object. -/
abbrev ChannelId := Nat

/-- `oak_abi::OakStatus`. -/
inductive OakStatus where
  | oakStatusUnspecified | ok | errBadHandle | errInvalidArgs | errChannelClosed
  | errBufferTooSmall | errHandleSpaceTooSmall | errOutOfRange | errInternal
  | errTerminated | errChannelEmpty | errPermissionDenied
  deriving DecidableEq, Repr

/-- `oak_abi::ChannelReadStatus`. -/
inductive ChannelReadStatus where
  | notReady | readReady | invalidChannel | orphaned | permissionDenied
  deriving DecidableEq, Repr

inductive ChannelHalfDirection where
  | read | write
  deriving DecidableEq, Repr

/-- Whether an operation uses the Node's downgrading privilege. -/
inductive Downgrading where
  | no | yes
  deriving DecidableEq, Repr

/-- A reference to one end of a channel. -/
structure ChannelHalf where
  channel : ChannelId
  direction : ChannelHalfDirection
  deriving DecidableEq, Repr

/-- A message on a channel: bytes and the channel halves it carries. -/
structure Message where
  data : List UInt8
  channels : List ChannelHalf
  deriving DecidableEq, Repr

/-- `oak_io::Message`: a message as a Node sees it, with handles. -/
structure NodeMessage where
  bytes : List UInt8
  handles : List Handle
  deriving DecidableEq, Repr

structure Channel where
  /-- The `VecDeque`, front first. -/
  messages : List Message
  writerCount : Nat
  readerCount : Nat
  label : Label
  deriving DecidableEq, Repr

structure NodeInfo where
  label : Label
  privilege : NodePrivilege
  abiHandles : Finmap (fun _ : Handle => ChannelHalf)

/-- A `wait_on_channels` call whose thread is parked: the handles it was given,
the read halves it cloned from them with their positions (its `readers` and
`reader_pos`), which it holds while parked, and its downgrading. -/
structure ParkedWait where
  readHandles : List Handle
  readers : List (Nat × ChannelHalf)
  downgrade : Downgrading

structure Runtime where
  terminating : Bool
  nextChannelId : Nat
  /-- The live `Channel` objects. -/
  channels : Finmap (fun _ : ChannelId => Channel)
  nodeInfos : Finmap (fun _ : NodeId => NodeInfo)
  nextNodeId : Nat
  /-- The Nodes whose thread is parked in `wait_on_channels`, with the call. -/
  parked : Finmap (fun _ : NodeId => ParkedWait)

namespace Channel

/-- The count of live halves of one end. -/
def count (ch : Channel) : ChannelHalfDirection → Nat
  | .read => ch.readerCount
  | .write => ch.writerCount

/-- `Channel::has_readers`. -/
def hasReaders (ch : Channel) : Bool := ch.readerCount > 0

/-- `Channel::has_writers`. -/
def hasWriters (ch : Channel) : Bool := ch.writerCount > 0

/-- `inc_writer_count` / `inc_reader_count`, chosen by the half's direction as in
`ChannelHalf::new`. -/
def incCount (ch : Channel) : ChannelHalfDirection → Channel
  | .read => { ch with readerCount := ch.readerCount + 1 }
  | .write => { ch with writerCount := ch.writerCount + 1 }

/-- `dec_writer_count` / `dec_reader_count`, as in `ChannelHalf::drop`. -/
def decCount (ch : Channel) : ChannelHalfDirection → Channel
  | .read => { ch with readerCount := ch.readerCount - 1 }
  | .write => { ch with writerCount := ch.writerCount - 1 }

/-- The halves carried by the queued messages. -/
def queuedHalves (ch : Channel) : List ChannelHalf := ch.messages.flatMap Message.channels

@[simp] theorem count_incCount_self (ch : Channel) (d : ChannelHalfDirection) :
    (ch.incCount d).count d = ch.count d + 1 := by
  cases d <;> rfl

@[simp] theorem count_decCount_self (ch : Channel) (d : ChannelHalfDirection) :
    (ch.decCount d).count d = ch.count d - 1 := by
  cases d <;> rfl

theorem count_incCount_ne (ch : Channel) {d e : ChannelHalfDirection} (h : e ≠ d) :
    (ch.incCount d).count e = ch.count e := by
  cases d <;> cases e <;> first | rfl | exact absurd rfl h

theorem count_decCount_ne (ch : Channel) {d e : ChannelHalfDirection} (h : e ≠ d) :
    (ch.decCount d).count e = ch.count e := by
  cases d <;> cases e <;> first | rfl | exact absurd rfl h

theorem count_eq_zero_of_counts {ch : Channel} (h : ch.readerCount = 0 ∧ ch.writerCount = 0)
    (d : ChannelHalfDirection) : ch.count d = 0 := by
  cases d
  · exact h.1
  · exact h.2

@[simp] theorem messages_incCount (ch : Channel) (d : ChannelHalfDirection) :
    (ch.incCount d).messages = ch.messages := by
  cases d <;> rfl

@[simp] theorem messages_decCount (ch : Channel) (d : ChannelHalfDirection) :
    (ch.decCount d).messages = ch.messages := by
  cases d <;> rfl

@[simp] theorem label_incCount (ch : Channel) (d : ChannelHalfDirection) :
    (ch.incCount d).label = ch.label := by
  cases d <;> rfl

@[simp] theorem label_decCount (ch : Channel) (d : ChannelHalfDirection) :
    (ch.decCount d).label = ch.label := by
  cases d <;> rfl

@[simp] theorem queuedHalves_incCount (ch : Channel) (d : ChannelHalfDirection) :
    (ch.incCount d).queuedHalves = ch.queuedHalves := by
  simp [queuedHalves]

@[simp] theorem queuedHalves_decCount (ch : Channel) (d : ChannelHalfDirection) :
    (ch.decCount d).queuedHalves = ch.queuedHalves := by
  simp [queuedHalves]

end Channel

namespace Runtime

/-- The read halves the parked `wait_on_channels` calls hold. -/
def parkedHalves (s : Runtime) : Multiset ChannelHalf :=
  sumVals (fun w : ParkedWait => ((w.readers.map Prod.snd : List ChannelHalf) : Multiset ChannelHalf)) s.parked

/-- Number of halves held by queued messages, over all live channels. -/
def queuedCount (s : Runtime) : Nat := sumVals (fun ch => ch.queuedHalves.length) s.channels

/-- The count side effect of `ChannelHalf::new`, and so of `ChannelHalf::clone`. -/
def halfNew (s : Runtime) (h : ChannelHalf) : Runtime :=
  match s.channels.lookup h.channel with
  | some ch => { s with channels := s.channels.insert h.channel (ch.incCount h.direction) }
  | none => s

/-- `Drop` of a list of `ChannelHalf` values, first to last. A half decrements
the count of its end; when both counts reach zero the last `Arc<Channel>` is
gone, the `Channel` is freed, and the halves carried by its queue are dropped
before the rest of the list. -/
def dropHalves (s : Runtime) : List ChannelHalf → Runtime
  | [] => s
  | h :: rest =>
    match hc : s.channels.lookup h.channel with
    | none => dropHalves s rest
    | some ch =>
      if (ch.decCount h.direction).readerCount = 0 ∧ (ch.decCount h.direction).writerCount = 0 then
        dropHalves { s with channels := s.channels.erase h.channel } (ch.queuedHalves ++ rest)
      else
        dropHalves { s with channels := s.channels.insert h.channel (ch.decCount h.direction) } rest
termination_by pending => s.queuedCount + pending.length
decreasing_by
  · simp
  · have h := sumVals_erase (f := fun ch : Channel => ch.queuedHalves.length) hc
    simp only [queuedCount, List.length_append, List.length_cons] at h ⊢
    omega
  · have h := sumVals_insert_add (f := fun ch : Channel => ch.queuedHalves.length) hc
      (ch.decCount h.direction)
    simp only [queuedCount, Channel.queuedHalves_decCount, List.length_cons] at h ⊢
    omega

end Runtime

end Oak
