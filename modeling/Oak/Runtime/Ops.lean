import Oak.Runtime.State

/-! The operations of the `Runtime` that Nodes reach through the ABI
(`oak_runtime/src/lib.rs`), as functions of the state. Each returns the new
state with the operation's result, or `none` where the source panics (an
invalid `node_id`) or where the environment's choice cannot occur (a handle
candidate that `new_abi_handle`'s loop would reject). A `wait_on_channels` that
parks its thread returns no result yet, and its call is recorded as parked. Clones of channel halves are counted
when made and dropped where the source drops them, so an operation that fails
after cloning undoes its clones by dropping them. -/

namespace Oak

/-- `NodeIsolation` of a created Node instance. -/
inductive NodeIsolation where
  | sandboxed | uncontrolled
  deriving DecidableEq, Repr

/-- `NodeReadStatus`. -/
inductive NodeReadStatus where
  | success (msg : NodeMessage)
  | needsCapacity (bytes handles : Nat)
  deriving DecidableEq, Repr

namespace Runtime

/-! ### Label checks -/

/-- `Runtime::get_effective_label`. -/
def effectiveLabel (info : NodeInfo) (initialLabel : Label) : Downgrading → Label
  | .yes => info.privilege.downgradeLabel initialLabel
  | .no => initialLabel

/-- `Runtime::validate_can_read_from_label`. -/
def validateCanReadFromLabel (info : NodeInfo) (sourceLabel : Label) (downgrade : Downgrading) :
    Except OakStatus Unit :=
  if (effectiveLabel info sourceLabel downgrade).flowsTo info.label then .ok ()
  else .error .errPermissionDenied

/-- `Runtime::validate_can_write_to_label`. -/
def validateCanWriteToLabel (info : NodeInfo) (targetLabel : Label) (downgrade : Downgrading) :
    Except OakStatus Unit :=
  if (effectiveLabel info info.label downgrade).flowsTo targetLabel then .ok ()
  else .error .errPermissionDenied

/-! ### Handle tables -/

/-- `Runtime::new_abi_handle`. The source draws random candidates until one is
free in the Node's table; `handle` is the candidate it accepted, and a taken
one is not a possible outcome. -/
def newAbiHandle (s : Runtime) (nodeId : NodeId) (half : ChannelHalf) (handle : Handle) :
    Option Runtime :=
  match s.nodeInfos.lookup nodeId with
  | some info =>
    if handle ∈ info.abiHandles then none
    else
      let info' : NodeInfo := { info with abiHandles := info.abiHandles.insert handle half }
      some { s with nodeInfos := s.nodeInfos.insert nodeId info' }
  | none => none

/-- `Runtime::abi_to_half`: the half `handle` maps to, cloned. -/
def abiToHalf (s : Runtime) (info : NodeInfo) (handle : Handle) :
    Runtime × Except OakStatus ChannelHalf :=
  match info.abiHandles.lookup handle with
  | some half => (s.halfNew half, .ok half)
  | none => (s, .error .errBadHandle)

/-- `Runtime::abi_to_read_half`: a write half is cloned and dropped again. -/
def abiToReadHalf (s : Runtime) (info : NodeInfo) (handle : Handle) :
    Runtime × Except OakStatus ChannelHalf :=
  match abiToHalf s info handle with
  | (s', .ok half) =>
    match half.direction with
    | .read => (s', .ok half)
    | .write => (s'.dropHalves [half], .error .errBadHandle)
  | (s', .error e) => (s', .error e)

/-- `Runtime::abi_to_write_half`: a read half is cloned and dropped again. -/
def abiToWriteHalf (s : Runtime) (info : NodeInfo) (handle : Handle) :
    Runtime × Except OakStatus ChannelHalf :=
  match abiToHalf s info handle with
  | (s', .ok half) =>
    match half.direction with
    | .read => (s'.dropHalves [half], .error .errBadHandle)
    | .write => (s', .ok half)
  | (s', .error e) => (s', .error e)

/-- The `collect::<Result<Vec<ChannelHalf>, _>>` of `message_from`: handles are
translated in turn, and at the first bad one the halves collected so far are
dropped. -/
def abiToHalves (s : Runtime) (info : NodeInfo) (acc : List ChannelHalf) :
    List Handle → Runtime × Except OakStatus (List ChannelHalf)
  | [] => (s, .ok acc)
  | handle :: handles =>
    match abiToHalf s info handle with
    | (s', .ok half) => abiToHalves s' info (acc ++ [half]) handles
    | (s', .error e) => (s'.dropHalves acc, .error e)

/-- `Runtime::message_from`. -/
def messageFrom (s : Runtime) (info : NodeInfo) (nodeMsg : NodeMessage) :
    Runtime × Except OakStatus Message :=
  match abiToHalves s info [] nodeMsg.handles with
  | (s', .ok channels) => (s', .ok ⟨nodeMsg.bytes, channels⟩)
  | (s', .error e) => (s', .error e)

/-- The `map` of `node_message_from`: each half is cloned into a new handle. -/
def newAbiHandles (s : Runtime) (nodeId : NodeId) :
    List ChannelHalf → List Handle → Option Runtime
  | [], [] => some s
  | half :: halves, handle :: handles =>
    match (s.halfNew half).newAbiHandle nodeId half handle with
    | some s' => newAbiHandles s' nodeId halves handles
    | none => none
  | _, _ => none

/-- `Runtime::node_message_from`: the message's halves get new handles in the
Node's table, and the message itself, with its own halves, is dropped. -/
def nodeMessageFrom (s : Runtime) (nodeId : NodeId) (msg : Message) (handles : List Handle) :
    Option (Runtime × NodeMessage) :=
  match s.newAbiHandles nodeId msg.channels handles with
  | some s' => some (s'.dropHalves msg.channels, ⟨msg.data, handles⟩)
  | none => none

/-! ### Operations -/

/-- `Runtime::channel_create`: a new channel, with one handle for each end in
the calling Node's table. -/
def channelCreate (s : Runtime) (nodeId : NodeId) (label : Label) (downgrade : Downgrading)
    (writeHandle readHandle : Handle) : Option (Runtime × Except OakStatus (Handle × Handle)) :=
  if s.terminating then some (s, .error .errTerminated) else
  match s.nodeInfos.lookup nodeId with
  | none => none
  | some info =>
    match validateCanWriteToLabel info Label.publicUntrusted downgrade with
    | .error e => some (s, .error e)
    | .ok () =>
      match validateCanWriteToLabel info label downgrade with
      | .error e => some (s, .error e)
      | .ok () =>
        let channelId := s.nextChannelId
        let s₁ : Runtime := { s with
          nextChannelId := s.nextChannelId + 1
          channels := s.channels.insert channelId ⟨[], 0, 0, label⟩ }
        let s₂ := (s₁.halfNew ⟨channelId, .write⟩).halfNew ⟨channelId, .read⟩
        match s₂.newAbiHandle nodeId ⟨channelId, .write⟩ writeHandle with
        | none => none
        | some s₃ =>
          match s₃.newAbiHandle nodeId ⟨channelId, .read⟩ readHandle with
          | none => none
          | some s₄ => some (s₄, .ok (writeHandle, readHandle))

/-- `Runtime::handle_clone`. -/
def handleClone (s : Runtime) (nodeId : NodeId) (handle newHandle : Handle) :
    Option (Runtime × Except OakStatus Handle) :=
  if s.terminating then some (s, .error .errTerminated) else
  match s.nodeInfos.lookup nodeId with
  | none => none
  | some info =>
    match abiToHalf s info handle with
    | (s', .error e) => some (s', .error e)
    | (s', .ok half) =>
      match s'.newAbiHandle nodeId half newHandle with
      | some s'' => some (s'', .ok newHandle)
      | none => none

/-- `Runtime::channel_close` (through `drop_abi_handle`): the handle leaves the
table and its half is dropped. -/
def channelClose (s : Runtime) (nodeId : NodeId) (handle : Handle) :
    Option (Runtime × Except OakStatus Unit) :=
  match s.nodeInfos.lookup nodeId with
  | none => none
  | some info =>
    match info.abiHandles.lookup handle with
    | none => some (s, .error .errBadHandle)
    | some half =>
      let info' : NodeInfo := { info with abiHandles := info.abiHandles.erase handle }
      let s' : Runtime := { s with nodeInfos := s.nodeInfos.insert nodeId info' }
      some (s'.dropHalves [half], .ok ())

/-- `Runtime::channel_write`. -/
def channelWrite (s : Runtime) (nodeId : NodeId) (writeHandle : Handle) (nodeMsg : NodeMessage)
    (downgrade : Downgrading) : Option (Runtime × Except OakStatus Unit) :=
  match s.nodeInfos.lookup nodeId with
  | none => none
  | some info =>
    match abiToWriteHalf s info writeHandle with
    | (s₁, .error e) => some (s₁, .error e)
    | (s₁, .ok half) =>
      match s₁.channels.lookup half.channel with
      | none => none
      | some ch =>
        match validateCanWriteToLabel info ch.label downgrade with
        | .error e => some (s₁.dropHalves [half], .error e)
        | .ok () =>
          match messageFrom s₁ info nodeMsg with
          | (s₂, .error e) => some (s₂.dropHalves [half], .error e)
          | (s₂, .ok msg) =>
            match s₂.channels.lookup half.channel with
            | none => none
            | some ch₂ =>
              if ch₂.hasReaders then
                let ch₃ : Channel := { ch₂ with messages := ch₂.messages ++ [msg] }
                let s₃ : Runtime := { s₂ with channels := s₂.channels.insert half.channel ch₃ }
                some (s₃.dropHalves [half], .ok ())
              else
                -- the message is dropped with the closure, then `half`
                some ((s₂.dropHalves msg.channels).dropHalves [half], .error .errChannelClosed)

/-- `Runtime::channel_read`. -/
def channelRead (s : Runtime) (nodeId : NodeId) (readHandle : Handle) (downgrade : Downgrading)
    (handles : List Handle) : Option (Runtime × Except OakStatus (Option NodeMessage)) :=
  match s.nodeInfos.lookup nodeId with
  | none => none
  | some info =>
    match abiToReadHalf s info readHandle with
    | (s₁, .error e) => some (s₁, .error e)
    | (s₁, .ok half) =>
      match s₁.channels.lookup half.channel with
      | none => none
      | some ch =>
        match validateCanReadFromLabel info ch.label downgrade with
        | .error e => some (s₁.dropHalves [half], .error e)
        | .ok () =>
          match ch.messages with
          | [] =>
            if ch.hasWriters then some (s₁.dropHalves [half], .ok none)
            else some (s₁.dropHalves [half], .error .errChannelClosed)
          | m :: rest =>
            let ch₂ : Channel := { ch with messages := rest }
            let s₂ : Runtime := { s₁ with channels := s₁.channels.insert half.channel ch₂ }
            match s₂.nodeMessageFrom nodeId m handles with
            | none => none
            | some (s₃, nodeMsg) => some (s₃.dropHalves [half], .ok (some nodeMsg))

/-- `Runtime::channel_try_read_message`. -/
def channelTryReadMessage (s : Runtime) (nodeId : NodeId) (handle : Handle)
    (bytesCapacity handlesCapacity : Nat) (downgrade : Downgrading) (handles : List Handle) :
    Option (Runtime × Except OakStatus (Option NodeReadStatus)) :=
  match s.nodeInfos.lookup nodeId with
  | none => none
  | some info =>
    match abiToReadHalf s info handle with
    | (s₁, .error e) => some (s₁, .error e)
    | (s₁, .ok half) =>
      match s₁.channels.lookup half.channel with
      | none => none
      | some ch =>
        match validateCanReadFromLabel info ch.label downgrade with
        | .error e => some (s₁.dropHalves [half], .error e)
        | .ok () =>
          match ch.messages with
          | [] =>
            if ch.hasWriters then some (s₁.dropHalves [half], .ok none)
            else some (s₁.dropHalves [half], .error .errChannelClosed)
          | front :: rest =>
            if front.data.length > bytesCapacity ∨ front.channels.length > handlesCapacity then
              some (s₁.dropHalves [half],
                .ok (some (.needsCapacity front.data.length front.channels.length)))
            else
              let ch₂ : Channel := { ch with messages := rest }
              let s₂ : Runtime := { s₁ with channels := s₁.channels.insert half.channel ch₂ }
              match s₂.nodeMessageFrom nodeId front handles with
              | none => none
              | some (s₃, nodeMsg) => some (s₃.dropHalves [half], .ok (some (.success nodeMsg)))

/-- `Runtime::channel_status`, on the channel `half` refers to. -/
def channelStatus (info : NodeInfo) (half : ChannelHalf) (ch : Channel) (downgrade : Downgrading) :
    Except OakStatus ChannelReadStatus :=
  match half.direction with
  | .write => .error .errBadHandle
  | .read =>
    match validateCanReadFromLabel info ch.label downgrade with
    | .error _ => .ok .permissionDenied
    | .ok () =>
      if ch.messages ≠ [] then .ok .readReady
      else if !ch.hasWriters then .ok .orphaned
      else .ok .notReady

/-- `Runtime::readers_statuses`. -/
def readersStatuses (s : Runtime) (info : NodeInfo) (readers : List ChannelHalf)
    (downgrade : Downgrading) : List ChannelReadStatus :=
  readers.map fun half =>
    match s.channels.lookup half.channel with
    | some ch =>
      match channelStatus info half ch downgrade with
      | .ok st => st
      | .error _ => .invalidChannel
    | none => .invalidChannel

/-- The first loop of `wait_on_channels`: the read halves of the handles, with
their positions; each is a clone, and a write half is dropped at once. -/
def collectReaders (s : Runtime) (info : NodeInfo) (i : Nat) :
    List Handle → Runtime × List (Nat × ChannelHalf)
  | [] => (s, [])
  | handle :: handles =>
    match abiToReadHalf s info handle with
    | (s', .ok half) =>
      let r := collectReaders s' info (i + 1) handles
      (r.1, (i, half) :: r.2)
    | (s', .error _) => collectReaders s' info (i + 1) handles

/-- One pass of the `while` loop of `wait_on_channels`, by Node `nodeId`'s call
`w`: `ErrTerminated` once the Runtime is terminating, the statuses when one is
not `NotReady`, there is no handle or a handle is not a read handle, the call
dropping its readers as it returns; otherwise `thread::park`, the call keeping
them, and no result. -/
def waitLoop (s : Runtime) (nodeId : NodeId) (info : NodeInfo) (w : ParkedWait) :
    Runtime × Option (Except OakStatus (List ChannelReadStatus)) :=
  let halves := w.readers.map Prod.snd
  if s.terminating then (s.dropHalves halves, some (.error .errTerminated)) else
  let statuses := s.readersStatuses info halves w.downgrade
  let allStatuses := (w.readers.map Prod.fst).zip statuses |>.foldl
    (fun acc (p : Nat × ChannelReadStatus) => acc.set p.1 p.2)
    (List.replicate w.readHandles.length .invalidChannel)
  if !(statuses.all (· == .notReady)) || w.readHandles.isEmpty ||
      w.readers.length != w.readHandles.length then
    (s.dropHalves halves, some (.ok allStatuses))
  else ({ s with parked := s.parked.insert nodeId w }, none)

/-- `Runtime::wait_on_channels`: the read halves of the handles are cloned, and
the loop makes its first pass. -/
def waitOnChannels (s : Runtime) (nodeId : NodeId) (readHandles : List Handle)
    (downgrade : Downgrading) : Option (Runtime × Option (Except OakStatus (List ChannelReadStatus))) :=
  match s.nodeInfos.lookup nodeId with
  | none => none
  | some info =>
    let (s₁, readers) := collectReaders s info 0 readHandles
    some (s₁.waitLoop nodeId info ⟨readHandles, readers, downgrade⟩)

/-- `thread::park` returns in Node `nodeId`'s parked `wait_on_channels` (a
channel woke it, `stop` did, or the wake-up is spurious), and the loop makes
another pass. -/
def unpark (s : Runtime) (nodeId : NodeId) :
    Option (Runtime × Option (Except OakStatus (List ChannelReadStatus))) :=
  match s.parked.lookup nodeId, s.nodeInfos.lookup nodeId with
  | some w, some info => some (({ s with parked := s.parked.erase nodeId } : Runtime).waitLoop nodeId info w)
  | _, _ => none

/-- `Runtime::node_register` for a created Node instance of the given isolation and
privilege: the new Node gets `label` and a handle `newHandle` for the read half
behind `initialHandle`. -/
def nodeRegister (s : Runtime) (nodeId : NodeId) (label : Label) (initialHandle : Handle)
    (downgrade : Downgrading) (privilege : NodePrivilege) (isolation : NodeIsolation)
    (newHandle : Handle) : Option (Runtime × Except OakStatus Unit) :=
  if s.terminating then some (s, .error .errTerminated) else
  match s.nodeInfos.lookup nodeId with
  | none => none
  | some info =>
    match validateCanWriteToLabel info Label.publicUntrusted downgrade with
    | .error e => some (s, .error e)
    | .ok () =>
      match validateCanWriteToLabel info label downgrade with
      | .error e => some (s, .error e)
      | .ok () =>
        if isolation = .uncontrolled ∧
            !(privilege.downgradeLabel label).flowsTo Label.publicUntrusted then
          some (s, .error .errPermissionDenied)
        else
          match abiToReadHalf s info initialHandle with
          | (s₁, .error e) => some (s₁, .error e)
          | (s₁, .ok reader) =>
            let newNodeId := s₁.nextNodeId
            let s₂ : Runtime := { s₁ with
              nextNodeId := s₁.nextNodeId + 1
              nodeInfos := s₁.nodeInfos.insert newNodeId ⟨label, privilege, ∅⟩ }
            match s₂.newAbiHandle newNodeId reader newHandle with
            | some s₃ => some (s₃, .ok ())
            | none => none

/-- The loop of `remove_node_id`, closing the handles in the given order. -/
def closeHandles (s : Runtime) (nodeId : NodeId) : List Handle → Option Runtime
  | [] => some s
  | handle :: handles =>
    match s.channelClose nodeId handle with
    | some (s', .ok ()) => closeHandles s' nodeId handles
    | _ => none

/-- `Runtime::remove_node_id`: every remaining handle is closed, in the
iteration order `order` of the table, then the Node's entry goes. -/
def removeNodeId (s : Runtime) (nodeId : NodeId) (order : List Handle) : Option Runtime :=
  match s.nodeInfos.lookup nodeId with
  | none => none
  | some info =>
    if order.Nodup ∧ order.toFinset = info.abiHandles.keys then
      match s.closeHandles nodeId order with
      | some s' => some { s' with nodeInfos := s'.nodeInfos.erase nodeId }
      | none => none
    else none

/-- `Runtime::stop`, as far as the state goes. -/
def stop (s : Runtime) : Runtime := { s with terminating := true }

end Runtime

end Oak
