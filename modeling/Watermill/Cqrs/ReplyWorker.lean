import Watermill.Cqrs.PubSubRequestReply

/-!
# The `ListenForReply` worker

The goroutine `ListenForReply` starts once its subscription is set up, with the one-slot reply
channel it writes to. Its `select` loop is a state machine: `ReplyWorker.step` takes one
`WorkerEvent`, either an outcome of the `select` (the context ends, a notification arrives, the
subscription is closed), the completion of the pending `replyChan <- reply`, or a receive by
whoever reads the channel. A send completes only when the slot is empty, and the reader takes
what the slot holds, so every interleaving of the worker with its environment and its reader is
a sequence of events from `ReplyWorker.init`, and the reachable states are those of every run.

After a matching notification the worker sends the reply and goes back to the `select`
(`continue`); only the context's end and the subscription's closure make it send a
`ReplyTimeoutError` and return, after which `close(replyChan)` runs.

`ReplyWorker.Invariant` holds of every reachable state (`ReplyWorker.Reachable.invariant`): each
received notification is acked once, the reader sees the written replies in order, and the
written replies are the replies to the received notifications that match and decode, in order,
with the timeout after them once the worker has returned. `replyWorker_replies` and
`replyWorker_writes` read the guarantees off it. `replyWorker_delivers_outcome` joins the worker
to `OnCommandProcessed`: the notification published for a handled command reaches the caller as
a reply with the handler's outcome.
-/

set_option autoImplicit false
set_option relaxedAutoImplicit false

namespace Watermill.Cqrs

/-- The error of a `CommandReply`: `ReplyTimeoutError{Elapsed, Err}` or
`CommandHandlerError{Err}`. -/
inductive ReplyError where
  | timeout (elapsed : Nat) (cause : GoError)
  | handler (cause : GoError)
  deriving DecidableEq, Repr

/-- `CommandReply`. -/
structure CommandReply where
  err : Option ReplyError
  replyMsg : Option Message
  deriving DecidableEq, Repr

/-- A `ReplyTimeoutError` with no `ReplyMsg`. -/
def CommandReply.IsTimeout (r : CommandReply) : Prop :=
  r.replyMsg = none ∧ ∃ elapsed cause, r.err = some (.timeout elapsed cause)

/-- Where the worker goroutine is: at the `select`; at `replyChan <- reply`, `returning` when a
`return` follows the send; or returned, once the deferred `cancel()` and `close(replyChan)` have
run. -/
inductive WorkerPhase where
  | selecting
  | sending (reply : CommandReply) (returning : Bool)
  | exited
  deriving DecidableEq, Repr

/-- The worker with its reply channel and what it has done: the one slot of `replyChan`, the
notifications received from the subscription, the `Ack` calls, the completed sends to
`replyChan`, and the replies the reader took from it, each in order. -/
structure ReplyWorker where
  phase : WorkerPhase
  buffer : Option CommandReply
  received : List Message
  acked : List Message
  written : List CommandReply
  read : List CommandReply
  deriving DecidableEq, Repr

/-- What can happen next to a worker: the `select` takes `<-ctx.Done()` at `elapsed` since the
start with `ctx.Err()`, receives a notification, or finds the subscription's channel closed; the
pending `replyChan <- reply` completes; or the reader of `replyChan` receives. -/
inductive WorkerEvent where
  | ctxDone (elapsed : Nat) (cause : GoError)
  | notification (msg : Message)
  | subscriptionClosed (elapsed : Nat)
  | sendCompletes
  | readerReceives
  deriving DecidableEq, Repr

/-- The worker as `ListenForReply` starts it. -/
def ReplyWorker.init : ReplyWorker := ⟨.selecting, none, [], [], [], []⟩

/-- The reply built for a matched notification. -/
def notificationReply (msg : Message) (handlerErr : Option GoError) : CommandReply :=
  ⟨handlerErr.map .handler, some msg⟩

/-- The timeout reply sent when the `select` ends the loop. -/
def timeoutReply (elapsed : Nat) (cause : GoError) : CommandReply :=
  ⟨some (.timeout elapsed cause), none⟩

/-- The cause of the timeout the worker sends when its subscription is closed:
`fmt.Errorf("subscriber closed")`. -/
def subscriberClosed : GoError := .new "subscriber closed"

variable {Command : Type} (p : PubSubRequestReply Command) (cmdUuid : String)

/-- One step of the worker for the command `cmdUuid`; `none` when the event cannot happen. -/
def ReplyWorker.step (w : ReplyWorker) : WorkerEvent → Option ReplyWorker
  | .ctxDone elapsed cause =>
    match w.phase with
    | .selecting => some { w with phase := .sending (timeoutReply elapsed cause) true }
    | _ => none
  | .notification msg =>
    match w.phase with
    | .selecting =>
      let w := { w with received := w.received ++ [msg], acked := w.acked ++ [msg] }
      match p.handleNotifyMsg msg cmdUuid with
      | (true, handlerErr) => some { w with phase := .sending (notificationReply msg handlerErr) false }
      | (false, _) => some w
    | _ => none
  | .subscriptionClosed elapsed =>
    match w.phase with
    | .selecting =>
      some { w with phase := .sending (timeoutReply elapsed subscriberClosed) true }
    | _ => none
  | .sendCompletes =>
    match w.phase, w.buffer with
    | .sending reply returning, none =>
      some { w with phase := if returning then .exited else .selecting, buffer := some reply,
                    written := w.written ++ [reply] }
    | _, _ => none
  | .readerReceives =>
    match w.buffer with
    | some reply => some { w with buffer := none, read := w.read ++ [reply] }
    | none => none

/-- The states of every run of the worker. -/
inductive ReplyWorker.Reachable : ReplyWorker → Prop where
  | init : ReplyWorker.Reachable ReplyWorker.init
  | step {w w' : ReplyWorker} {e : WorkerEvent} :
      ReplyWorker.Reachable w → w.step p cmdUuid e = some w' → ReplyWorker.Reachable w'

/-- A run: the events in order, as long as each can happen. -/
def ReplyWorker.run : ReplyWorker → List WorkerEvent → Option ReplyWorker
  | w, [] => some w
  | w, e :: es => (w.step p cmdUuid e).bind (ReplyWorker.run · es)

theorem ReplyWorker.Reachable.run {w w' : ReplyWorker} (hw : w.Reachable p cmdUuid)
    (es : List WorkerEvent) (h : w.run p cmdUuid es = some w') : w'.Reachable p cmdUuid := by
  induction es generalizing w with
  | nil => cases h; exact hw
  | cons e es ih =>
    simp only [ReplyWorker.run] at h
    cases hs : w.step p cmdUuid e with
    | none => simp [hs] at h
    | some w₁ => exact ih (hw.step hs) (by simpa [hs] using h)

/-- The reply a received notification leads to, if any. -/
def replyOf (msg : Message) : Option CommandReply :=
  match p.handleNotifyMsg msg cmdUuid with
  | (true, handlerErr) => some (notificationReply msg handlerErr)
  | (false, _) => none

/-- A notification leads to a reply exactly when it carries the command's UUID and decodes;
the reply carries it, with the decoded handler error. -/
theorem replyOf_eq_some {msg : Message} {r : CommandReply} :
    replyOf p cmdUuid msg = some r ↔
      msg.metadata.get handledCommandUuidMetadataKey = cmdUuid ∧
      ∃ n, p.marshaler.unmarshal msg = .ok n ∧
        r = ⟨if n.hasError then some (.handler (.new n.error)) else none, some msg⟩ := by
  unfold replyOf PubSubRequestReply.handleNotifyMsg
  by_cases hu : msg.metadata.get handledCommandUuidMetadataKey = cmdUuid
  · cases hn : p.marshaler.unmarshal msg with
    | error e => simp [hu, hn]
    | ok n =>
      cases hb : n.hasError <;> simp [hu, hn, hb, notificationReply] <;> exact eq_comm
  · simp [hu]

theorem timeoutReply_isTimeout (elapsed : Nat) (cause : GoError) :
    (timeoutReply elapsed cause).IsTimeout :=
  ⟨rfl, elapsed, cause, rfl⟩

/-- A received notification is acked, and the worker goes on to send its reply, if it has
one, or back to the `select`. -/
theorem ReplyWorker.step_notification {w w' : ReplyWorker} {msg : Message}
    (h : w.step p cmdUuid (.notification msg) = some w') :
    w.phase = .selecting ∧
      w' = { w with received := w.received ++ [msg], acked := w.acked ++ [msg],
                    phase := match replyOf p cmdUuid msg with
                      | some r => .sending r false
                      | none => .selecting } := by
  cases hp : w.phase <;> simp [ReplyWorker.step, hp] at h
  refine ⟨rfl, ?_⟩
  cases hh : p.handleNotifyMsg msg cmdUuid with
  | mk ok handlerErr => cases ok <;> simp [hh, replyOf] at h ⊢ <;> exact h.symm

/-- Everything one step can do: the `select` ends the loop with a timeout to send; it receives
a notification, acks it and goes on to send its reply, if it has one; the pending send puts its
reply in the empty slot; or the reader empties the slot. -/
theorem ReplyWorker.step_cases {w w' : ReplyWorker} {e : WorkerEvent}
    (h : w.step p cmdUuid e = some w') :
    (∃ r, w.phase = .selecting ∧ r.IsTimeout ∧ w' = { w with phase := .sending r true }) ∨
    (∃ msg, e = .notification msg ∧ w.phase = .selecting ∧
      w' = { w with received := w.received ++ [msg], acked := w.acked ++ [msg],
                    phase := match replyOf p cmdUuid msg with
                      | some r => .sending r false
                      | none => .selecting }) ∨
    (∃ r returning, w.phase = .sending r returning ∧ w.buffer = none ∧
      w' = { w with phase := if returning then .exited else .selecting, buffer := some r,
                    written := w.written ++ [r] }) ∨
    (∃ r, w.buffer = some r ∧ w' = { w with buffer := none, read := w.read ++ [r] }) := by
  cases e with
  | ctxDone elapsed cause =>
    cases hp : w.phase <;> simp [ReplyWorker.step, hp] at h
    exact .inl ⟨_, rfl, timeoutReply_isTimeout _ _, h.symm⟩
  | subscriptionClosed elapsed =>
    cases hp : w.phase <;> simp [ReplyWorker.step, hp] at h
    exact .inl ⟨_, rfl, timeoutReply_isTimeout _ _, h.symm⟩
  | notification msg => exact .inr (.inl ⟨msg, rfl, ReplyWorker.step_notification p cmdUuid h⟩)
  | sendCompletes =>
    cases hp : w.phase <;> cases hb : w.buffer <;> simp [ReplyWorker.step, hp, hb] at h
    exact .inr (.inr (.inl ⟨_, _, rfl, rfl, h.symm⟩))
  | readerReceives =>
    cases hb : w.buffer <;> simp [ReplyWorker.step, hb] at h
    exact .inr (.inr (.inr ⟨_, rfl, h.symm⟩))

/-- The replies sent and pending, by phase: at the `select` or before a `continue`, the replies
to the matching notifications so far; before the `return`, those and a pending timeout; once
returned, those and the timeout, written last. -/
def ReplyWorker.RepliesSoFar (w : ReplyWorker) : Prop :=
  match w.phase with
  | .selecting => w.written = w.received.filterMap (replyOf p cmdUuid)
  | .sending r false => w.written ++ [r] = w.received.filterMap (replyOf p cmdUuid)
  | .sending r true => w.written = w.received.filterMap (replyOf p cmdUuid) ∧ r.IsTimeout
  | .exited => ∃ t, w.written = w.received.filterMap (replyOf p cmdUuid) ++ [t] ∧ t.IsTimeout

/-- What holds of every reachable worker. -/
structure ReplyWorker.Invariant (w : ReplyWorker) : Prop where
  acked : w.acked = w.received
  fifo : w.read ++ w.buffer.toList = w.written
  replies : w.RepliesSoFar p cmdUuid

/-- One step keeps the invariant. -/
theorem ReplyWorker.Invariant.step {w w' : ReplyWorker} {e : WorkerEvent}
    (hi : w.Invariant p cmdUuid) (h : w.step p cmdUuid e = some w') : w'.Invariant p cmdUuid := by
  obtain ⟨hack, hfifo, hrep⟩ := hi
  rcases ReplyWorker.step_cases p cmdUuid h with
    ⟨r, hp, ht, rfl⟩ | ⟨msg, -, hp, rfl⟩ | ⟨r, returning, hp, hb, rfl⟩ | ⟨r, hb, rfl⟩
  · simp only [ReplyWorker.RepliesSoFar, hp] at hrep
    exact ⟨hack, hfifo, by simpa [ReplyWorker.RepliesSoFar] using ⟨hrep, ht⟩⟩
  · simp only [ReplyWorker.RepliesSoFar, hp] at hrep
    refine ⟨by simp [hack], hfifo, ?_⟩
    cases hr : replyOf p cmdUuid msg <;> simp [ReplyWorker.RepliesSoFar, hrep, hr]
  · simp only [ReplyWorker.RepliesSoFar, hp] at hrep
    refine ⟨hack, by simp [← hfifo, hb], ?_⟩
    cases returning
    · simpa [ReplyWorker.RepliesSoFar] using hrep
    · exact ⟨r, by simp [hrep.1], hrep.2⟩
  · exact ⟨hack, by simpa [hb] using hfifo, hrep⟩

theorem ReplyWorker.Reachable.invariant {w : ReplyWorker} (hw : w.Reachable p cmdUuid) :
    w.Invariant p cmdUuid := by
  induction hw with
  | init => exact ⟨rfl, rfl, rfl⟩
  | step _ hs ih => exact ih.step p cmdUuid hs

/-- A written reply is a timeout, or the reply to a received notification. -/
theorem ReplyWorker.Invariant.mem_written {w : ReplyWorker} (hi : w.Invariant p cmdUuid)
    {r : CommandReply} (hr : r ∈ w.written) :
    r.IsTimeout ∨ ∃ msg ∈ w.received, replyOf p cmdUuid msg = some r := by
  have hrep := hi.replies
  unfold ReplyWorker.RepliesSoFar at hrep
  split at hrep
  · rw [hrep] at hr
    exact .inr (List.mem_filterMap.mp hr)
  · exact .inr (List.mem_filterMap.mp (hrep ▸ List.mem_append_left _ hr))
  · rw [hrep.1] at hr
    exact .inr (List.mem_filterMap.mp hr)
  · obtain ⟨t, ht, htime⟩ := hrep
    rw [ht] at hr
    rcases List.mem_append.mp hr with hr | hr
    · exact .inr (List.mem_filterMap.mp hr)
    · exact .inl (List.mem_singleton.mp hr ▸ htime)

/-- The notification whose reply the worker is sending, unless the send is the final timeout. -/
def ReplyWorker.sendingNotification (w : ReplyWorker) : List Message :=
  match w.phase with
  | .sending r false => r.replyMsg.toList
  | _ => []

theorem replyOf_replyMsg {msg : Message} {r : CommandReply} (h : replyOf p cmdUuid msg = some r) :
    r.replyMsg = some msg := by
  obtain ⟨-, -, -, rfl⟩ := (replyOf_eq_some p cmdUuid).mp h
  rfl

theorem filterMap_replyMsg_replyOf {received : List Message}
    (h : ∀ n ∈ received, (replyOf p cmdUuid n).isSome) :
    (received.filterMap (replyOf p cmdUuid)).filterMap CommandReply.replyMsg = received := by
  induction received with
  | nil => rfl
  | cons n rest ih =>
    obtain ⟨r, hr⟩ := Option.isSome_iff_exists.mp (h n (.head _))
    simp [List.filterMap_cons, hr, replyOf_replyMsg p cmdUuid hr,
      ih fun m hm => h m (.tail _ hm)]

/-- Assumes: every received notification has a reply. The replies written, with the one being
sent, carry the received notifications, each once and in order: none is dropped. -/
theorem ReplyWorker.Invariant.answered {w : ReplyWorker} (hi : w.Invariant p cmdUuid)
    (h : ∀ n ∈ w.received, (replyOf p cmdUuid n).isSome) :
    w.written.filterMap CommandReply.replyMsg ++ w.sendingNotification = w.received := by
  have hrep := hi.replies
  have hall := filterMap_replyMsg_replyOf p cmdUuid h
  unfold ReplyWorker.RepliesSoFar at hrep
  unfold ReplyWorker.sendingNotification
  split at hrep <;> rename_i hp <;> simp only [hp]
  · simpa [hrep] using hall
  · rename_i r
    rw [← hrep, List.filterMap_append] at hall
    cases hr : r.replyMsg <;> simpa [hr] using hall
  · simpa [hrep.1] using hall
  · obtain ⟨t, ht, htime⟩ := hrep
    simpa [ht, htime.1] using hall

/-- Every reply the worker for `cmdMsg` writes is a `ReplyTimeoutError` with no `ReplyMsg`, or
carries a received notification stamped with `cmdMsg.UUID` whose payload decoded, with a nil
error exactly when the decoded `HasError` is false and otherwise the `CommandHandlerError` of
`errors.New` of the decoded message. Every received notification is acked once, and a
notification for another command leaves the worker at its `select` with nothing written or
pending. -/
theorem replyWorker_replies (p : PubSubRequestReply Command) (cmdMsg : Message) {w : ReplyWorker}
    (hw : w.Reachable p cmdMsg.uuid) :
    (∀ r ∈ w.written, r.IsTimeout ∨
      ∃ msg ∈ w.received, r.replyMsg = some msg ∧
        msg.metadata.get handledCommandUuidMetadataKey = cmdMsg.uuid ∧
        ∃ n, p.marshaler.unmarshal msg = .ok n ∧
          r.err = if n.hasError then some (.handler (.new n.error)) else none) ∧
    w.acked = w.received ∧
    ∀ msg w', msg.metadata.get handledCommandUuidMetadataKey ≠ cmdMsg.uuid →
      w.step p cmdMsg.uuid (.notification msg) = some w' →
      w'.phase = .selecting ∧ w'.written = w.written ∧ w'.buffer = w.buffer := by
  have hi := hw.invariant
  refine ⟨fun r hr => ?_, hi.acked, fun msg w' hother h => ?_⟩
  · rcases hi.mem_written p cmdMsg.uuid hr with htime | ⟨msg, hmsg, hreply⟩
    · exact .inl htime
    · obtain ⟨huuid, n, hn, rfl⟩ := (replyOf_eq_some p cmdMsg.uuid).mp hreply
      exact .inr ⟨msg, hmsg, rfl, huuid, n, hn, rfl⟩
  · obtain ⟨-, rfl⟩ := ReplyWorker.step_notification p cmdMsg.uuid h
    have hnone : replyOf p cmdMsg.uuid msg = none := by
      cases hr : replyOf p cmdMsg.uuid msg with
      | none => rfl
      | some r => exact absurd ((replyOf_eq_some p cmdMsg.uuid).mp hr).1 hother
    simp [hnone]

def sampleNotification : Message :=
  ⟨"notification-1", Metadata.empty.set handledCommandUuidMetadataKey "cmd-1", [0]⟩

def sampleRepliedWorker : ReplyWorker :=
  ⟨.selecting, some (notificationReply sampleNotification none), [sampleNotification],
    [sampleNotification], [notificationReply sampleNotification none], []⟩

theorem sampleRepliedWorker_reachable : sampleRepliedWorker.Reachable samplePubSub "cmd-1" :=
  ReplyWorker.Reachable.init.run samplePubSub "cmd-1"
    [.notification sampleNotification, .sendCompletes] rfl

theorem replyWorker_replies_sample :
    sampleRepliedWorker.Reachable samplePubSub "cmd-1" ∧
    (∀ r ∈ sampleRepliedWorker.written, r.IsTimeout ∨
      ∃ msg ∈ sampleRepliedWorker.received, r.replyMsg = some msg ∧
        msg.metadata.get handledCommandUuidMetadataKey = "cmd-1" ∧
        ∃ n, samplePubSub.marshaler.unmarshal msg = .ok n ∧
          r.err = if n.hasError then some (.handler (.new n.error)) else none) ∧
    sampleRepliedWorker.acked = sampleRepliedWorker.received ∧
    ∀ msg w', msg.metadata.get handledCommandUuidMetadataKey ≠ "cmd-1" →
      sampleRepliedWorker.step samplePubSub "cmd-1" (.notification msg) = some w' →
      w'.phase = .selecting ∧ w'.written = sampleRepliedWorker.written ∧
        w'.buffer = sampleRepliedWorker.buffer :=
  ⟨sampleRepliedWorker_reachable,
    replyWorker_replies samplePubSub ⟨"cmd-1", .empty, []⟩ sampleRepliedWorker_reachable⟩

/-- A pending send completes exactly when the slot is empty, that is when the reader has taken
every reply written so far. -/
theorem ReplyWorker.Invariant.sendCompletes_isSome {w : ReplyWorker} (hi : w.Invariant p cmdUuid)
    {r : CommandReply} {returning : Bool} (hp : w.phase = .sending r returning) :
    (w.step p cmdUuid .sendCompletes).isSome ↔ w.read = w.written := by
  rw [← hi.fifo]
  cases hb : w.buffer <;> simp [ReplyWorker.step, hp, hb]

/-- The writes of the worker over every run: first replies to received notifications that
match and decode, in the order received: all of them, or, while the reply to the last match is
being sent, all but that one. Then at most one `ReplyTimeoutError`, only after all of them; the worker has returned, and `replyChan`
is closed, exactly when that timeout is written. The reader receives the written replies in
order, and a pending send completes exactly when the reader has taken every earlier reply, so
the first send never blocks. -/
theorem replyWorker_writes (p : PubSubRequestReply Command) (cmdMsg : Message) {w : ReplyWorker}
    (hw : w.Reachable p cmdMsg.uuid) :
    (∃ pre final, w.written = pre ++ final ∧
      (pre = w.received.filterMap (replyOf p cmdMsg.uuid) ∨
        ∃ r, w.phase = .sending r false ∧ pre ++ [r] = w.received.filterMap (replyOf p cmdMsg.uuid)) ∧
      final.length ≤ 1 ∧ (∀ r ∈ final, r.IsTimeout) ∧
      (final ≠ [] → pre = w.received.filterMap (replyOf p cmdMsg.uuid)) ∧
      (w.phase = .exited ↔ final ≠ [])) ∧
    w.read ++ w.buffer.toList = w.written ∧
    ∀ r returning, w.phase = .sending r returning →
      ((w.step p cmdMsg.uuid .sendCompletes).isSome ↔ w.read = w.written) := by
  have hi := hw.invariant
  refine ⟨?_, hi.fifo, fun r returning hp => hi.sendCompletes_isSome p cmdMsg.uuid hp⟩
  have hrep := hi.replies
  unfold ReplyWorker.RepliesSoFar at hrep
  split at hrep <;> rename_i hp
  · exact ⟨w.written, [], by simp, .inl hrep, by simp, by simp, by simp, by simp [hp]⟩
  · exact ⟨w.written, [], by simp, .inr ⟨_, hp, hrep⟩, by simp, by simp, by simp, by simp [hp]⟩
  · exact ⟨w.written, [], by simp, .inl hrep.1, by simp, by simp, by simp, by simp [hp]⟩
  · obtain ⟨t, ht, htime⟩ := hrep
    exact ⟨_, [t], ht, .inl rfl, by simp, by simpa using htime, fun _ => rfl, by simp [hp]⟩

def sampleTimedOutWorker : ReplyWorker :=
  ⟨.exited, some (timeoutReply 50 (.new "context deadline exceeded")), [sampleNotification],
    [sampleNotification],
    [notificationReply sampleNotification none, timeoutReply 50 (.new "context deadline exceeded")],
    [notificationReply sampleNotification none]⟩

theorem sampleTimedOutWorker_reachable : sampleTimedOutWorker.Reachable samplePubSub "cmd-1" :=
  ReplyWorker.Reachable.init.run samplePubSub "cmd-1"
    [.notification sampleNotification, .sendCompletes, .readerReceives,
      .ctxDone 50 (.new "context deadline exceeded"), .sendCompletes] rfl

theorem replyWorker_writes_timedOut :
    sampleTimedOutWorker.Reachable samplePubSub "cmd-1" ∧
    (∃ pre final, sampleTimedOutWorker.written = pre ++ final ∧
      (pre = sampleTimedOutWorker.received.filterMap (replyOf samplePubSub "cmd-1") ∨
        ∃ r, sampleTimedOutWorker.phase = .sending r false ∧
          pre ++ [r] = sampleTimedOutWorker.received.filterMap (replyOf samplePubSub "cmd-1")) ∧
      final.length ≤ 1 ∧ (∀ r ∈ final, r.IsTimeout) ∧
      (final ≠ [] → pre = sampleTimedOutWorker.received.filterMap (replyOf samplePubSub "cmd-1")) ∧
      (sampleTimedOutWorker.phase = .exited ↔ final ≠ [])) ∧
    sampleTimedOutWorker.read ++ sampleTimedOutWorker.buffer.toList =
      sampleTimedOutWorker.written ∧
    ∀ r returning, sampleTimedOutWorker.phase = .sending r returning →
      ((sampleTimedOutWorker.step samplePubSub "cmd-1" .sendCompletes).isSome ↔
        sampleTimedOutWorker.read = sampleTimedOutWorker.written) :=
  ⟨sampleTimedOutWorker_reachable,
    replyWorker_writes samplePubSub ⟨"cmd-1", .empty, []⟩ sampleTimedOutWorker_reachable⟩

/-- The context's end after the reply to `sampleNotification`: the worker goes back to the
`select`, so it writes a second reply, a timeout, once the reader has taken the first; with the
first reply unread, the timeout's send blocks, and `replyChan` stays open. -/
theorem replyWorker_timeout_after_match :
    (∃ w : ReplyWorker, w.Reachable samplePubSub "cmd-1" ∧
      w.written = [notificationReply sampleNotification none,
        timeoutReply 50 (.new "context deadline exceeded")] ∧ w.phase = .exited) ∧
    (∃ w : ReplyWorker, w.Reachable samplePubSub "cmd-1" ∧
      w.written = [notificationReply sampleNotification none] ∧
      w.phase = .sending (timeoutReply 50 (.new "context deadline exceeded")) true ∧
      w.step samplePubSub "cmd-1" .sendCompletes = none) :=
  ⟨⟨sampleTimedOutWorker, sampleTimedOutWorker_reachable, rfl, rfl⟩,
    ⟨_, ReplyWorker.Reachable.init.run samplePubSub "cmd-1"
      [.notification sampleNotification, .sendCompletes,
        .ctxDone 50 (.new "context deadline exceeded")] rfl, rfl, rfl, rfl⟩⟩

def sampleUndecodable : Message :=
  ⟨"notification-2", Metadata.empty.set handledCommandUuidMetadataKey "cmd-1", [2]⟩

/-- A notification that matches but does not decode is acked and leaves the worker at its
`select` with nothing to send: the unmarshal error `handleNotifyMsg` returns is dropped. -/
theorem ReplyWorker.step_undecodable {w : ReplyWorker} {msg : Message} {err : GoError}
    (hp : w.phase = .selecting) (huuid : msg.metadata.get handledCommandUuidMetadataKey = cmdUuid)
    (hdecode : p.marshaler.unmarshal msg = .error err) :
    p.handleNotifyMsg msg cmdUuid =
        (false, some (.wrap err "cannot unmarshal request reply notification")) ∧
      w.step p cmdUuid (.notification msg) =
        some { w with received := w.received ++ [msg], acked := w.acked ++ [msg] } := by
  have hh : p.handleNotifyMsg msg cmdUuid =
      (false, some (.wrap err "cannot unmarshal request reply notification")) := by
    simp [PubSubRequestReply.handleNotifyMsg, huuid, hdecode]
  exact ⟨hh, by simp [ReplyWorker.step, hp, hh]⟩

theorem replyWorker_drops_undecodable :
    samplePubSub.handleNotifyMsg sampleUndecodable "cmd-1" =
        (false, some (.wrap (.new "unexpected end of JSON input")
          "cannot unmarshal request reply notification")) ∧
      ReplyWorker.init.step samplePubSub "cmd-1" (.notification sampleUndecodable) =
        some { ReplyWorker.init with received := [sampleUndecodable], acked := [sampleUndecodable] } :=
  ReplyWorker.step_undecodable samplePubSub "cmd-1" rfl rfl rfl

/-! ### From the command handler to the caller -/

/-- Assumes: a marshaler that decodes what it encodes, a modify hook that keeps the payload and
the handled command's UUID, a command message marked by `ModifyCommandMessageBeforePublish`
whose `OnCommandProcessed` returned nil, and a reachable worker for it at its `select` whose
reader has taken every reply. The one published notification reaches the caller: the worker
acks it, writes the reply that carries it with the handler's outcome as a
`CommandHandlerError` of `errors.New(handleErr.Error())`, or a nil error, and the reader
receives that reply; the worker is then back at its `select`. -/
theorem replyWorker_delivers_outcome (p : PubSubRequestReply Command)
    (hround : p.marshaler.RoundTrips) (hkeep : KeepsNotification p.config.modifyNotificationMessage)
    (cmdMsg : Message) (cmd : Command) (handleErr : Option GoError)
    {published : List (String × Message)}
    (hon : p.onCommandProcessed (p.modifyCommandMessageBeforePublish cmdMsg cmd).1 cmd handleErr =
      (published, none))
    {w : ReplyWorker} (hw : w.Reachable p cmdMsg.uuid) (hsel : w.phase = .selecting)
    (hread : w.read = w.written) :
    ∃ topic notificationMsg, published = [(topic, notificationMsg)] ∧
      let reply : CommandReply :=
        ⟨handleErr.map fun err => .handler (.new err.error), some notificationMsg⟩
      w.run p cmdMsg.uuid [.notification notificationMsg, .sendCompletes, .readerReceives] =
        some { w with received := w.received ++ [notificationMsg],
                      acked := w.acked ++ [notificationMsg],
                      written := w.written ++ [reply], read := w.read ++ [reply] } := by
  have hmark : (p.modifyCommandMessageBeforePublish cmdMsg cmd).1.metadata.get
      notifyWhenExecutedMetadataKey = "1" := by
    simp [PubSubRequestReply.modifyCommandMessageBeforePublish]
  obtain ⟨topic, notificationMsg, rfl, -, huuid, hdecode⟩ :=
    onCommandProcessed_notification p hround hkeep hmark hon
  simp only [PubSubRequestReply.modifyCommandMessageBeforePublish_uuid] at huuid
  have hhandle := handleNotifyMsg_notificationOf p huuid hdecode
  have hbuffer : w.buffer = none := by
    have hfifo := (ReplyWorker.Reachable.invariant p cmdMsg.uuid hw).fifo
    rw [hread, List.append_right_eq_self] at hfifo
    cases hb : w.buffer <;> simp [hb] at hfifo ⊢
  refine ⟨topic, notificationMsg, rfl, ?_⟩
  cases handleErr <;>
    simp [ReplyWorker.run, ReplyWorker.step, hsel, hhandle, hbuffer, notificationReply]

theorem replyWorker_delivers_outcome_boom :
    samplePubSub.marshaler.RoundTrips ∧
    KeepsNotification samplePubSub.config.modifyNotificationMessage ∧
    samplePubSub.onCommandProcessed
        (samplePubSub.modifyCommandMessageBeforePublish ⟨"cmd-1", .empty, []⟩ ()).1 ()
        (some (.new "boom")) = ([("reply-cmd-1", sampleBoomNotification)], none) ∧
    ReplyWorker.init.Reachable samplePubSub "cmd-1" ∧
    ∃ topic notificationMsg,
      [("reply-cmd-1", sampleBoomNotification)] = [(topic, notificationMsg)] ∧
      let reply : CommandReply :=
        ⟨(some (GoError.new "boom")).map fun err => .handler (.new err.error), some notificationMsg⟩
      ReplyWorker.init.run samplePubSub "cmd-1"
          [.notification notificationMsg, .sendCompletes, .readerReceives] =
        some { ReplyWorker.init with received := ReplyWorker.init.received ++ [notificationMsg],
                                     acked := ReplyWorker.init.acked ++ [notificationMsg],
                                     written := ReplyWorker.init.written ++ [reply],
                                     read := ReplyWorker.init.read ++ [reply] } :=
  have hkeep : KeepsNotification samplePubSub.config.modifyNotificationMessage := by
    intro hook h
    cases h
  ⟨sampleMarshaler_roundTrips, hkeep, rfl, .init,
    replyWorker_delivers_outcome samplePubSub sampleMarshaler_roundTrips hkeep
      ⟨"cmd-1", .empty, []⟩ () (some (.new "boom")) rfl ReplyWorker.Reachable.init rfl rfl⟩

end Watermill.Cqrs
