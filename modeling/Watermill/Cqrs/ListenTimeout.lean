import Watermill.Cqrs.ReplyWorker

/-!
# The clock and the context of `ListenForReply`

`ListenForReply` reads `start := time.Now()` first, derives its context after building the
subscriber and the topic, with `context.WithTimeout` when `ListenForReplyTimeout` is set and
`context.WithCancel` otherwise, and its worker reports `time.Since(start)` and `ctx.Err()` in a
`ReplyTimeoutError`. `ReplyWorker` takes the elapsed time and the cause as inputs of its events;
`TimedListener` supplies them. It is the worker with the clock (`now`, the time since `start`),
the context's deadline, the error its parent context ended with, and `ctx.Err()`, which keeps
the first of the deadline and the parent's end (`TimedListener.expire`). The select takes
`<-ctx.Done()` only once the context has ended, and both timeouts report the clock.

Each step of `TimedListener.step` is a step of the worker or leaves it as it was, so a timed
listener's worker is a reachable `ReplyWorker` and every guarantee proved of those holds of it.
`TimedListener.Reachable.invariant` adds the clock's facts, and `listenForReply_timeouts` reads
off them the timeout guarantees of `ListenForReply`: once the timeout has passed the context has
ended; every `ReplyTimeoutError` reports an elapsed time no later than the clock; and while the
parent context lives, it reports the closed subscription, or the deadline, and then an elapsed
time at least the timeout after the context was derived.

Scope. The clock counts in ticks of any unit; `setup`, the time between `start` and the
derivation of the context, is an input.
-/

set_option autoImplicit false
set_option relaxedAutoImplicit false

namespace Watermill.Cqrs

/-- `context.DeadlineExceeded`. -/
def deadlineExceeded : GoError := .new "context deadline exceeded"

/-- The worker of `ListenForReply` with its clock and its context: `now` is `time.Since(start)`,
`deadline` the expiry of `context.WithTimeout`, `parentErr` the error the parent context ended
with, and `err` is `ctx.Err()`. -/
structure TimedListener where
  now : Nat
  deadline : Option Nat
  parentErr : Option GoError
  err : Option GoError
  worker : ReplyWorker
  deriving DecidableEq, Repr

/-- `ctx.Err()` when the clock reads `now`: once set it stays, and a context with a deadline
ends with `context.DeadlineExceeded` once the clock reaches it. -/
def expiredErr (err : Option GoError) (deadline : Option Nat) (now : Nat) : Option GoError :=
  match err, deadline with
  | none, some d => if d ≤ now then some deadlineExceeded else none
  | err, _ => err

/-- The context ends when the clock reaches its deadline, unless it has ended already. -/
def TimedListener.expire (l : TimedListener) : TimedListener :=
  { l with err := expiredErr l.err l.deadline l.now }

/-- The listener as its worker starts, `setup` after `start`, with the context `ListenForReply`
derived at that time. -/
def TimedListener.start (context : ListenContext) (setup : Nat) : TimedListener :=
  TimedListener.expire
    ⟨setup, (match context with
      | .withTimeout timeout => some (setup + timeout)
      | .withCancel => none), none, none, ReplyWorker.init⟩

/-- What can happen next to a timed listener: the clock advances; the parent context ends with
`cause`; the select takes `<-ctx.Done()`, receives a notification, or finds the subscription's
channel closed; the pending `replyChan <- reply` completes; or the reader of `replyChan`
receives. -/
inductive ListenEvent where
  | tick
  | parentDone (cause : GoError)
  | ctxDone
  | notification (msg : Message)
  | subscriptionClosed
  | sendCompletes
  | readerReceives
  deriving DecidableEq, Repr

variable {Command : Type} (p : PubSubRequestReply Command) (cmdUuid : String)

/-- The worker's step, with the clock and the context left as they are. -/
def TimedListener.workerStep (l : TimedListener) (e : WorkerEvent) : Option TimedListener :=
  (l.worker.step p cmdUuid e).map fun w => { l with worker := w }

/-- One step of the timed listener; `none` when the event cannot happen. -/
def TimedListener.step (l : TimedListener) : ListenEvent → Option TimedListener
  | .tick => some { l with now := l.now + 1 }.expire
  | .parentDone cause =>
    some { l with parentErr := some (l.parentErr.getD cause), err := some (l.err.getD cause) }
  | .ctxDone =>
    match l.err with
    | some cause => l.workerStep p cmdUuid (.ctxDone l.now cause)
    | none => none
  | .notification msg => l.workerStep p cmdUuid (.notification msg)
  | .subscriptionClosed => l.workerStep p cmdUuid (.subscriptionClosed l.now)
  | .sendCompletes => l.workerStep p cmdUuid .sendCompletes
  | .readerReceives => l.workerStep p cmdUuid .readerReceives

/-- The states of every run from `start`. -/
inductive TimedListener.Reachable (start : TimedListener) : TimedListener → Prop where
  | start : TimedListener.Reachable start start
  | step {l l' : TimedListener} {e : ListenEvent} :
      TimedListener.Reachable start l → l.step p cmdUuid e = some l' →
      TimedListener.Reachable start l'

/-- A run: the events in order, as long as each can happen. -/
def TimedListener.run : TimedListener → List ListenEvent → Option TimedListener
  | l, [] => some l
  | l, e :: es => (l.step p cmdUuid e).bind (TimedListener.run · es)

theorem TimedListener.Reachable.run {start l l' : TimedListener}
    (hl : TimedListener.Reachable p cmdUuid start l) (es : List ListenEvent)
    (h : l.run p cmdUuid es = some l') : TimedListener.Reachable p cmdUuid start l' := by
  induction es generalizing l with
  | nil => cases h; exact hl
  | cons e es ih =>
    simp only [TimedListener.run] at h
    cases hs : l.step p cmdUuid e with
    | none => simp [hs] at h
    | some l₁ => exact ih (hl.step hs) (by simpa [hs] using h)

/-! ### One step -/

theorem expiredErr_some (e : GoError) (deadline : Option Nat) (now : Nat) :
    expiredErr (some e) deadline now = some e := rfl

/-- Once the clock has reached the deadline, the context has ended. -/
theorem expiredErr_isSome (err : Option GoError) {deadline : Option Nat} {d now : Nat}
    (hd : deadline = some d) (hnow : d ≤ now) : (expiredErr err deadline now).isSome := by
  subst hd
  cases err <;> simp [expiredErr, hnow]

/-- A context that ends at an expiry ends with `context.DeadlineExceeded`, at its deadline. -/
theorem expiredErr_eq_some {deadline : Option Nat} {now : Nat} {e : GoError}
    (h : expiredErr none deadline now = some e) :
    e = deadlineExceeded ∧ ∃ d, deadline = some d ∧ d ≤ now := by
  cases deadline with
  | none => cases h
  | some d =>
    simp only [expiredErr] at h
    split_ifs at h with hd
    exact ⟨(Option.some.inj h).symm, d, rfl, hd⟩

/-- Everything one step can do: the clock advances and the context may expire; the parent
ends; or the worker takes a step, with the clock and the context left as they are. A step of
the worker on the context's end or the subscription's closure reports the clock and
`ctx.Err()`. -/
theorem TimedListener.step_cases {l l' : TimedListener} {e : ListenEvent}
    (h : l.step p cmdUuid e = some l') :
    (l' = { l with now := l.now + 1 }.expire) ∨
    (∃ cause, l' = { l with parentErr := some (l.parentErr.getD cause),
                            err := some (l.err.getD cause) }) ∨
    (∃ we w, l.worker.step p cmdUuid we = some w ∧ l' = { l with worker := w } ∧
      (∀ elapsed cause, we = .ctxDone elapsed cause → elapsed = l.now ∧ l.err = some cause) ∧
      (∀ elapsed, we = .subscriptionClosed elapsed → elapsed = l.now)) := by
  have hworker {we : WorkerEvent} (hw : l.workerStep p cmdUuid we = some l') :
      ∃ w, l.worker.step p cmdUuid we = some w ∧ l' = { l with worker := w } := by
    simp only [TimedListener.workerStep, Option.map_eq_some'] at hw
    obtain ⟨w, hw, rfl⟩ := hw
    exact ⟨w, hw, rfl⟩
  cases e with
  | tick => exact .inl (Option.some.inj h).symm
  | parentDone cause => exact .inr (.inl ⟨cause, (Option.some.inj h).symm⟩)
  | ctxDone =>
    simp only [TimedListener.step] at h
    split at h
    · rename_i cause herr
      obtain ⟨w, hw, rfl⟩ := hworker h
      exact .inr (.inr ⟨_, w, hw, rfl, by rintro _ _ ⟨⟩; exact ⟨rfl, herr⟩, by rintro _ ⟨⟩⟩)
    · cases h
  | notification msg =>
    obtain ⟨w, hw, rfl⟩ := hworker h
    exact .inr (.inr ⟨_, w, hw, rfl, by rintro _ _ ⟨⟩, by rintro _ ⟨⟩⟩)
  | subscriptionClosed =>
    obtain ⟨w, hw, rfl⟩ := hworker h
    exact .inr (.inr ⟨_, w, hw, rfl, by rintro _ _ ⟨⟩, by rintro _ ⟨⟩; rfl⟩)
  | sendCompletes =>
    obtain ⟨w, hw, rfl⟩ := hworker h
    exact .inr (.inr ⟨_, w, hw, rfl, by rintro _ _ ⟨⟩, by rintro _ ⟨⟩⟩)
  | readerReceives =>
    obtain ⟨w, hw, rfl⟩ := hworker h
    exact .inr (.inr ⟨_, w, hw, rfl, by rintro _ _ ⟨⟩, by rintro _ ⟨⟩⟩)

/-! ### Timeouts over every run -/

/-- The worker has written, or is sending, the timeout reply for `elapsed` and `cause`. -/
def ReplyWorker.TimeoutIn (w : ReplyWorker) (elapsed : Nat) (cause : GoError) : Prop :=
  timeoutReply elapsed cause ∈ w.written ∨
    ∃ returning, w.phase = .sending (timeoutReply elapsed cause) returning

theorem timeoutReply_inj {el el' : Nat} {c c' : GoError}
    (h : timeoutReply el c = timeoutReply el' c') : el = el' ∧ c = c' := by
  simpa [timeoutReply] using h

/-- A worker step adds a timeout only by taking a timeout case of its select: every timeout the
worker has after a step it had before, or the step is the context's end or the subscription's
closure that reported it. -/
theorem ReplyWorker.timeoutIn_step {w w' : ReplyWorker} {e : WorkerEvent}
    (h : w.step p cmdUuid e = some w') {elapsed : Nat} {cause : GoError}
    (ht : w'.TimeoutIn elapsed cause) :
    w.TimeoutIn elapsed cause ∨ e = .ctxDone elapsed cause ∨
      (e = .subscriptionClosed elapsed ∧ cause = subscriberClosed) := by
  rcases ht with hmem | ⟨returning, hp⟩
  · rcases ReplyWorker.step_cases p cmdUuid h with
      ⟨r, -, -, rfl⟩ | ⟨msg, -, -, rfl⟩ | ⟨r, ret, hp, -, rfl⟩ | ⟨r, -, rfl⟩
    · exact .inl (.inl hmem)
    · exact .inl (.inl hmem)
    · rcases List.mem_append.mp hmem with hmem | hmem
      · exact .inl (.inl hmem)
      · rw [← List.mem_singleton.mp hmem] at hp
        exact .inl (.inr ⟨ret, hp⟩)
    · exact .inl (.inl hmem)
  · cases e with
    | ctxDone el c =>
      cases hw : w.phase <;> simp [ReplyWorker.step, hw] at h
      subst h
      obtain ⟨rfl, rfl⟩ := timeoutReply_inj (WorkerPhase.sending.inj hp).1
      exact .inr (.inl rfl)
    | subscriptionClosed el =>
      cases hw : w.phase <;> simp [ReplyWorker.step, hw] at h
      subst h
      obtain ⟨rfl, rfl⟩ := timeoutReply_inj (WorkerPhase.sending.inj hp).1
      exact .inr (.inr ⟨rfl, rfl⟩)
    | notification msg =>
      obtain ⟨-, rfl⟩ := ReplyWorker.step_notification p cmdUuid h
      cases hr : replyOf p cmdUuid msg with
      | none => simp [hr] at hp
      | some r =>
        simp only [hr, WorkerPhase.sending.injEq] at hp
        have := replyOf_replyMsg p cmdUuid hr
        rw [hp.1] at this
        cases this
    | sendCompletes =>
      cases hw : w.phase <;> cases hb : w.buffer <;> simp [ReplyWorker.step, hw, hb] at h
      subst h
      split at hp <;> cases hp
    | readerReceives =>
      cases hb : w.buffer <;> simp [ReplyWorker.step, hb] at h
      subst h
      exact .inl (.inr ⟨returning, hp⟩)

/-- What holds of every timed listener reachable from a start with the deadline `deadline`: the
worker is reachable and the deadline fixed; once the clock has reached the deadline, or the
parent has ended, the context has ended; `ctx.Err()` is the parent's error, or the deadline's
once the clock has reached it; and each timeout reports a time already passed, and the closed
subscription, the parent's error, or the deadline's at or after the deadline. -/
structure TimedListener.Invariant (deadline : Option Nat) (l : TimedListener) : Prop where
  worker : l.worker.Reachable p cmdUuid
  deadline : l.deadline = deadline
  expired : ∀ d, l.deadline = some d → d ≤ l.now → l.err.isSome
  parent : l.parentErr.isSome → l.err.isSome
  err : ∀ cause, l.err = some cause →
    l.parentErr = some cause ∨ (cause = deadlineExceeded ∧ ∃ d, l.deadline = some d ∧ d ≤ l.now)
  timeouts : ∀ elapsed cause, l.worker.TimeoutIn elapsed cause → elapsed ≤ l.now ∧
    (cause = subscriberClosed ∨ l.parentErr = some cause ∨
      (cause = deadlineExceeded ∧ ∃ d, l.deadline = some d ∧ d ≤ elapsed))

theorem TimedListener.invariant_start (context : ListenContext) (setup : Nat) :
    (TimedListener.start context setup).Invariant p cmdUuid
      (TimedListener.start context setup).deadline where
  worker := .init
  deadline := rfl
  expired _ hd hnow := expiredErr_isSome _ hd hnow
  parent h := by cases h
  err _ h := .inr (expiredErr_eq_some h)
  timeouts := by rintro elapsed cause (h | ⟨_, h⟩) <;> cases h

/-- One step keeps the invariant. -/
theorem TimedListener.Invariant.step {deadline : Option Nat} {l l' : TimedListener}
    {e : ListenEvent} (hi : l.Invariant p cmdUuid deadline) (h : l.step p cmdUuid e = some l') :
    l'.Invariant p cmdUuid deadline := by
  obtain ⟨hworker, hdeadline, hexpired, hparent, herr, htimeouts⟩ := hi
  rcases TimedListener.step_cases p cmdUuid h with rfl | ⟨cause, rfl⟩ |
      ⟨we, w, hw, rfl, hctx, hclosed⟩
  · refine ⟨hworker, hdeadline, fun d hd hnow => expiredErr_isSome _ hd hnow, fun h => ?_,
      fun cause h => ?_, fun elapsed cause ht => ?_⟩
    · obtain ⟨e, he⟩ := Option.isSome_iff_exists.mp (hparent h)
      simp [TimedListener.expire, he, expiredErr_some]
    · cases he : l.err with
      | some e =>
        simp only [TimedListener.expire, he, expiredErr_some, Option.some.injEq] at h
        subst h
        exact (herr e he).imp_right fun ⟨hde, d, hd, hle⟩ => ⟨hde, d, hd, Nat.le_succ_of_le hle⟩
      | none =>
        simp only [TimedListener.expire, he] at h
        exact .inr (expiredErr_eq_some h)
    · obtain ⟨hle, hcause⟩ := htimeouts elapsed cause ht
      exact ⟨Nat.le_succ_of_le hle, hcause⟩
  · refine ⟨hworker, hdeadline, fun _ _ _ => rfl, fun _ => rfl, fun c h => ?_,
      fun elapsed c ht => ?_⟩
    · cases he : l.err with
      | some e =>
        simp only [he, Option.getD_some, Option.some.injEq] at h
        subst h
        rcases herr e he with hp | hde
        · exact .inl (by simp [hp])
        · exact .inr hde
      | none =>
        simp only [he, Option.getD_none, Option.some.injEq] at h
        subst h
        cases hp : l.parentErr with
        | none => exact .inl rfl
        | some e => simpa [he] using hparent (by simp [hp])
    · obtain ⟨hle, hcause⟩ := htimeouts elapsed c ht
      refine ⟨hle, hcause.imp_right (Or.imp_left fun hp => ?_)⟩
      simp [hp]
  · refine ⟨hworker.step hw, hdeadline, hexpired, hparent, herr, fun elapsed cause ht => ?_⟩
    rcases ReplyWorker.timeoutIn_step p cmdUuid hw ht with ht | rfl | ⟨rfl, rfl⟩
    · exact htimeouts elapsed cause ht
    · obtain ⟨rfl, hc⟩ := hctx elapsed cause rfl
      exact ⟨le_rfl, .inr (herr cause hc)⟩
    · exact ⟨(hclosed elapsed rfl).le, .inl rfl⟩

theorem TimedListener.Reachable.invariant {start l : TimedListener}
    (hl : TimedListener.Reachable p cmdUuid start l)
    (hstart : start.Invariant p cmdUuid start.deadline) :
    l.Invariant p cmdUuid start.deadline := by
  induction hl with
  | start => exact hstart
  | step _ hs ih => exact ih.step p cmdUuid hs

/-- The timeouts of `ListenForReply`. Start the worker of a successful `ListenForReply` for
`cmdMsg` when `setup` has passed since its start, with the context it derived, and run it with
the clock, the end of its parent context, and every behaviour of the subscription and of the
reader. The worker goes through a run of `ReplyWorker`. Once `ListenForReplyTimeout` has passed
since the context was derived, the context has ended; with no `ListenForReplyTimeout` it ends
only with its parent. Every `ReplyTimeoutError` the worker writes or is sending reports an
elapsed time no later than the clock and, while the parent lives, the closed subscription, or
`context deadline exceeded` with `ListenForReplyTimeout` set and an elapsed time at least
`setup` plus the timeout. -/
theorem listenForReply_timeouts (p : PubSubRequestReply Command) (cmdMsg : Message)
    (command : Command) (subscription : ReplySubscription)
    (hsub : p.listenForReply cmdMsg command = .ok subscription) (setup : Nat) {l : TimedListener}
    (hl : TimedListener.Reachable p cmdMsg.uuid (TimedListener.start subscription.context setup) l) :
    l.worker.Reachable p cmdMsg.uuid ∧
    (∀ timeout, p.config.listenForReplyTimeout = some timeout → setup + timeout ≤ l.now →
      l.err.isSome) ∧
    (p.config.listenForReplyTimeout = none → l.parentErr = none → l.err = none) ∧
    ∀ elapsed cause, l.worker.TimeoutIn elapsed cause → elapsed ≤ l.now ∧
      (l.parentErr = none → cause = subscriberClosed ∨
        (cause = deadlineExceeded ∧ ∃ timeout, p.config.listenForReplyTimeout = some timeout ∧
          setup + timeout ≤ elapsed)) := by
  obtain ⟨hworker, hdeadline, hexpired, -, herr, htimeouts⟩ :=
    hl.invariant p cmdMsg.uuid (TimedListener.invariant_start p cmdMsg.uuid _ setup)
  have hctx := listenForReply_context p hsub
  have hd : l.deadline = p.config.listenForReplyTimeout.map (setup + ·) := by
    rw [hdeadline]
    cases ht : p.config.listenForReplyTimeout <;> simp [hctx, ht, TimedListener.start,
      TimedListener.expire]
  refine ⟨hworker, fun timeout ht hle => hexpired _ (by simp [hd, ht]) hle, fun ht hp => ?_,
    fun elapsed cause hin => ?_⟩
  · cases he : l.err with
    | none => rfl
    | some cause =>
      rcases herr cause he with h | ⟨-, d, h, -⟩
      · simp [hp] at h
      · simp [hd, ht] at h
  · obtain ⟨hle, hcause⟩ := htimeouts elapsed cause hin
    refine ⟨hle, fun hp => ?_⟩
    rcases hcause with h | h | ⟨hde, d, h, hdle⟩
    · exact .inl h
    · simp [hp] at h
    · rw [hd] at h
      obtain ⟨timeout, ht, rfl⟩ := Option.map_eq_some'.mp h
      exact .inr ⟨hde, timeout, ht, hdle⟩

def sampleTimeoutPubSub : PubSubRequestReply Unit :=
  ⟨PubSubRequestReplyConfig.setDefaults sampleMarshaler
    { publisher := some fun _ _ => none
      subscriberConstructor := some fun _ => .ok ⟨fun _ _ => none⟩
      generateReplyNotificationTopic := some fun params => .ok ("reply-" ++ params.commandUUID)
      marshaler := none
      logger := none
      listenForReplyTimeout := some 3
      modifyNotificationMessage := none },
    PubSubRequestReplyConfig.valid_setDefaults sampleMarshaler rfl⟩

def sampleTimedListener : TimedListener :=
  ((TimedListener.start (.withTimeout 3) 1).run sampleTimeoutPubSub "cmd-1"
    [.tick, .tick, .tick, .ctxDone, .sendCompletes]).getD (TimedListener.start (.withTimeout 3) 1)

theorem listenForReply_timeouts_sample :
    sampleTimeoutPubSub.listenForReply ⟨"cmd-1", .empty, []⟩ () = .ok ⟨"reply-cmd-1", .withTimeout 3⟩ ∧
    TimedListener.Reachable sampleTimeoutPubSub "cmd-1" (TimedListener.start (.withTimeout 3) 1)
      sampleTimedListener ∧
    sampleTimedListener.worker.TimeoutIn 4 deadlineExceeded ∧
    (sampleTimedListener.worker.Reachable sampleTimeoutPubSub "cmd-1" ∧
    (∀ timeout, sampleTimeoutPubSub.config.listenForReplyTimeout = some timeout →
      1 + timeout ≤ sampleTimedListener.now → sampleTimedListener.err.isSome) ∧
    (sampleTimeoutPubSub.config.listenForReplyTimeout = none →
      sampleTimedListener.parentErr = none → sampleTimedListener.err = none) ∧
    ∀ elapsed cause, sampleTimedListener.worker.TimeoutIn elapsed cause →
      elapsed ≤ sampleTimedListener.now ∧
      (sampleTimedListener.parentErr = none → cause = subscriberClosed ∨
        (cause = deadlineExceeded ∧ ∃ timeout,
          sampleTimeoutPubSub.config.listenForReplyTimeout = some timeout ∧
          1 + timeout ≤ elapsed))) :=
  have hsub : sampleTimeoutPubSub.listenForReply ⟨"cmd-1", .empty, []⟩ () =
      .ok ⟨"reply-cmd-1", .withTimeout 3⟩ := rfl
  have hl : TimedListener.Reachable sampleTimeoutPubSub "cmd-1"
      (TimedListener.start (.withTimeout 3) 1) sampleTimedListener :=
    TimedListener.Reachable.run sampleTimeoutPubSub "cmd-1" .start
      [.tick, .tick, .tick, .ctxDone, .sendCompletes] rfl
  ⟨hsub, hl, .inl (by decide),
    listenForReply_timeouts sampleTimeoutPubSub ⟨"cmd-1", .empty, []⟩ () _ hsub 1 hl⟩

end Watermill.Cqrs
