import Watermill.Cqrs.ReplyWorker
import Mathlib.Data.List.Nodup

/-!
# Listeners competing on one reply topic

`GenerateReplyNotificationTopic` may send the notifications of many commands to one topic. When
the listeners' subscriptions consume that topic as competing consumers, the transport hands
each pending notification to one subscriber and removes it once it is acked. `SharedTopic`
is the topic's queue with one `ReplyWorker` per listener, and `SharedTopic.step` interleaves
publications, deliveries and each listener's own events.

`handleNotifyMsg` acks before it compares UUIDs, so a delivery is consumed by whichever
listener gets it. `SharedTopic.Reachable.invariant` says what holds over every interleaving:
every publication is pending or consumed, once; a listener has received and acked exactly its
own consumptions; and each listener's worker is in a reachable state of its own.
`sharedTopic_consumption` reads off that a consumed notification gives a reply only at the
listener that took it, and only when it carries that listener's UUID.
-/

set_option autoImplicit false
set_option relaxedAutoImplicit false

namespace Watermill.Cqrs

/-- One consumption: the publication's number, the listener that took it, the notification. -/
structure Consumption where
  id : Nat
  listener : Nat
  msg : Message
  deriving DecidableEq, Repr

/-- Listeners, each with its command UUID and its worker, and the shared topic's queue: the
notifications published and not yet acked, each with its publication's number, the number of
publications so far, and the consumptions. -/
structure SharedTopic where
  listeners : List (String × ReplyWorker)
  pending : List (Nat × Message)
  published : Nat
  consumed : List Consumption
  deriving DecidableEq, Repr

/-- What can happen next on the topic: a `Publish` of a notification to it; the transport hands
the pending notification at `index` to listener `listener`; or any other event of one listener's
worker. -/
inductive TopicEvent where
  | publish (msg : Message)
  | deliver (listener index : Nat)
  | listenerEvent (listener : Nat) (event : WorkerEvent)
  deriving DecidableEq, Repr

/-- The listeners for `uuids`, as their `ListenForReply` calls start them. -/
def SharedTopic.init (uuids : List String) : SharedTopic :=
  ⟨uuids.map (·, ReplyWorker.init), [], 0, []⟩

variable {Command : Type} (p : PubSubRequestReply Command)

/-- One step on the topic; a delivered notification leaves the queue, since the worker acks
every notification it receives. -/
def SharedTopic.step (s : SharedTopic) : TopicEvent → Option SharedTopic
  | .publish msg =>
    some { s with pending := s.pending ++ [(s.published, msg)], published := s.published + 1 }
  | .deliver i k =>
    match s.listeners[i]?, s.pending[k]? with
    | some (uuid, w), some entry =>
      match w.step p uuid (.notification entry.2) with
      | some w' =>
        some { s with listeners := s.listeners.set i (uuid, w'), pending := s.pending.eraseIdx k,
                      consumed := s.consumed ++ [⟨entry.1, i, entry.2⟩] }
      | none => none
    | _, _ => none
  | .listenerEvent i e =>
    match e, s.listeners[i]? with
    | .notification _, _ => none
    | e, some (uuid, w) =>
      (w.step p uuid e).map fun w' => { s with listeners := s.listeners.set i (uuid, w') }
    | _, none => none

/-- The states of every interleaving. -/
inductive SharedTopic.Reachable (uuids : List String) : SharedTopic → Prop where
  | init : SharedTopic.Reachable uuids (SharedTopic.init uuids)
  | step {s s' : SharedTopic} {e : TopicEvent} :
      SharedTopic.Reachable uuids s → s.step p e = some s' → SharedTopic.Reachable uuids s'

/-- A run: the events in order, as long as each can happen. -/
def SharedTopic.run : SharedTopic → List TopicEvent → Option SharedTopic
  | s, [] => some s
  | s, e :: es => (s.step p e).bind (SharedTopic.run · es)

theorem SharedTopic.Reachable.run {uuids : List String} {s s' : SharedTopic}
    (hs : s.Reachable p uuids) (es : List TopicEvent) (h : s.run p es = some s') :
    s'.Reachable p uuids := by
  induction es generalizing s with
  | nil => cases h; exact hs
  | cons e es ih =>
    simp only [SharedTopic.run] at h
    cases hstep : s.step p e with
    | none => simp [hstep] at h
    | some s₁ => exact ih (hs.step hstep) (by simpa [hstep] using h)

/-- What holds over every interleaving. -/
structure SharedTopic.Invariant (uuids : List String) (s : SharedTopic) : Prop where
  uuids : s.listeners.map Prod.fst = uuids
  publications : (s.consumed.map Consumption.id ++ s.pending.map Prod.fst).Perm
    (List.range s.published)
  listeners : ∀ i uuid w, s.listeners[i]? = some (uuid, w) →
    w.Reachable p uuid ∧ w.received = (s.consumed.filter (·.listener = i)).map Consumption.msg

theorem map_fst_set_of_getElem? {l : List (String × ReplyWorker)} {i : Nat} {uuid : String}
    {w w' : ReplyWorker} (h : l[i]? = some (uuid, w)) :
    (l.set i (uuid, w')).map Prod.fst = l.map Prod.fst := by
  apply List.ext_getElem?
  intro j
  by_cases hij : i = j
  · subst hij
    have hlt : i < l.length := (List.getElem?_eq_some_iff.mp h).1
    rw [List.map_set, List.getElem?_set_self (by simpa using hlt), List.getElem?_map, h]
    rfl
  · simp [List.getElem?_set_ne hij]

/-- A worker event other than a notification leaves the received notifications alone. -/
theorem ReplyWorker.step_received {cmdUuid : String} {w w' : ReplyWorker} {e : WorkerEvent}
    (he : ∀ msg, e ≠ .notification msg) (h : w.step p cmdUuid e = some w') :
    w'.received = w.received := by
  rcases ReplyWorker.step_cases p cmdUuid h with
    ⟨_, _, _, rfl⟩ | ⟨msg, rfl, -⟩ | ⟨_, _, _, _, rfl⟩ | ⟨_, _, rfl⟩
  any_goals rfl
  exact absurd rfl (he msg)

theorem getElem?_set_eq_some {l : List (String × ReplyWorker)} {i j : Nat}
    {a b : String × ReplyWorker} (hi : i < l.length) (h : (l.set i a)[j]? = some b) :
    (i = j ∧ b = a) ∨ (i ≠ j ∧ l[j]? = some b) := by
  rw [List.getElem?_set] at h
  split_ifs at h with hij
  · exact .inl ⟨hij, (Option.some.inj h).symm⟩
  · exact .inr ⟨hij, h⟩

/-- Everything one step on the topic can do: a publication gets the next number; a delivery
to a listener at its `select` is acked, so it leaves the queue and is recorded as consumed by
that listener; or one listener takes another event of its own. -/
theorem SharedTopic.step_cases {s s' : SharedTopic} {e : TopicEvent} (h : s.step p e = some s') :
    (∃ msg, e = .publish msg ∧ s' = { s with pending := s.pending ++ [(s.published, msg)],
                                             published := s.published + 1 }) ∨
    (∃ i k uuid w w' entry, e = .deliver i k ∧ s.listeners[i]? = some (uuid, w) ∧
      s.pending[k]? = some entry ∧ w.step p uuid (.notification entry.2) = some w' ∧
      s' = { s with listeners := s.listeners.set i (uuid, w'), pending := s.pending.eraseIdx k,
                    consumed := s.consumed ++ [⟨entry.1, i, entry.2⟩] }) ∨
    (∃ i uuid w w' event, e = .listenerEvent i event ∧ (∀ msg, event ≠ .notification msg) ∧
      s.listeners[i]? = some (uuid, w) ∧ w.step p uuid event = some w' ∧
      s' = { s with listeners := s.listeners.set i (uuid, w') }) := by
  cases e with
  | publish msg => exact .inl ⟨msg, rfl, (Option.some.inj h).symm⟩
  | deliver i k =>
    simp only [SharedTopic.step] at h
    cases hl : s.listeners[i]? with
    | none => simp [hl] at h
    | some lw =>
      obtain ⟨uuid, w⟩ := lw
      cases hk : s.pending[k]? with
      | none => simp [hl, hk] at h
      | some entry =>
        cases hw : w.step p uuid (.notification entry.2) with
        | none => simp [hl, hk, hw] at h
        | some w' =>
          simp only [hl, hk, hw, Option.some.injEq] at h
          exact .inr (.inl ⟨i, k, uuid, w, w', entry, rfl, hl, hk, hw, h.symm⟩)
  | listenerEvent i event =>
    cases hl : s.listeners[i]? with
    | none => cases event <;> simp [SharedTopic.step, hl] at h
    | some lw =>
      obtain ⟨uuid, w⟩ := lw
      cases event with
      | notification msg => simp [SharedTopic.step] at h
      | _ =>
        simp only [SharedTopic.step, hl, Option.map_eq_some'] at h
        obtain ⟨w', hw, rfl⟩ := h
        exact .inr (.inr ⟨i, uuid, w, w', _, rfl, (by intro _ h; cases h), hl, hw, rfl⟩)

/-- One step keeps the invariant. -/
theorem SharedTopic.Invariant.step {uuids : List String} {s s' : SharedTopic} {e : TopicEvent}
    (hi : s.Invariant p uuids) (h : s.step p e = some s') : s'.Invariant p uuids := by
  obtain ⟨huuids, hpub, hlist⟩ := hi
  rcases SharedTopic.step_cases p h with ⟨msg, -, rfl⟩ |
      ⟨i, k, uuid, w, w', entry, -, hl, hk, hw, rfl⟩ | ⟨i, uuid, w, w', event, -, hev, hl, hw, rfl⟩
  · refine ⟨huuids, ?_, hlist⟩
    simpa [List.range_succ, ← List.append_assoc] using hpub.append_right [s.published]
  · have hlt : i < s.listeners.length := (List.getElem?_eq_some_iff.mp hl).1
    obtain ⟨hklt, rfl⟩ := List.getElem?_eq_some_iff.mp hk
    have hperm := ((List.perm_cons_erase (List.getElem_mem hklt)).trans
      ((List.erase_getElem hklt).cons _)).map Prod.fst
    refine ⟨(map_fst_set_of_getElem? hl).trans huuids, ?_, fun j uuid' w'' hj => ?_⟩
    · refine List.Perm.trans ?_ hpub
      simpa using hperm.symm.append_left (s.consumed.map Consumption.id)
    rcases getElem?_set_eq_some hlt hj with ⟨rfl, hb⟩ | ⟨hij, hj⟩
    · cases hb
      obtain ⟨hreach, hrec⟩ := hlist i uuid w hl
      refine ⟨hreach.step hw, ?_⟩
      obtain ⟨-, rfl⟩ := ReplyWorker.step_notification p uuid hw
      simp [hrec]
    · obtain ⟨hreach, hrec⟩ := hlist j uuid' w'' hj
      exact ⟨hreach, by simp [hrec, hij]⟩
  · have hlt : i < s.listeners.length := (List.getElem?_eq_some_iff.mp hl).1
    refine ⟨(map_fst_set_of_getElem? hl).trans huuids, hpub, fun j uuid' w'' hj => ?_⟩
    rcases getElem?_set_eq_some hlt hj with ⟨rfl, hb⟩ | ⟨-, hj⟩
    · cases hb
      obtain ⟨hreach, hrec⟩ := hlist i uuid w hl
      exact ⟨hreach.step hw, (ReplyWorker.step_received p hev hw).trans hrec⟩
    · exact hlist j uuid' w'' hj

theorem SharedTopic.Reachable.invariant {uuids : List String} {s : SharedTopic}
    (hs : s.Reachable p uuids) : s.Invariant p uuids := by
  induction hs with
  | init =>
    refine ⟨by simp [SharedTopic.init, Function.comp_def], by simp [SharedTopic.init], ?_⟩
    intro i uuid w h
    simp only [SharedTopic.init, List.getElem?_map, Option.map_eq_some'] at h
    obtain ⟨_, -, h⟩ := h
    cases h
    exact ⟨.init, rfl⟩
  | step _ hstep ih => exact ih.step p hstep

/-- A publication: the message is queued with the next number. -/
def SharedTopic.enqueue (s : SharedTopic) (msg : Message) : SharedTopic :=
  { s with pending := s.pending ++ [(s.published, msg)], published := s.published + 1 }

theorem SharedTopic.step_publish (s : SharedTopic) (msg : Message) :
    s.step p (.publish msg) = some (s.enqueue msg) := rfl

/-- Every notification on the topic, pending or consumed, satisfies `P`. -/
def SharedTopic.AllMessages (P : Message → Prop) (s : SharedTopic) : Prop :=
  (∀ entry ∈ s.pending, P entry.2) ∧ ∀ c ∈ s.consumed, P c.msg

theorem SharedTopic.allMessages_init (P : Message → Prop) (uuids : List String) :
    (SharedTopic.init uuids).AllMessages P := by
  simp [SharedTopic.AllMessages, SharedTopic.init]

/-- Assumes: a step that publishes only messages satisfying `P`. Deliveries and the listeners'
own events only move notifications from the queue to the consumed ones, so `P` of every
notification is kept. -/
theorem SharedTopic.AllMessages.step {P : Message → Prop} {s s' : SharedTopic} {e : TopicEvent}
    (hall : s.AllMessages P) (hpub : ∀ msg, e = .publish msg → P msg)
    (h : s.step p e = some s') : s'.AllMessages P := by
  obtain ⟨hpending, hconsumed⟩ := hall
  rcases SharedTopic.step_cases p h with ⟨msg, rfl, rfl⟩ |
      ⟨i, k, uuid, w, w', entry, -, -, hk, -, rfl⟩ | ⟨i, uuid, w, w', event, -, -, -, -, rfl⟩
  · refine ⟨fun entry hentry => ?_, hconsumed⟩
    rcases List.mem_append.mp hentry with hentry | hentry
    · exact hpending entry hentry
    · rw [List.mem_singleton.mp hentry]
      exact hpub msg rfl
  · have hentry : entry ∈ s.pending := List.getElem?_mem hk
    refine ⟨fun e he => hpending e (List.mem_of_mem_eraseIdx he), fun c hc => ?_⟩
    rcases List.mem_append.mp hc with hc | hc
    · exact hconsumed c hc
    · rw [List.mem_singleton.mp hc]
      exact hpending entry hentry
  · exact ⟨hpending, hconsumed⟩

/-- Listeners for `uuids` competing on one reply topic, over every interleaving of
publications, deliveries and the listeners' own events. Each publication is consumed at most
once, and a consumed one is no longer on the topic; a listener has received, and acked, exactly
the notifications delivered to it, in order; and each reply a listener writes is a timeout, or
carries a notification delivered to that listener, stamped with that listener's UUID, that
decodes. A notification for one command delivered to the listener of another is therefore
consumed with no reply anywhere. -/
theorem sharedTopic_consumption (uuids : List String) {s : SharedTopic}
    (hs : s.Reachable p uuids) :
    s.listeners.map Prod.fst = uuids ∧
    (s.consumed.map Consumption.id).Nodup ∧
    (∀ c ∈ s.consumed, c.id ∉ s.pending.map Prod.fst) ∧
    ∀ i uuid w, s.listeners[i]? = some (uuid, w) →
      w.received = (s.consumed.filter (·.listener = i)).map Consumption.msg ∧
      w.acked = w.received ∧
      ∀ r ∈ w.written, r.IsTimeout ∨
        ∃ c ∈ s.consumed, c.listener = i ∧ r.replyMsg = some c.msg ∧
          c.msg.metadata.get handledCommandUuidMetadataKey = uuid ∧
          ∃ n, p.marshaler.unmarshal c.msg = .ok n := by
  obtain ⟨huuids, hpub, hlist⟩ := hs.invariant
  obtain ⟨hconsumed, -, hdisjoint⟩ :=
    List.nodup_append.mp (hpub.nodup_iff.mpr (List.nodup_range _))
  refine ⟨huuids, hconsumed, fun c hc hpending => hdisjoint (List.mem_map_of_mem _ hc) hpending,
    fun i uuid w hl => ?_⟩
  obtain ⟨hreach, hrec⟩ := hlist i uuid w hl
  have hi := hreach.invariant
  refine ⟨hrec, hi.acked, fun r hr => ?_⟩
  rcases hi.mem_written p uuid hr with htime | ⟨msg, hmsg, hreply⟩
  · exact .inl htime
  obtain ⟨huuid, n, hn, rfl⟩ := (replyOf_eq_some p uuid).mp hreply
  rw [hrec] at hmsg
  obtain ⟨c, hc, rfl⟩ := List.mem_map.mp hmsg
  obtain ⟨hc, hci⟩ := List.mem_filter.mp hc
  exact .inr ⟨c, hc, of_decide_eq_true hci, rfl, huuid, n, hn⟩

def sampleSharedTopic : SharedTopic :=
  ⟨[("cmd-1", sampleRepliedWorker), ("cmd-2", ReplyWorker.init)], [], 1,
    [⟨0, 0, sampleNotification⟩]⟩

theorem sampleSharedTopic_reachable :
    sampleSharedTopic.Reachable samplePubSub ["cmd-1", "cmd-2"] :=
  SharedTopic.Reachable.init.run samplePubSub
    [.publish sampleNotification, .deliver 0 0, .listenerEvent 0 .sendCompletes] rfl

theorem sharedTopic_consumption_sample :
    sampleSharedTopic.Reachable samplePubSub ["cmd-1", "cmd-2"] ∧
    sampleSharedTopic.listeners.map Prod.fst = ["cmd-1", "cmd-2"] ∧
    (sampleSharedTopic.consumed.map Consumption.id).Nodup ∧
    (∀ c ∈ sampleSharedTopic.consumed, c.id ∉ sampleSharedTopic.pending.map Prod.fst) ∧
    ∀ i uuid w, sampleSharedTopic.listeners[i]? = some (uuid, w) →
      w.received = (sampleSharedTopic.consumed.filter (·.listener = i)).map Consumption.msg ∧
      w.acked = w.received ∧
      ∀ r ∈ w.written, r.IsTimeout ∨
        ∃ c ∈ sampleSharedTopic.consumed, c.listener = i ∧ r.replyMsg = some c.msg ∧
          c.msg.metadata.get handledCommandUuidMetadataKey = uuid ∧
          ∃ n, samplePubSub.marshaler.unmarshal c.msg = .ok n :=
  ⟨sampleSharedTopic_reachable,
    sharedTopic_consumption samplePubSub ["cmd-1", "cmd-2"] sampleSharedTopic_reachable⟩

def sampleSharedPubSub : PubSubRequestReply Unit :=
  ⟨PubSubRequestReplyConfig.setDefaults sampleMarshaler
    { publisher := some fun _ _ => none
      subscriberConstructor := some fun _ => .ok ⟨fun _ _ => none⟩
      generateReplyNotificationTopic := some fun _ => .ok "replies"
      marshaler := none
      logger := none
      listenForReplyTimeout := none
      modifyNotificationMessage := none },
    PubSubRequestReplyConfig.valid_setDefaults sampleMarshaler rfl⟩

/-- A backend that sends every command's notifications to the one topic `replies`: a
notification for `cmd-1` delivered to the listener for `cmd-2` is acked and consumed there, with
no reply, and the listener for `cmd-1` never receives it. -/
theorem sharedTopic_foreign_listener_consumes :
    sampleSharedPubSub.generateReplyNotificationTopic ⟨"cmd-1", ⟨"cmd-1", .empty, []⟩, ()⟩ =
      .ok "replies" ∧
    sampleSharedPubSub.generateReplyNotificationTopic ⟨"cmd-2", ⟨"cmd-2", .empty, []⟩, ()⟩ =
      .ok "replies" ∧
    ∃ s : SharedTopic, s.Reachable sampleSharedPubSub ["cmd-1", "cmd-2"] ∧
      s.consumed = [⟨0, 1, sampleNotification⟩] ∧ s.pending = [] ∧
      s.listeners = [("cmd-1", ReplyWorker.init),
        ("cmd-2", { ReplyWorker.init with received := [sampleNotification],
                                          acked := [sampleNotification] })] :=
  ⟨rfl, rfl, _, SharedTopic.Reachable.init.run sampleSharedPubSub
    [.publish sampleNotification, .deliver 1 0] rfl, rfl, rfl, rfl⟩

end Watermill.Cqrs
