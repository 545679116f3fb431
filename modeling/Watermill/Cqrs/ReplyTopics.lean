import Watermill.Cqrs.SharedReplyTopic

/-!
# Reply topics fed by `OnCommandProcessed`

The request/reply backend joins two sides through the transport. On the handler's side,
`OnCommandProcessed` publishes each finished command's notification to the topic
`GenerateReplyNotificationTopic` yields for it; on the caller's side, `ListenForReply` subscribes
a listener to the topic the same generator yields for the command it waits for. `ReplyNetwork`
is the transport's reply topics, each a `SharedTopic` queue with the listeners subscribed to it,
and `ReplyNetwork.step` interleaves handlers finishing (`OnCommandProcessed` and the publications
it makes), deliveries and the listeners' own events. A publication to a topic nobody subscribed
to is lost.

`ReplyNetwork.Reachable.invariant` says what holds over every interleaving: every notification
queued on or consumed from a topic was published to it by `OnCommandProcessed` for a command
whose generated topic it is, and carries that command's UUID and handler outcome; and each
topic's listeners were subscribed to it by `ListenForReply` and took their steps from the start.
`replyNetwork_dedicated_topics` is the guarantee the shared topic of
`Watermill.Cqrs.SharedReplyTopic` lacks: when the generator gives different commands different
topics, every notification a listener consumes is for its own command, and each is answered,
in order.

Scope. The marshaler's round trip and the modify hook's preservation of the payload and the
command UUID are hypotheses, as for `OnCommandProcessed` alone. A message handed to the
publisher is queued whatever the publisher answers, which covers a transport that delivers a
message whose publication reported an error.
-/

set_option autoImplicit false
set_option relaxedAutoImplicit false

namespace Watermill.Cqrs

/-- The transport's reply topics: each topic's queue with the listeners subscribed to it. -/
structure ReplyNetwork where
  topics : List (String × SharedTopic)

/-- What can happen next on the reply topics: a command handler finishes and
`OnCommandProcessed(cmdMsg, cmd, handleErr)` runs, or a delivery or a listener's own event
happens on the topic at `index`. -/
inductive NetworkEvent (Command : Type) where
  | commandProcessed (cmdMsg : Message) (cmd : Command) (handleErr : Option GoError)
  | topicEvent (index : Nat) (event : TopicEvent)

/-- The topics, each with the command UUIDs of the listeners subscribed to it. -/
def ReplyNetwork.init (subscriptions : List (String × List String)) : ReplyNetwork :=
  ⟨subscriptions.map fun sub => (sub.1, SharedTopic.init sub.2)⟩

/-- `Publish(topic, msg)`: the message is queued on the topic. -/
def ReplyNetwork.publish (net : ReplyNetwork) (topic : String) (msg : Message) : ReplyNetwork :=
  ⟨net.topics.map fun entry => if entry.1 = topic then (entry.1, entry.2.enqueue msg) else entry⟩

variable {Command : Type} (p : PubSubRequestReply Command)

/-- One step on the reply topics; only `OnCommandProcessed` publishes. -/
def ReplyNetwork.step (net : ReplyNetwork) : NetworkEvent Command → Option ReplyNetwork
  | .commandProcessed cmdMsg cmd handleErr =>
    some ((p.onCommandProcessed cmdMsg cmd handleErr).1.foldl
      (fun net publication => net.publish publication.1 publication.2) net)
  | .topicEvent j event =>
    match event, net.topics[j]? with
    | .publish _, _ => none
    | event, some (topic, s) => (s.step p event).map fun s' => ⟨net.topics.set j (topic, s')⟩
    | _, none => none

/-- The states of every interleaving. -/
inductive ReplyNetwork.Reachable (subscriptions : List (String × List String)) :
    ReplyNetwork → Prop where
  | init : ReplyNetwork.Reachable subscriptions (ReplyNetwork.init subscriptions)
  | step {net net' : ReplyNetwork} {e : NetworkEvent Command} :
      ReplyNetwork.Reachable subscriptions net → net.step p e = some net' →
      ReplyNetwork.Reachable subscriptions net'

/-- A run: the events in order, as long as each can happen. -/
def ReplyNetwork.run : ReplyNetwork → List (NetworkEvent Command) → Option ReplyNetwork
  | net, [] => some net
  | net, e :: es => (net.step p e).bind (ReplyNetwork.run · es)

theorem ReplyNetwork.Reachable.run {subscriptions : List (String × List String)}
    {net net' : ReplyNetwork} (hnet : net.Reachable p subscriptions)
    (es : List (NetworkEvent Command)) (h : net.run p es = some net') :
    net'.Reachable p subscriptions := by
  induction es generalizing net with
  | nil => cases h; exact hnet
  | cons e es ih =>
    simp only [ReplyNetwork.run] at h
    cases hs : net.step p e with
    | none => simp [hs] at h
    | some net₁ => exact ih (hnet.step hs) (by simpa [hs] using h)

/-! ### What every topic keeps -/

/-- `ListenForReply` subscribed a listener for the command UUID `uuid` to `topic`. -/
def Subscribed (uuid topic : String) : Prop :=
  ∃ (listenMsg : Message) (command : Command) (subscription : ReplySubscription),
    listenMsg.uuid = uuid ∧ p.listenForReply listenMsg command = .ok subscription ∧
      subscription.topic = topic

/-- `OnCommandProcessed` published `n` to `topic`: `topic` is the one generated for the command,
and `n` carries its UUID and decodes to its handler's outcome. -/
def PublishedTo (topic : String) (n : Message) : Prop :=
  ∃ (cmdMsg : Message) (cmd : Command) (handleErr : Option GoError),
    p.generateReplyNotificationTopic ⟨cmdMsg.uuid, cmdMsg, cmd⟩ = .ok topic ∧
      n.metadata.get handledCommandUuidMetadataKey = cmdMsg.uuid ∧
      p.marshaler.unmarshal n = .ok (notificationOf handleErr)

/-- What holds of every topic: its listeners were subscribed to it and took their steps from
the start, and every notification on it or consumed from it was published to it. -/
structure TopicInvariant (topic : String) (s : SharedTopic) : Prop where
  listeners : ∃ uuids, s.Reachable p uuids ∧ ∀ uuid ∈ uuids, Subscribed p uuid topic
  messages : s.AllMessages (PublishedTo p topic)

/-- What holds of every reachable state: the invariant of each topic. -/
def ReplyNetwork.Invariant (net : ReplyNetwork) : Prop :=
  ∀ topic s, (topic, s) ∈ net.topics → TopicInvariant p topic s

theorem TopicInvariant.enqueue {topic : String} {s : SharedTopic} {n : Message}
    (hs : TopicInvariant p topic s) (hn : PublishedTo p topic n) :
    TopicInvariant p topic (s.enqueue n) := by
  obtain ⟨⟨uuids, hreach, hsub⟩, hmsgs⟩ := hs
  exact ⟨⟨uuids, hreach.step (SharedTopic.step_publish p s n), hsub⟩,
    hmsgs.step p (fun _ h => by cases h; exact hn) (SharedTopic.step_publish p s n)⟩

/-- A publication of a notification published to its topic keeps the invariant. -/
theorem ReplyNetwork.Invariant.publish {net : ReplyNetwork} (hi : net.Invariant p)
    {topic : String} {n : Message} (hn : PublishedTo p topic n) :
    (net.publish topic n).Invariant p := by
  intro t s hmem
  obtain ⟨⟨t', s'⟩, hentry, heq⟩ := List.mem_map.mp hmem
  by_cases ht : t' = topic
  · subst ht
    simp only [if_true, Prod.mk.injEq] at heq
    obtain ⟨rfl, rfl⟩ := heq
    exact (hi _ _ hentry).enqueue p hn
  · simp only [ht, if_false, Prod.mk.injEq] at heq
    obtain ⟨rfl, rfl⟩ := heq
    exact hi _ _ hentry

/-- Publications of notifications published to their topics, in order, keep the invariant. -/
theorem ReplyNetwork.Invariant.foldl_publish {net : ReplyNetwork} (hi : net.Invariant p)
    (publications : List (String × Message))
    (hpub : ∀ q ∈ publications, PublishedTo p q.1 q.2) :
    (publications.foldl (fun net q => net.publish q.1 q.2) net).Invariant p := by
  induction publications generalizing net with
  | nil => exact hi
  | cons q rest ih =>
    exact ih (hi.publish p (hpub q (.head _))) fun q' hq' => hpub q' (.tail _ hq')

/-- Assumes: a marshaler that decodes what it encodes and a modify hook that keeps the payload
and the command UUID. One step keeps the invariant. -/
theorem ReplyNetwork.Invariant.step (hround : p.marshaler.RoundTrips)
    (hkeep : KeepsNotification p.config.modifyNotificationMessage) {net net' : ReplyNetwork}
    {e : NetworkEvent Command} (hi : net.Invariant p) (h : net.step p e = some net') :
    net'.Invariant p := by
  cases e with
  | commandProcessed cmdMsg cmd handleErr =>
    simp only [ReplyNetwork.step, Option.some.injEq] at h
    subst h
    refine hi.foldl_publish p _ fun publication hmem => ?_
    obtain ⟨ht, huuid, hdecode⟩ := onCommandProcessed_mem p hround hkeep hmem
    exact ⟨cmdMsg, cmd, handleErr, ht, huuid, hdecode⟩
  | topicEvent j event =>
    cases hj : net.topics[j]? with
    | none => cases event <;> simp [ReplyNetwork.step, hj] at h
    | some entry =>
      obtain ⟨topic, s⟩ := entry
      have hnotpub : ∀ msg, event ≠ .publish msg := by
        rintro msg rfl
        simp [ReplyNetwork.step] at h
      have hstep : ∃ s', s.step p event = some s' ∧ net' = ⟨net.topics.set j (topic, s')⟩ := by
        cases event with
        | publish msg => exact absurd rfl (hnotpub msg)
        | _ =>
          simp only [ReplyNetwork.step, hj, Option.map_eq_some'] at h
          obtain ⟨s', hs', rfl⟩ := h
          exact ⟨s', hs', rfl⟩
      obtain ⟨s', hs', rfl⟩ := hstep
      obtain ⟨⟨uuids, hreach, hsub⟩, hmsgs⟩ := hi topic s (List.getElem?_mem hj)
      intro t s'' hmem
      rcases List.mem_or_eq_of_mem_set hmem with hmem | heq
      · exact hi t s'' hmem
      · cases heq
        exact ⟨⟨uuids, hreach.step hs', hsub⟩,
          hmsgs.step p (fun msg h => absurd h (hnotpub msg)) hs'⟩

/-- Assumes: the marshaler and modify hook of `ReplyNetwork.Invariant.step`, and listeners
subscribed by `ListenForReply` to the topics they are listed under. Every reachable state keeps
the invariant. -/
theorem ReplyNetwork.Reachable.invariant (hround : p.marshaler.RoundTrips)
    (hkeep : KeepsNotification p.config.modifyNotificationMessage)
    {subscriptions : List (String × List String)}
    (hsubs : ∀ topic uuids, (topic, uuids) ∈ subscriptions → ∀ uuid ∈ uuids, Subscribed p uuid topic)
    {net : ReplyNetwork} (hnet : net.Reachable p subscriptions) : net.Invariant p := by
  induction hnet with
  | init =>
    intro topic s hmem
    obtain ⟨sub, hsub, heq⟩ := List.mem_map.mp hmem
    cases heq
    exact ⟨⟨sub.2, .init, hsubs sub.1 sub.2 hsub⟩, SharedTopic.allMessages_init _ _⟩
  | step _ hstep ih => exact ih.step p hround hkeep hstep

/-! ### Dedicated topics -/

/-- Dedicated reply topics lose nothing. Take a marshaler that decodes what it encodes, a modify
hook that keeps the payload and the command UUID, a topic generator that never gives two command
UUIDs the same topic, and listeners subscribed by `ListenForReply`. Over every interleaving of
handlers finishing, deliveries and the listeners' own events, a listener has received exactly
the notifications delivered to it; each carries the listener's own command UUID and decodes to
its handler's outcome; and the replies the listener has written, with the one it is sending,
carry exactly those notifications, each once and in order. -/
theorem replyNetwork_dedicated_topics (hround : p.marshaler.RoundTrips)
    (hkeep : KeepsNotification p.config.modifyNotificationMessage)
    (hdedicated : ∀ a b topic, p.generateReplyNotificationTopic a = .ok topic →
      p.generateReplyNotificationTopic b = .ok topic → a.commandUUID = b.commandUUID)
    (subscriptions : List (String × List String))
    (hsubs : ∀ topic uuids, (topic, uuids) ∈ subscriptions → ∀ uuid ∈ uuids, Subscribed p uuid topic)
    {net : ReplyNetwork} (hnet : net.Reachable p subscriptions) :
    ∀ topic s, (topic, s) ∈ net.topics → ∀ i uuid w, s.listeners[i]? = some (uuid, w) →
      w.received = (s.consumed.filter (·.listener = i)).map Consumption.msg ∧
      (∀ n ∈ w.received, n.metadata.get handledCommandUuidMetadataKey = uuid ∧
        ∃ handleErr, p.marshaler.unmarshal n = .ok (notificationOf handleErr)) ∧
      w.written.filterMap CommandReply.replyMsg ++ w.sendingNotification = w.received := by
  intro topic s hmem i uuid w hl
  obtain ⟨⟨uuids, hreach, hsub⟩, -, hconsumed⟩ := hnet.invariant p hround hkeep hsubs topic s hmem
  have hs := hreach.invariant
  obtain ⟨hwreach, hrec⟩ := hs.listeners i uuid w hl
  obtain ⟨listenMsg, command, subscription, hmsg, hlisten, rfl⟩ :=
    hsub uuid (hs.uuids ▸ List.mem_map_of_mem Prod.fst (List.getElem?_mem hl))
  have hown : ∀ n ∈ w.received, n.metadata.get handledCommandUuidMetadataKey = uuid ∧
      ∃ handleErr, p.marshaler.unmarshal n = .ok (notificationOf handleErr) := by
    intro n hn
    rw [hrec] at hn
    obtain ⟨c, hc, rfl⟩ := List.mem_map.mp hn
    obtain ⟨cmdMsg, cmd, handleErr, ht, huuid, hdecode⟩ := hconsumed c (List.mem_filter.mp hc).1
    have hsame := hdedicated _ _ _ ht (listenForReply_topic p hlisten)
    exact ⟨huuid.trans (hsame.trans hmsg), handleErr, hdecode⟩
  refine ⟨hrec, hown, (ReplyWorker.Reachable.invariant p uuid hwreach).answered p uuid
    fun n hn => ?_⟩
  obtain ⟨huuid, handleErr, hdecode⟩ := hown n hn
  simp [replyOf, handleNotifyMsg_notificationOf p huuid hdecode]

theorem samplePubSub_dedicated (a b : PubSubRequestReplyTopicGeneratorParams Unit) (topic : String)
    (ha : samplePubSub.generateReplyNotificationTopic a = .ok topic)
    (hb : samplePubSub.generateReplyNotificationTopic b = .ok topic) :
    a.commandUUID = b.commandUUID := by
  have h := congrArg String.data ((Except.ok.inj ha).trans (Except.ok.inj hb).symm)
  simp only [String.data_append, List.append_cancel_left_eq] at h
  exact String.ext h

def sampleSubscriptions : List (String × List String) :=
  [("reply-cmd-1", ["cmd-1"]), ("reply-cmd-2", ["cmd-2"])]

theorem sampleSubscriptions_subscribed (topic : String) (uuids : List String)
    (h : (topic, uuids) ∈ sampleSubscriptions) (uuid : String) (hu : uuid ∈ uuids) :
    Subscribed samplePubSub uuid topic := by
  simp only [sampleSubscriptions, List.mem_cons, Prod.mk.injEq, List.mem_singleton,
    List.not_mem_nil, or_false] at h
  rcases h with ⟨rfl, rfl⟩ | ⟨rfl, rfl⟩ <;> rw [List.mem_singleton.mp hu]
  · exact ⟨⟨"cmd-1", .empty, []⟩, (), _, rfl, rfl, rfl⟩
  · exact ⟨⟨"cmd-2", .empty, []⟩, (), _, rfl, rfl, rfl⟩

def sampleNetworkEvents : List (NetworkEvent Unit) :=
  [.commandProcessed (samplePubSub.modifyCommandMessageBeforePublish ⟨"cmd-1", .empty, []⟩ ()).1
      () none,
    .topicEvent 0 (.deliver 0 0), .topicEvent 0 (.listenerEvent 0 .sendCompletes),
    .commandProcessed (samplePubSub.modifyCommandMessageBeforePublish ⟨"cmd-2", .empty, []⟩ ()).1
      () (some (.new "boom")),
    .topicEvent 1 (.deliver 0 0)]

def sampleNetwork : ReplyNetwork :=
  ((ReplyNetwork.init sampleSubscriptions).run samplePubSub sampleNetworkEvents).getD
    (ReplyNetwork.init sampleSubscriptions)

theorem sampleNetwork_reachable : sampleNetwork.Reachable samplePubSub sampleSubscriptions :=
  ReplyNetwork.Reachable.init.run samplePubSub sampleNetworkEvents rfl

theorem replyNetwork_dedicated_topics_sample :
    samplePubSub.marshaler.RoundTrips ∧
    KeepsNotification samplePubSub.config.modifyNotificationMessage ∧
    (∀ a b topic, samplePubSub.generateReplyNotificationTopic a = .ok topic →
      samplePubSub.generateReplyNotificationTopic b = .ok topic →
        a.commandUUID = b.commandUUID) ∧
    (∀ topic uuids, (topic, uuids) ∈ sampleSubscriptions → ∀ uuid ∈ uuids,
      Subscribed samplePubSub uuid topic) ∧
    sampleNetwork.Reachable samplePubSub sampleSubscriptions ∧
    ∀ topic s, (topic, s) ∈ sampleNetwork.topics → ∀ i uuid w, s.listeners[i]? = some (uuid, w) →
      w.received = (s.consumed.filter (·.listener = i)).map Consumption.msg ∧
      (∀ n ∈ w.received, n.metadata.get handledCommandUuidMetadataKey = uuid ∧
        ∃ handleErr, samplePubSub.marshaler.unmarshal n = .ok (notificationOf handleErr)) ∧
      w.written.filterMap CommandReply.replyMsg ++ w.sendingNotification = w.received :=
  have hkeep : KeepsNotification samplePubSub.config.modifyNotificationMessage := by
    intro hook h
    cases h
  ⟨sampleMarshaler_roundTrips, hkeep, samplePubSub_dedicated, sampleSubscriptions_subscribed,
    sampleNetwork_reachable,
    replyNetwork_dedicated_topics samplePubSub sampleMarshaler_roundTrips hkeep
      samplePubSub_dedicated sampleSubscriptions sampleSubscriptions_subscribed
      sampleNetwork_reachable⟩

end Watermill.Cqrs
