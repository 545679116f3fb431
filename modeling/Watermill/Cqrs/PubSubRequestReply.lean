import Watermill.Message

/-!
# The Pub/Sub request/reply backend

`PubSubRequestReply` of the `cqrs` package: its config with `setDefaults` and `Validate`,
`NewPubSubRequestReply`, the marker `ModifyCommandMessageBeforePublish` puts on a command,
`OnCommandProcessed`, which publishes the handler's outcome as a notification, and
`handleNotifyMsg`, which the listener runs on every notification it receives. The setup part of
`ListenForReply`, up to the subscription, is `listenForReply`; its worker loop is
`Watermill.Cqrs.ReplyWorker`.

A `PubSubRequestReply` carries the proof that its config went through `setDefaults` and
`Validate` (`PubSubRequestReplyConfig.Valid`), so its collaborators are read without a nil
case.

`onCommandProcessed_handleNotifyMsg` is the round trip: under a marshaler that decodes what it
encodes and a modify hook that keeps the payload and the command UUID, a marked command's
notification is published once, to the topic its listener subscribes to, and
`handleNotifyMsg` decodes it back to the handler's outcome, the empty error message included.

Not modelled: the logger, the message context set by `SetContext`, and the elapsed time.
-/

set_option autoImplicit false
set_option relaxedAutoImplicit false

namespace Watermill.Cqrs

/-- `RequestReplyNotification`. -/
structure RequestReplyNotification where
  error : String
  hasError : Bool
  deriving DecidableEq, Repr

/-- `PubSubRequestReplyMarshaler`; `Unmarshal(msg, v)` fills `v`, here it returns it. -/
structure PubSubRequestReplyMarshaler where
  marshal : RequestReplyNotification → Except GoError Message
  unmarshal : Message → Except GoError RequestReplyNotification

/-- `PubSubRequestReplySubscriberConstructorParams`. -/
structure PubSubRequestReplySubscriberConstructorParams (Command : Type) where
  commandUUID : String
  commandMessage : Message
  command : Command

/-- `PubSubRequestReplyTopicGeneratorParams`. -/
structure PubSubRequestReplyTopicGeneratorParams (Command : Type) where
  commandUUID : String
  commandMessage : Message
  command : Command

/-- The context `ListenForReply` derives for its subscription and its worker. -/
inductive ListenContext where
  | withTimeout (timeout : Nat)
  | withCancel
  deriving DecidableEq, Repr

/-- `message.Subscriber` as `ListenForReply` uses it: `Subscribe(ctx, topic)` fails, or opens
the channel of notifications. -/
structure NotificationsSubscriber where
  subscribe : ListenContext → String → Option GoError

/-- `PubSubRequestReplyConfig`; `none` is a nil field. -/
structure PubSubRequestReplyConfig (Command : Type) where
  publisher : Option (String → Message → Option GoError)
  subscriberConstructor :
    Option (PubSubRequestReplySubscriberConstructorParams Command →
      Except GoError NotificationsSubscriber)
  generateReplyNotificationTopic :
    Option (PubSubRequestReplyTopicGeneratorParams Command → Except GoError String)
  marshaler : Option PubSubRequestReplyMarshaler
  logger : Option LoggerAdapter
  listenForReplyTimeout : Option Nat
  modifyNotificationMessage : Option (Message → Option GoError → Except GoError Message)

variable {Command : Type}

/-- `setDefaults`: the `NopLogger`, and `JSONMarshaler{}` (a parameter here) for a nil
marshaler. -/
def PubSubRequestReplyConfig.setDefaults (jsonMarshaler : PubSubRequestReplyMarshaler)
    (c : PubSubRequestReplyConfig Command) : PubSubRequestReplyConfig Command :=
  { c with logger := some (c.logger.getD nopLogger), marshaler := some (c.marshaler.getD jsonMarshaler) }

/-- `Validate`: the first missing required collaborator. -/
def PubSubRequestReplyConfig.validate (c : PubSubRequestReplyConfig Command) : Option GoError :=
  if c.publisher.isNone then some (.new "publisher cannot be nil")
  else if c.subscriberConstructor.isNone then some (.new "subscriber constructor cannot be nil")
  else if c.generateReplyNotificationTopic.isNone then
    some (.new "GenerateReplyNotificationTopic cannot be nil")
  else none

/-- A config that went through `setDefaults` and `Validate`. -/
structure PubSubRequestReplyConfig.Valid (c : PubSubRequestReplyConfig Command) : Prop where
  publisher : c.publisher.isSome
  subscriberConstructor : c.subscriberConstructor.isSome
  generateReplyNotificationTopic : c.generateReplyNotificationTopic.isSome
  marshaler : c.marshaler.isSome
  logger : c.logger.isSome

theorem PubSubRequestReplyConfig.valid_setDefaults (jsonMarshaler : PubSubRequestReplyMarshaler)
    {c : PubSubRequestReplyConfig Command} (h : (c.setDefaults jsonMarshaler).validate = none) :
    (c.setDefaults jsonMarshaler).Valid := by
  simp only [validate] at h
  split_ifs at h with h₁ h₂ h₃
  exact ⟨Option.ne_none_iff_isSome.mp (by simpa using h₁),
    Option.ne_none_iff_isSome.mp (by simpa using h₂),
    Option.ne_none_iff_isSome.mp (by simpa using h₃), rfl, rfl⟩

/-- `PubSubRequestReply`, with the proof that its config is valid. -/
structure PubSubRequestReply (Command : Type) where
  config : PubSubRequestReplyConfig Command
  valid : config.Valid

/-- `NewPubSubRequestReply`. -/
def newPubSubRequestReply (jsonMarshaler : PubSubRequestReplyMarshaler)
    (config : PubSubRequestReplyConfig Command) : Except GoError (PubSubRequestReply Command) :=
  match h : (config.setDefaults jsonMarshaler).validate with
  | some err => .error (.wrap err "invalid config")
  | none => .ok ⟨config.setDefaults jsonMarshaler, PubSubRequestReplyConfig.valid_setDefaults jsonMarshaler h⟩

namespace PubSubRequestReply

variable (p : PubSubRequestReply Command)

/-- `p.config.Publisher.Publish(topic, msg)`. -/
def publish : String → Message → Option GoError := p.config.publisher.get p.valid.publisher

/-- `p.config.SubscriberConstructor`. -/
def subscriberConstructor :
    PubSubRequestReplySubscriberConstructorParams Command → Except GoError NotificationsSubscriber :=
  p.config.subscriberConstructor.get p.valid.subscriberConstructor

/-- `p.config.GenerateReplyNotificationTopic`. -/
def generateReplyNotificationTopic :
    PubSubRequestReplyTopicGeneratorParams Command → Except GoError String :=
  p.config.generateReplyNotificationTopic.get p.valid.generateReplyNotificationTopic

/-- `p.config.Marshaler`. -/
def marshaler : PubSubRequestReplyMarshaler := p.config.marshaler.get p.valid.marshaler

end PubSubRequestReply

/-- `notifyWhenExecutedMetadataKey`. -/
def notifyWhenExecutedMetadataKey : String := "_watermill_notify_when_executed"

/-- `handledCommandUuidMetadataKey`. -/
def handledCommandUuidMetadataKey : String := "_watermill_command_message_uuid"

/-- `ModifyCommandMessageBeforePublish`: the command message with the marker; the error is nil. -/
def PubSubRequestReply.modifyCommandMessageBeforePublish (_p : PubSubRequestReply Command)
    (cmdMsg : Message) (_command : Command) : Message × Option GoError :=
  (cmdMsg.setMetadata notifyWhenExecutedMetadataKey "1", none)

@[simp] theorem PubSubRequestReply.modifyCommandMessageBeforePublish_uuid
    (p : PubSubRequestReply Command) (cmdMsg : Message) (command : Command) :
    (p.modifyCommandMessageBeforePublish cmdMsg command).1.uuid = cmdMsg.uuid := rfl

/-- The notification `OnCommandProcessed` builds for a handler outcome. -/
def notificationOf : Option GoError → RequestReplyNotification
  | some handleErr => ⟨handleErr.error, true⟩
  | none => ⟨"", false⟩

/-- The `ModifyNotificationMessage` step: the hook when it is set. -/
def modifyNotification (modify : Option (Message → Option GoError → Except GoError Message))
    (msg : Message) (handleErr : Option GoError) : Except GoError Message :=
  match modify with
  | some modify => modify msg handleErr
  | none => .ok msg

/-- `OnCommandProcessed`: the messages it published with their topics, and the returned error. -/
def PubSubRequestReply.onCommandProcessed (p : PubSubRequestReply Command) (cmdMsg : Message)
    (cmd : Command) (handleErr : Option GoError) : List (String × Message) × Option GoError :=
  if cmdMsg.metadata.get notifyWhenExecutedMetadataKey ≠ "1" then ([], none)
  else
  match p.marshaler.marshal (notificationOf handleErr) with
  | .error err => ([], some (.wrap err "cannot marshal request reply notification"))
  | .ok notificationMsg =>
  let notificationMsg := notificationMsg.setMetadata handledCommandUuidMetadataKey cmdMsg.uuid
  match modifyNotification p.config.modifyNotificationMessage notificationMsg handleErr with
  | .error err => ([], some (.wrap err "cannot modify notification message"))
  | .ok notificationMsg =>
  match p.generateReplyNotificationTopic ⟨cmdMsg.uuid, cmdMsg, cmd⟩ with
  | .error err => ([], some (.wrap err "cannot generate request/reply notify topic"))
  | .ok replyTopic =>
  match p.publish replyTopic notificationMsg with
  | some err =>
    ([(replyTopic, notificationMsg)], some (.wrap err "cannot publish command executed message"))
  | none => ([(replyTopic, notificationMsg)], none)

/-- `handleNotifyMsg`: `(ok, err)`. Its deferred `msg.Ack()` runs on every path; the caller
records it. -/
def PubSubRequestReply.handleNotifyMsg (p : PubSubRequestReply Command) (msg : Message)
    (expectedCommandUuid : String) : Bool × Option GoError :=
  if msg.metadata.get handledCommandUuidMetadataKey ≠ expectedCommandUuid then (false, none)
  else
  match p.marshaler.unmarshal msg with
  | .error err => (false, some (.wrap err "cannot unmarshal request reply notification"))
  | .ok notification =>
    if notification.hasError then (true, some (.new notification.error)) else (true, none)

/-- What a successful `ListenForReply` set up: the topic and the context of the subscription. -/
structure ReplySubscription where
  topic : String
  context : ListenContext
  deriving DecidableEq, Repr

/-- `ListenForReply` up to the start of its worker. -/
def PubSubRequestReply.listenForReply (p : PubSubRequestReply Command) (cmdMsg : Message)
    (command : Command) : Except GoError ReplySubscription :=
  match p.subscriberConstructor ⟨cmdMsg.uuid, cmdMsg, command⟩ with
  | .error err => .error (.wrap err "cannot create request/reply notifications subscriber")
  | .ok notificationsSubscriber =>
  match p.generateReplyNotificationTopic ⟨cmdMsg.uuid, cmdMsg, command⟩ with
  | .error err => .error (.wrap err "cannot generate request/reply notifications topic")
  | .ok replyNotificationTopic =>
  let ctx := match p.config.listenForReplyTimeout with
    | some timeout => ListenContext.withTimeout timeout
    | none => ListenContext.withCancel
  match notificationsSubscriber.subscribe ctx replyNotificationTopic with
  | some err => .error (.wrap err "cannot subscribe to request/reply notifications topic")
  | none => .ok ⟨replyNotificationTopic, ctx⟩

/-! ### From `OnCommandProcessed` to `handleNotifyMsg` -/

/-- The marshaler's `Unmarshal` decodes what its `Marshal` encoded into a message's payload,
whatever the message's metadata. -/
def PubSubRequestReplyMarshaler.RoundTrips (m : PubSubRequestReplyMarshaler) : Prop :=
  ∀ notification encoded, m.marshal notification = .ok encoded →
    ∀ msg : Message, msg.payload = encoded.payload → m.unmarshal msg = .ok notification

/-- `ModifyNotificationMessage` is nil, or keeps the payload and the handled command's UUID. -/
def KeepsNotification (modify : Option (Message → Option GoError → Except GoError Message)) :
    Prop :=
  ∀ hook, modify = some hook → ∀ msg handleErr modified, hook msg handleErr = .ok modified →
    modified.payload = msg.payload ∧
      modified.metadata.get handledCommandUuidMetadataKey =
        msg.metadata.get handledCommandUuidMetadataKey

theorem modifyNotification_keeps {modify : Option (Message → Option GoError → Except GoError Message)}
    (hkeep : KeepsNotification modify) {msg modified : Message} {handleErr : Option GoError}
    (h : modifyNotification modify msg handleErr = .ok modified) :
    modified.payload = msg.payload ∧
      modified.metadata.get handledCommandUuidMetadataKey =
        msg.metadata.get handledCommandUuidMetadataKey := by
  cases modify with
  | none => cases h; exact ⟨rfl, rfl⟩
  | some hook => exact hkeep hook rfl msg handleErr modified h

section RoundTrip

variable (p : PubSubRequestReply Command)

theorem onCommandProcessed_of_unmarked {cmdMsg : Message} (cmd : Command)
    (handleErr : Option GoError) (h : cmdMsg.metadata.get notifyWhenExecutedMetadataKey ≠ "1") :
    p.onCommandProcessed cmdMsg cmd handleErr = ([], none) := by
  simp [PubSubRequestReply.onCommandProcessed, h]

/-- `OnCommandProcessed` on a marked command: it fails before publishing anything, or it
marshaled the notification, stamped it with the command's UUID, modified it, generated the
topic and published it once, and returns the publisher's error wrapped. -/
theorem onCommandProcessed_marked {cmdMsg : Message} (cmd : Command) (handleErr : Option GoError)
    (hmark : cmdMsg.metadata.get notifyWhenExecutedMetadataKey = "1") :
    (∃ err, p.onCommandProcessed cmdMsg cmd handleErr = ([], some err)) ∨
    ∃ encoded notificationMsg topic,
      p.marshaler.marshal (notificationOf handleErr) = .ok encoded ∧
      modifyNotification p.config.modifyNotificationMessage
        (encoded.setMetadata handledCommandUuidMetadataKey cmdMsg.uuid) handleErr =
          .ok notificationMsg ∧
      p.generateReplyNotificationTopic ⟨cmdMsg.uuid, cmdMsg, cmd⟩ = .ok topic ∧
      p.onCommandProcessed cmdMsg cmd handleErr = ([(topic, notificationMsg)],
        (p.publish topic notificationMsg).map
          fun err => .wrap err "cannot publish command executed message") := by
  simp only [PubSubRequestReply.onCommandProcessed, hmark, ne_eq, not_true_eq_false, if_false]
  cases hraw : p.marshaler.marshal (notificationOf handleErr) with
  | error e => exact .inl ⟨_, rfl⟩
  | ok encoded =>
    dsimp only
    cases hmod : modifyNotification p.config.modifyNotificationMessage
        (encoded.setMetadata handledCommandUuidMetadataKey cmdMsg.uuid) handleErr with
    | error e => exact .inl ⟨_, rfl⟩
    | ok notificationMsg =>
      dsimp only
      cases ht : p.generateReplyNotificationTopic ⟨cmdMsg.uuid, cmdMsg, cmd⟩ with
      | error e => exact .inl ⟨_, rfl⟩
      | ok topic =>
        dsimp only
        refine .inr ⟨encoded, notificationMsg, topic, rfl, hmod, rfl, ?_⟩
        cases p.publish topic notificationMsg <;> rfl

/-- A marked command whose notification was published without error: the notification was
marshaled, stamped, modified, sent to the generated topic, and it is the only publication. -/
theorem onCommandProcessed_published {cmdMsg : Message} {cmd : Command}
    {handleErr : Option GoError} {published : List (String × Message)}
    (hmark : cmdMsg.metadata.get notifyWhenExecutedMetadataKey = "1")
    (h : p.onCommandProcessed cmdMsg cmd handleErr = (published, none)) :
    ∃ encoded notificationMsg topic,
      p.marshaler.marshal (notificationOf handleErr) = .ok encoded ∧
      modifyNotification p.config.modifyNotificationMessage
        (encoded.setMetadata handledCommandUuidMetadataKey cmdMsg.uuid) handleErr =
          .ok notificationMsg ∧
      p.generateReplyNotificationTopic ⟨cmdMsg.uuid, cmdMsg, cmd⟩ = .ok topic ∧
      published = [(topic, notificationMsg)] := by
  rcases onCommandProcessed_marked p cmd handleErr hmark with
    ⟨err, he⟩ | ⟨encoded, notificationMsg, topic, hraw, hmod, ht, he⟩
  · rw [he] at h
    cases h
  · rw [he, Prod.mk.injEq] at h
    exact ⟨encoded, notificationMsg, topic, hraw, hmod, ht, h.1.symm⟩

/-- A listener subscribes to the topic generated for its command message. -/
theorem listenForReply_topic {cmdMsg : Message} {command : Command}
    {subscription : ReplySubscription} (h : p.listenForReply cmdMsg command = .ok subscription) :
    p.generateReplyNotificationTopic ⟨cmdMsg.uuid, cmdMsg, command⟩ = .ok subscription.topic := by
  simp only [PubSubRequestReply.listenForReply] at h
  split at h
  · cases h
  split at h
  · cases h
  · rename_i topic ht
    split at h
    · cases h
    · cases h
      exact ht

/-- A listener's context has a timeout exactly when `ListenForReplyTimeout` is set. -/
theorem listenForReply_context {cmdMsg : Message} {command : Command}
    {subscription : ReplySubscription} (h : p.listenForReply cmdMsg command = .ok subscription) :
    subscription.context = match p.config.listenForReplyTimeout with
      | some timeout => .withTimeout timeout
      | none => .withCancel := by
  simp only [PubSubRequestReply.listenForReply] at h
  split at h
  · cases h
  split at h
  · cases h
  · split at h
    · cases h
    · cases h
      rfl

/-- A notification carrying `cmdUuid` that decodes to `notificationOf handleErr` is matched and
gives back the handler's outcome, as `errors.New` of its message. -/
theorem handleNotifyMsg_notificationOf {msg : Message} {cmdUuid : String}
    {handleErr : Option GoError} (huuid : msg.metadata.get handledCommandUuidMetadataKey = cmdUuid)
    (hdecode : p.marshaler.unmarshal msg = .ok (notificationOf handleErr)) :
    p.handleNotifyMsg msg cmdUuid = (true, handleErr.map fun err => .new err.error) := by
  cases handleErr <;> simp [PubSubRequestReply.handleNotifyMsg, huuid, hdecode, notificationOf]

/-- Assumes: a marshaler that decodes what it encodes, and a modify hook that keeps the payload
and the handled command's UUID. Every message `OnCommandProcessed` hands to the publisher,
whatever the publisher answers, goes to the topic generated for the command, carries the
command's UUID and decodes to the notification of the handler's outcome. -/
theorem onCommandProcessed_mem (hround : p.marshaler.RoundTrips)
    (hkeep : KeepsNotification p.config.modifyNotificationMessage) {cmdMsg : Message}
    {cmd : Command} {handleErr : Option GoError} {topic : String} {n : Message}
    (h : (topic, n) ∈ (p.onCommandProcessed cmdMsg cmd handleErr).1) :
    p.generateReplyNotificationTopic ⟨cmdMsg.uuid, cmdMsg, cmd⟩ = .ok topic ∧
      n.metadata.get handledCommandUuidMetadataKey = cmdMsg.uuid ∧
      p.marshaler.unmarshal n = .ok (notificationOf handleErr) := by
  by_cases hmark : cmdMsg.metadata.get notifyWhenExecutedMetadataKey = "1"
  · rcases onCommandProcessed_marked p cmd handleErr hmark with
      ⟨err, he⟩ | ⟨encoded, msg, t, hraw, hmod, ht, he⟩
    · simp [he] at h
    · rw [he, List.mem_singleton, Prod.mk.injEq] at h
      obtain ⟨rfl, rfl⟩ := h
      obtain ⟨hpayload, huuid⟩ := modifyNotification_keeps hkeep hmod
      simp only [Message.setMetadata_payload, Message.setMetadata_metadata,
        Metadata.get_set_self] at hpayload huuid
      exact ⟨ht, huuid, hround _ _ hraw _ hpayload⟩
  · simp [onCommandProcessed_of_unmarked p cmd handleErr hmark] at h

/-- Assumes: a marshaler that decodes what it encodes, and a modify hook that keeps the payload
and the handled command's UUID. A marked command's notification published without error is the
only publication; it goes to the topic generated for the command, carries the command's UUID and
decodes back to the notification of the handler's outcome. -/
theorem onCommandProcessed_notification (hround : p.marshaler.RoundTrips)
    (hkeep : KeepsNotification p.config.modifyNotificationMessage) {cmdMsg : Message}
    {cmd : Command} {handleErr : Option GoError} {published : List (String × Message)}
    (hmark : cmdMsg.metadata.get notifyWhenExecutedMetadataKey = "1")
    (h : p.onCommandProcessed cmdMsg cmd handleErr = (published, none)) :
    ∃ topic notificationMsg, published = [(topic, notificationMsg)] ∧
      p.generateReplyNotificationTopic ⟨cmdMsg.uuid, cmdMsg, cmd⟩ = .ok topic ∧
      notificationMsg.metadata.get handledCommandUuidMetadataKey = cmdMsg.uuid ∧
      p.marshaler.unmarshal notificationMsg = .ok (notificationOf handleErr) := by
  obtain ⟨-, notificationMsg, topic, -, -, -, rfl⟩ := onCommandProcessed_published p hmark h
  exact ⟨topic, notificationMsg, rfl,
    onCommandProcessed_mem p hround hkeep (by rw [h]; exact .head _)⟩

end RoundTrip

/-- The request/reply round trip. Take a command message marked by
`ModifyCommandMessageBeforePublish`, a marshaler that decodes what it encodes, and a
`ModifyNotificationMessage` that keeps the payload and the handled command's UUID. When
`OnCommandProcessed` returns nil it has published one notification, carrying the command's UUID,
to the topic generated for the command, which is the topic `ListenForReply` subscribes to for a
message with that UUID when the generator reads only the UUID; and `handleNotifyMsg` matches it
and returns `errors.New(handleErr.Error())`, or nil for a nil `handleErr`. An unmarked message
gets no publication and a nil error. -/
theorem onCommandProcessed_handleNotifyMsg (p : PubSubRequestReply Command)
    (hround : p.marshaler.RoundTrips) (hkeep : KeepsNotification p.config.modifyNotificationMessage)
    (cmdMsg : Message) (cmd : Command) (handleErr : Option GoError) :
    (∀ published, p.onCommandProcessed (p.modifyCommandMessageBeforePublish cmdMsg cmd).1 cmd
        handleErr = (published, none) →
      ∃ topic notificationMsg, published = [(topic, notificationMsg)] ∧
        p.generateReplyNotificationTopic ⟨cmdMsg.uuid,
          (p.modifyCommandMessageBeforePublish cmdMsg cmd).1, cmd⟩ = .ok topic ∧
        notificationMsg.metadata.get handledCommandUuidMetadataKey = cmdMsg.uuid ∧
        p.handleNotifyMsg notificationMsg cmdMsg.uuid =
          (true, handleErr.map fun err => .new err.error) ∧
        ((∀ a b : PubSubRequestReplyTopicGeneratorParams Command, a.commandUUID = b.commandUUID →
            p.generateReplyNotificationTopic a = p.generateReplyNotificationTopic b) →
          ∀ listenMsg command subscription, listenMsg.uuid = cmdMsg.uuid →
            p.listenForReply listenMsg command = .ok subscription → subscription.topic = topic)) ∧
    ∀ other : Message, other.metadata.get notifyWhenExecutedMetadataKey ≠ "1" →
      p.onCommandProcessed other cmd handleErr = ([], none) := by
  refine ⟨fun published h => ?_, fun other h => onCommandProcessed_of_unmarked p cmd handleErr h⟩
  have hmark : (p.modifyCommandMessageBeforePublish cmdMsg cmd).1.metadata.get
      notifyWhenExecutedMetadataKey = "1" := by
    simp [PubSubRequestReply.modifyCommandMessageBeforePublish]
  obtain ⟨topic, notificationMsg, rfl, ht, huuid, hdecode⟩ :=
    onCommandProcessed_notification p hround hkeep hmark h
  simp only [PubSubRequestReply.modifyCommandMessageBeforePublish_uuid] at ht huuid
  refine ⟨topic, notificationMsg, rfl, ht, huuid,
    handleNotifyMsg_notificationOf p huuid hdecode, ?_⟩
  intro hdep listenMsg command subscription hsame hlisten
  have hl := listenForReply_topic p hlisten
  rw [hdep _ ⟨cmdMsg.uuid, (p.modifyCommandMessageBeforePublish cmdMsg cmd).1, cmd⟩ hsame, ht] at hl
  exact (Except.ok.inj hl).symm

def sampleMarshaler : PubSubRequestReplyMarshaler where
  marshal n :=
    if n = ⟨"", false⟩ then .ok ⟨"notification-1", .empty, [0]⟩
    else if n = ⟨"boom", true⟩ then .ok ⟨"notification-1", .empty, [1]⟩
    else .error (.new "unsupported notification")
  unmarshal msg :=
    if msg.payload = [0] then .ok ⟨"", false⟩
    else if msg.payload = [1] then .ok ⟨"boom", true⟩
    else .error (.new "unexpected end of JSON input")

theorem sampleMarshaler_roundTrips : sampleMarshaler.RoundTrips := by
  intro n encoded h msg hpayload
  simp only [sampleMarshaler] at h ⊢
  split_ifs at h with h₀ h₁
  · cases h
    simp [hpayload, h₀]
  · cases h
    simp [hpayload, h₁]

def samplePubSub : PubSubRequestReply Unit :=
  ⟨PubSubRequestReplyConfig.setDefaults sampleMarshaler
    { publisher := some fun _ _ => none
      subscriberConstructor := some fun _ => .ok ⟨fun _ _ => none⟩
      generateReplyNotificationTopic := some fun params => .ok ("reply-" ++ params.commandUUID)
      marshaler := none
      logger := none
      listenForReplyTimeout := none
      modifyNotificationMessage := none },
    PubSubRequestReplyConfig.valid_setDefaults sampleMarshaler rfl⟩

def sampleBoomNotification : Message :=
  ⟨"notification-1", Metadata.empty.set handledCommandUuidMetadataKey "cmd-1", [1]⟩

theorem onCommandProcessed_handleNotifyMsg_boom :
    samplePubSub.marshaler.RoundTrips ∧
    KeepsNotification samplePubSub.config.modifyNotificationMessage ∧
    samplePubSub.onCommandProcessed
        (samplePubSub.modifyCommandMessageBeforePublish ⟨"cmd-1", .empty, []⟩ ()).1 ()
        (some (.new "boom")) = ([("reply-cmd-1", sampleBoomNotification)], none) ∧
    ((∀ published, samplePubSub.onCommandProcessed
        (samplePubSub.modifyCommandMessageBeforePublish ⟨"cmd-1", .empty, []⟩ ()).1 ()
        (some (.new "boom")) = (published, none) →
      ∃ topic notificationMsg, published = [(topic, notificationMsg)] ∧
        samplePubSub.generateReplyNotificationTopic ⟨"cmd-1",
          (samplePubSub.modifyCommandMessageBeforePublish ⟨"cmd-1", .empty, []⟩ ()).1, ()⟩ =
            .ok topic ∧
        notificationMsg.metadata.get handledCommandUuidMetadataKey = "cmd-1" ∧
        samplePubSub.handleNotifyMsg notificationMsg "cmd-1" =
          (true, (some (GoError.new "boom")).map fun err => .new err.error) ∧
        ((∀ a b : PubSubRequestReplyTopicGeneratorParams Unit, a.commandUUID = b.commandUUID →
            samplePubSub.generateReplyNotificationTopic a =
              samplePubSub.generateReplyNotificationTopic b) →
          ∀ listenMsg command subscription, listenMsg.uuid = "cmd-1" →
            samplePubSub.listenForReply listenMsg command = .ok subscription →
              subscription.topic = topic)) ∧
    ∀ other : Message, other.metadata.get notifyWhenExecutedMetadataKey ≠ "1" →
      samplePubSub.onCommandProcessed other () (some (.new "boom")) = ([], none)) :=
  have hround : samplePubSub.marshaler.RoundTrips := sampleMarshaler_roundTrips
  have hkeep : KeepsNotification samplePubSub.config.modifyNotificationMessage := by
    intro hook h
    cases h
  ⟨hround, hkeep, rfl,
    onCommandProcessed_handleNotifyMsg samplePubSub hround hkeep ⟨"cmd-1", .empty, []⟩ ()
      (some (.new "boom"))⟩

end Watermill.Cqrs
