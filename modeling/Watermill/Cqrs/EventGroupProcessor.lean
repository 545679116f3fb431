import Watermill.Message
import Mathlib.Data.List.AList

/-!
# The event group processor and its group registry

`EventGroupProcessorConfig`, its `setDefaults` and `Validate`, `NewEventGroupProcessorWithConfig`
and `AddHandlersGroup` of `components/cqrs/event_processor_group.go`. The group map
`map[string][]GroupEventHandler` is an `AList` keyed by group name; `none` is Go's nil map, into
which a write panics.

`Validate` passes exactly when the required fields are set (`validate_eq_none_iff`), so a
processor returned by `NewEventGroupProcessorWithConfig` has every required collaborator
(`newEventGroupProcessorWithConfig_config`). `addHandlersGroup_rejects` and
`addHandlersGroup_registers` say what one call does, and `addHandlersGroups_lookup` what a
whole sequence of calls leaves in the map: each name holds the handlers of the first call that
passed a non-empty list for it (`firstRegistration`). `addHandlersGroups_registry` is the
resulting invariant of every processor reachable from the constructor.
-/

set_option autoImplicit false
set_option relaxedAutoImplicit false

namespace Watermill.Cqrs

/-- `GroupEventHandler`: `NewEvent()` gives a fresh event and `Handle` handles one; `typeName`
is what `%T` prints for the handler. -/
structure GroupEventHandler (Event : Type) where
  typeName : String
  newEvent : Event
  handle : Event → Option GoError

/-- `GenerateEventHandlerGroupTopicParams`. -/
structure GenerateEventHandlerGroupTopicParams (Event : Type) where
  eventGroupName : String
  eventGroupHandlers : List (GroupEventHandler Event)

/-- `EventsGroupSubscriberConstructorParams`. -/
structure EventsGroupSubscriberConstructorParams (Event : Type) where
  eventGroupName : String
  eventGroupHandlers : List (GroupEventHandler Event)

/-- `OnGroupEventHandleParams`. -/
structure OnGroupEventHandleParams (Event : Type) where
  groupName : String
  handler : GroupEventHandler Event
  event : Event
  eventName : String
  message : Message

/-- `CommandEventMarshaler`, with the methods the group processor calls. `Unmarshal(msg, v)`
fills `v`; here it returns the filled event. -/
structure CommandEventMarshaler (Event : Type) where
  unmarshal : Message → Event → Except GoError Event
  name : Event → String
  nameFromMessage : Message → String

/-- `EventGroupProcessorConfig`; `none` is a nil field. -/
structure EventGroupProcessorConfig (Event Subscriber : Type) where
  generateHandlerGroupSubscribeTopic :
    Option (GenerateEventHandlerGroupTopicParams Event → Except GoError String)
  groupSubscriberConstructor :
    Option (EventsGroupSubscriberConstructorParams Event → Except GoError Subscriber)
  onGroupHandle : Option (OnGroupEventHandleParams Event → Option GoError)
  ackOnUnknownEvent : Bool
  marshaler : Option (CommandEventMarshaler Event)
  logger : Option LoggerAdapter

variable {Event Subscriber : Type}

/-- `setDefaults`: a nil logger becomes `watermill.NopLogger{}`. -/
def EventGroupProcessorConfig.setDefaults (c : EventGroupProcessorConfig Event Subscriber) :
    EventGroupProcessorConfig Event Subscriber :=
  { c with logger := some (c.logger.getD nopLogger) }

/-- `Validate`: one joined error per missing required field. -/
def EventGroupProcessorConfig.validate (c : EventGroupProcessorConfig Event Subscriber) :
    Option GoError :=
  let err : Option GoError := none
  let err := if c.marshaler.isNone then some (GoError.joinTo err (.new "missing Marshaler"))
    else err
  let err := if c.generateHandlerGroupSubscribeTopic.isNone then
      some (GoError.joinTo err
        (.new "missing GenerateHandlerGroupTopic while GroupSubscriberConstructor is provided"))
    else err
  if c.groupSubscriberConstructor.isNone then
    some (GoError.joinTo err
      (.new "missing GroupSubscriberConstructor while GenerateHandlerGroupTopic is provided"))
  else err

/-- The group map `map[string][]GroupEventHandler`. -/
abbrev GroupMap (Event : Type) := AList (fun _ : String => List (GroupEventHandler Event))

/-- `EventGroupProcessor`; `groupEventHandlers = none` is a nil map. -/
structure EventGroupProcessor (Event Subscriber : Type) where
  groupEventHandlers : Option (GroupMap Event)
  config : EventGroupProcessorConfig Event Subscriber

/-- `NewEventGroupProcessorWithConfig`. -/
def newEventGroupProcessorWithConfig (config : EventGroupProcessorConfig Event Subscriber) :
    Except GoError (EventGroupProcessor Event Subscriber) :=
  let config := config.setDefaults
  match config.validate with
  | some err => .error (.wrap err "invalid config EventProcessor")
  | none => .ok { groupEventHandlers := some ∅, config }

/-- `p.groupEventHandlers[name]` answers `ok`; a nil map answers `false`. -/
def EventGroupProcessor.hasGroup (p : EventGroupProcessor Event Subscriber) (name : String) :
    Bool :=
  match p.groupEventHandlers with
  | none => false
  | some groups => (groups.lookup name).isSome

/-- `AddHandlersGroup`: the processor after the call and the returned error. The outer `.error`
is a runtime panic, the write to a nil map. -/
def EventGroupProcessor.addHandlersGroup (p : EventGroupProcessor Event Subscriber)
    (handlerName : String) (handlers : List (GroupEventHandler Event)) :
    Except String (EventGroupProcessor Event Subscriber × Option GoError) :=
  if handlers.length = 0 then .ok (p, some (.new "no handlers provided"))
  else if p.hasGroup handlerName then
    .ok (p, some (.new ("event handler group '" ++ handlerName ++ "' already exists")))
  else match p.groupEventHandlers with
    | none => .error "assignment to entry in nil map"
    | some groups => .ok ({ p with groupEventHandlers := some (groups.insert handlerName handlers) },
        none)

/-- A sequence of `AddHandlersGroup` calls, each made whatever the previous one returned; a
panic ends the run. -/
def EventGroupProcessor.addHandlersGroups (p : EventGroupProcessor Event Subscriber) :
    List (String × List (GroupEventHandler Event)) → Except String (EventGroupProcessor Event Subscriber)
  | [] => .ok p
  | (name, handlers) :: calls =>
    match p.addHandlersGroup name handlers with
    | .error panic => .error panic
    | .ok (next, _) => next.addHandlersGroups calls

/-- The handlers of the first call for `name` with a non-empty list: the call that registers
`name` when the map does not hold it yet. -/
def firstRegistration (name : String) :
    List (String × List (GroupEventHandler Event)) → Option (List (GroupEventHandler Event))
  | [] => none
  | (n, handlers) :: calls =>
    if n = name ∧ handlers.length ≠ 0 then some handlers else firstRegistration name calls

/-! ### The constructor -/

theorem validate_eq_none_iff (c : EventGroupProcessorConfig Event Subscriber) :
    c.validate = none ↔ c.marshaler.isSome ∧ c.generateHandlerGroupSubscribeTopic.isSome ∧
      c.groupSubscriberConstructor.isSome := by
  rcases c with ⟨_ | _, _ | _, _, _, _ | _, _⟩ <;>
    simp [EventGroupProcessorConfig.validate]

/-- A processor returned without error has its required collaborators and a logger, keeps the
defaulted config and starts with an empty, non-nil group map. -/
theorem newEventGroupProcessorWithConfig_config {config : EventGroupProcessorConfig Event Subscriber}
    {p : EventGroupProcessor Event Subscriber} (h : newEventGroupProcessorWithConfig config = .ok p) :
    p.config = config.setDefaults ∧ p.groupEventHandlers = some ∅ ∧
      p.config.marshaler.isSome ∧ p.config.generateHandlerGroupSubscribeTopic.isSome ∧
      p.config.groupSubscriberConstructor.isSome ∧ p.config.logger.isSome := by
  cases hv : config.setDefaults.validate with
  | some err => simp [newEventGroupProcessorWithConfig, hv] at h
  | none =>
    simp only [newEventGroupProcessorWithConfig, hv, Except.ok.injEq] at h
    subst h
    have := (validate_eq_none_iff _).mp hv
    exact ⟨rfl, rfl, this.1, this.2.1, this.2.2, rfl⟩

/-! ### One call, then a sequence of calls -/

section Registry

variable {p : EventGroupProcessor Event Subscriber} {groups : GroupMap Event}

theorem hasGroup_of_some (hp : p.groupEventHandlers = some groups) (name : String) :
    p.hasGroup name = (groups.lookup name).isSome := by
  simp [EventGroupProcessor.hasGroup, hp]

/-- An empty list or a name already present is rejected with the processor unchanged. -/
theorem addHandlersGroup_rejects (name : String) (handlers : List (GroupEventHandler Event))
    (h : handlers.length = 0 ∨ p.hasGroup name) :
    ∃ err, p.addHandlersGroup name handlers = .ok (p, some err) := by
  unfold EventGroupProcessor.addHandlersGroup
  rcases h with h | h
  · exact ⟨.new "no handlers provided", by simp [h]⟩
  · by_cases h0 : handlers.length = 0 <;> simp [h0, h]

/-- A non-empty list under a new name is inserted into a non-nil map. -/
theorem addHandlersGroup_registers (hp : p.groupEventHandlers = some groups) (name : String)
    (handlers : List (GroupEventHandler Event)) (hne : handlers.length ≠ 0)
    (hnew : groups.lookup name = none) :
    p.addHandlersGroup name handlers =
      .ok ({ p with groupEventHandlers := some (groups.insert name handlers) }, none) := by
  simp [EventGroupProcessor.addHandlersGroup, hne, hasGroup_of_some hp, hnew, hp]

/-- Assumes: a non-nil map whose groups are all non-empty. A run never panics, keeps the
config, and each name ends with the handlers it held, or else with those of its first
registration in the run. -/
theorem addHandlersGroups_lookup (calls : List (String × List (GroupEventHandler Event)))
    (hp : p.groupEventHandlers = some groups)
    (hne : ∀ name handlers, groups.lookup name = some handlers → handlers ≠ []) :
    ∃ q final, p.addHandlersGroups calls = .ok q ∧ q.config = p.config ∧
      q.groupEventHandlers = some final ∧
      (∀ name, final.lookup name = (groups.lookup name <|> firstRegistration name calls)) ∧
      ∀ name handlers, final.lookup name = some handlers → handlers ≠ [] := by
  induction calls generalizing p groups with
  | nil => exact ⟨p, groups, rfl, rfl, hp, fun name => by simp [firstRegistration], hne⟩
  | cons call calls ih =>
    obtain ⟨n, handlers⟩ := call
    by_cases hrej : handlers.length = 0 ∨ p.hasGroup n
    · obtain ⟨err, hadd⟩ := addHandlersGroup_rejects n handlers hrej
      obtain ⟨q, final, hrun, hcfg, hq, hlookup, hfinal⟩ := ih hp hne
      refine ⟨q, final, by simp [EventGroupProcessor.addHandlersGroups, hadd, hrun], hcfg, hq,
        fun name => ?_, hfinal⟩
      rw [hlookup, firstRegistration]
      by_cases hn : n = name
      · subst hn
        rw [hasGroup_of_some hp] at hrej
        rcases hrej with h0 | hsome
        · simp [h0]
        · obtain ⟨old, hold⟩ := Option.isSome_iff_exists.mp hsome
          simp [hold]
      · simp [hn]
    · have hne0 : handlers.length ≠ 0 := fun h => hrej (.inl h)
      have hnew : groups.lookup n = none := by
        simpa [hasGroup_of_some hp] using fun h => hrej (.inr h)
      obtain ⟨q, final, hrun, hcfg, hq, hlookup, hfinal⟩ :=
        @ih { p with groupEventHandlers := some (groups.insert n handlers) } _ rfl
          (fun name hs h => by
            by_cases hn : name = n
            · subst hn
              simp only [AList.lookup_insert, Option.some.injEq] at h
              exact h ▸ fun hh => hne0 (by simp [hh])
            · exact hne name hs (by rwa [AList.lookup_insert_ne hn] at h))
      refine ⟨q, final, ?_, hcfg, hq, fun name => ?_, hfinal⟩
      · simp [EventGroupProcessor.addHandlersGroups,
          addHandlersGroup_registers hp n handlers hne0 hnew, hrun]
      · rw [hlookup, firstRegistration]
        by_cases hn : name = n
        · subst hn
          simp [AList.lookup_insert, hnew, hne0]
        · simp [AList.lookup_insert_ne hn, Ne.symm hn]

end Registry

/-- The registry invariant of a processor made by `NewEventGroupProcessorWithConfig` and put
through any sequence of `AddHandlersGroup` calls: no call panics; the required collaborators
and the logger are set, so the nil `GenerateHandlerGroupSubscribeTopic` guard of
`AddHandlersToRouter` never holds; the map is non-nil, each name holds the non-empty handlers of
its first registration and nothing else is present; and a further call that fails leaves the
processor as it was. -/
theorem addHandlersGroups_registry (config : EventGroupProcessorConfig Event Subscriber)
    (p : EventGroupProcessor Event Subscriber) (hp : newEventGroupProcessorWithConfig config = .ok p)
    (calls : List (String × List (GroupEventHandler Event))) :
    ∃ q groups, p.addHandlersGroups calls = .ok q ∧
      q.config.marshaler.isSome ∧ q.config.logger.isSome ∧
      q.config.generateHandlerGroupSubscribeTopic.isSome ∧
      q.config.groupSubscriberConstructor.isSome ∧
      q.groupEventHandlers = some groups ∧
      (∀ name, groups.lookup name = firstRegistration name calls) ∧
      (∀ name handlers, groups.lookup name = some handlers → handlers ≠ []) ∧
      ∀ name handlers next err, q.addHandlersGroup name handlers = .ok (next, some err) →
        next = q := by
  obtain ⟨_, hempty, hm, hg, hc, hl⟩ := newEventGroupProcessorWithConfig_config hp
  obtain ⟨q, groups, hrun, hcfg, hq, hlookup, hne⟩ :=
    addHandlersGroups_lookup calls hempty (by simp [AList.lookup_empty])
  refine ⟨q, groups, hrun, hcfg ▸ hm, hcfg ▸ hl, hcfg ▸ hg, hcfg ▸ hc, hq,
    fun name => by simpa [AList.lookup_empty] using hlookup name, hne, ?_⟩
  intro name handlers next err h
  unfold EventGroupProcessor.addHandlersGroup at h
  split_ifs at h
  · cases h; rfl
  · cases h; rfl
  · simp only [hq, Except.ok.injEq, Prod.mk.injEq] at h
    cases h.2

def sampleGenerateTopic (params : GenerateEventHandlerGroupTopicParams Nat) : Except GoError String :=
  .ok ("events-" ++ params.eventGroupName)

def sampleConstructSubscriber (_params : EventsGroupSubscriberConstructorParams Nat) :
    Except GoError Nat :=
  .ok 0

def sampleEventMarshaler : CommandEventMarshaler Nat :=
  ⟨fun _ event => .ok event, fun event => toString event, fun msg => msg.uuid⟩

def sampleGroupConfig : EventGroupProcessorConfig Nat Nat :=
  ⟨some sampleGenerateTopic, some sampleConstructSubscriber, none, false, some sampleEventMarshaler,
    none⟩

def sampleGroupProcessor : EventGroupProcessor Nat Nat := ⟨some ∅, sampleGroupConfig.setDefaults⟩

def sampleGroupHandler : GroupEventHandler Nat := ⟨"*cqrs.sampleHandler", 1, fun _ => none⟩

theorem addHandlersGroups_registry_orders :
    newEventGroupProcessorWithConfig sampleGroupConfig = .ok sampleGroupProcessor ∧
    ∃ q groups, sampleGroupProcessor.addHandlersGroups
        [("orders", [sampleGroupHandler]), ("orders", []), ("orders", [sampleGroupHandler])] = .ok q ∧
      q.config.marshaler.isSome ∧ q.config.logger.isSome ∧
      q.config.generateHandlerGroupSubscribeTopic.isSome ∧
      q.config.groupSubscriberConstructor.isSome ∧
      q.groupEventHandlers = some groups ∧
      (∀ name, groups.lookup name = firstRegistration name
        [("orders", [sampleGroupHandler]), ("orders", []), ("orders", [sampleGroupHandler])]) ∧
      (∀ name handlers, groups.lookup name = some handlers → handlers ≠ []) ∧
      ∀ name handlers next err, q.addHandlersGroup name handlers = .ok (next, some err) →
        next = q :=
  ⟨rfl, addHandlersGroups_registry sampleGroupConfig sampleGroupProcessor rfl _⟩

end Watermill.Cqrs
