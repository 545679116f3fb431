import Watermill.Cqrs.EventGroupProcessor

/-!
# First-match dispatch in a handler group

`routerHandlerGroupFunc` returns the router handler of one group. The closure is kept as the
data it captures (`GroupHandlerFunc`) and run by `GroupHandlerFunc.run`, which returns the calls
it made to the marshaler and the handlers (`DispatchCall`) with the error it returns.

The loop over the handlers skips every handler whose event name differs from the message's
(`dispatchLoop_append_of_no_match`) and stops at the first one that matches, whatever follows it
(`dispatchLoop_first_match`). `routerHandlerGroupFunc_dispatch` is the resulting law: the first
matching handler alone is unmarshaled into and handled, once, and with no match nothing is
called and the error is nil exactly when `AckOnUnknownEvent` is set.

Not modelled: the logger calls, and the message context handed to `Handle`.
-/

set_option autoImplicit false
set_option relaxedAutoImplicit false

namespace Watermill.Cqrs

variable {Event Subscriber : Type}

/-- The router handler `routerHandlerGroupFunc` returns: the config of the processor it was
built from, the group's handlers and the group's name. -/
structure GroupHandlerFunc (Event Subscriber : Type) where
  config : EventGroupProcessorConfig Event Subscriber
  handlers : List (GroupEventHandler Event)
  groupName : String

/-- A call the router handler makes: `Unmarshal(msg, event)`, or the handle call. -/
inductive DispatchCall (Event : Type) where
  | unmarshal (msg : Message) (into : Event)
  | handle (params : OnGroupEventHandleParams Event)

/-- `routerHandlerGroupFunc`: the closure, with a nil error. -/
def EventGroupProcessor.routerHandlerGroupFunc (p : EventGroupProcessor Event Subscriber)
    (handlers : List (GroupEventHandler Event)) (groupName : String) :
    Except GoError (GroupHandlerFunc Event Subscriber) :=
  .ok ⟨p.config, handlers, groupName⟩

/-- The closure's `handle`: `OnGroupHandle` when set, else `Handler.Handle`. -/
def handleWith (onGroupHandle : Option (OnGroupEventHandleParams Event → Option GoError))
    (params : OnGroupEventHandleParams Event) : Option GoError :=
  match onGroupHandle with
  | some handle => handle params
  | none => params.handler.handle params.event

/-- The loop body after the name check: unmarshal into a fresh event, then handle it. -/
def dispatchTo (m : CommandEventMarshaler Event)
    (onGroupHandle : Option (OnGroupEventHandleParams Event → Option GoError))
    (groupName : String) (msg : Message) (messageEventName : String)
    (handler : GroupEventHandler Event) : List (DispatchCall Event) × Option GoError :=
  let event := handler.newEvent
  match m.unmarshal msg event with
  | .error err => ([.unmarshal msg event], some err)
  | .ok filled =>
    let params : OnGroupEventHandleParams Event :=
      { groupName, handler, event := filled, eventName := messageEventName, message := msg }
    ([.unmarshal msg event, .handle params], handleWith onGroupHandle params)

/-- The `for _, handler := range handlers` loop; `none` when it runs past the last handler. -/
def dispatchLoop (m : CommandEventMarshaler Event)
    (onGroupHandle : Option (OnGroupEventHandleParams Event → Option GoError))
    (groupName : String) (msg : Message) (messageEventName : String) :
    List (GroupEventHandler Event) → Option (List (DispatchCall Event) × Option GoError)
  | [] => none
  | handler :: handlers =>
    let expectedEventName := m.name handler.newEvent
    if messageEventName ≠ expectedEventName then
      dispatchLoop m onGroupHandle groupName msg messageEventName handlers
    else some (dispatchTo m onGroupHandle groupName msg messageEventName handler)

/-- Running the router handler on a message; the outer `.error` is the panic of a nil
marshaler. -/
def GroupHandlerFunc.run (f : GroupHandlerFunc Event Subscriber) (msg : Message) :
    Except String (List (DispatchCall Event) × Option GoError) :=
  match f.config.marshaler with
  | none => .error "invalid memory address or nil pointer dereference"
  | some m =>
    let messageEventName := m.nameFromMessage msg
    match dispatchLoop m f.config.onGroupHandle f.groupName msg messageEventName f.handlers with
    | some result => .ok result
    | none =>
      if !f.config.ackOnUnknownEvent then
        .ok ([], some (.new ("no handler found for event " ++ m.nameFromMessage msg)))
      else .ok ([], none)

section Loop

variable (m : CommandEventMarshaler Event)
  (onGroupHandle : Option (OnGroupEventHandleParams Event → Option GoError))
  (groupName : String) (msg : Message) (n : String)

/-- Handlers for other event names are skipped. -/
theorem dispatchLoop_append_of_no_match (pre rest : List (GroupEventHandler Event))
    (hpre : ∀ x ∈ pre, m.name x.newEvent ≠ n) :
    dispatchLoop m onGroupHandle groupName msg n (pre ++ rest) =
      dispatchLoop m onGroupHandle groupName msg n rest := by
  induction pre with
  | nil => rfl
  | cons x pre ih =>
    have hx : n ≠ m.name x.newEvent := Ne.symm (hpre x (.head _))
    rw [List.cons_append, dispatchLoop, if_pos hx]
    exact ih fun y hy => hpre y (.tail _ hy)

/-- The first handler for the message's event name is the one dispatched to. -/
theorem dispatchLoop_first_match (pre post : List (GroupEventHandler Event))
    (handler : GroupEventHandler Event) (hpre : ∀ x ∈ pre, m.name x.newEvent ≠ n)
    (hmatch : m.name handler.newEvent = n) :
    dispatchLoop m onGroupHandle groupName msg n (pre ++ handler :: post) =
      some (dispatchTo m onGroupHandle groupName msg n handler) := by
  rw [dispatchLoop_append_of_no_match m onGroupHandle groupName msg n pre _ hpre]
  simp [dispatchLoop, hmatch]

/-- With no handler for the message's event name the loop runs to its end. -/
theorem dispatchLoop_of_no_match (handlers : List (GroupEventHandler Event))
    (hnone : ∀ x ∈ handlers, m.name x.newEvent ≠ n) :
    dispatchLoop m onGroupHandle groupName msg n handlers = none := by
  simpa using dispatchLoop_append_of_no_match m onGroupHandle groupName msg n handlers [] hnone

/-- The selected handler is unmarshaled into once; the unmarshal error ends the call, otherwise
the handle call is made once with the group, the handler, the event name, the filled event and
the message. -/
theorem dispatchTo_cases (handler : GroupEventHandler Event) :
    (∃ err, m.unmarshal msg handler.newEvent = .error err ∧
      dispatchTo m onGroupHandle groupName msg n handler =
        ([.unmarshal msg handler.newEvent], some err)) ∨
    (∃ event, m.unmarshal msg handler.newEvent = .ok event ∧
      dispatchTo m onGroupHandle groupName msg n handler =
        ([.unmarshal msg handler.newEvent, .handle ⟨groupName, handler, event, n, msg⟩],
          handleWith onGroupHandle ⟨groupName, handler, event, n, msg⟩)) := by
  cases h : m.unmarshal msg handler.newEvent with
  | error err => exact .inl ⟨err, rfl, by simp [dispatchTo, h]⟩
  | ok event => exact .inr ⟨event, rfl, by simp [dispatchTo, h]⟩

end Loop

/-- First-match dispatch. With `n` the message's event name: when the first handler whose
`NewEvent()` is named `n` is `handler`, the message is unmarshaled into a fresh
`handler.NewEvent()` and the call returns the unmarshal error with no handle call, or the
result of the one handle call with the group, `handler`, `n`, the unmarshaled event and the
message; no other handler is unmarshaled into or handled. When no handler is named `n`, nothing
is called and the error is nil exactly when `AckOnUnknownEvent` is set. -/
theorem routerHandlerGroupFunc_dispatch (p : EventGroupProcessor Event Subscriber)
    (m : CommandEventMarshaler Event) (hm : p.config.marshaler = some m)
    (handlers : List (GroupEventHandler Event)) (groupName : String) (msg : Message) :
    ∃ f, p.routerHandlerGroupFunc handlers groupName = .ok f ∧
      (∀ pre handler post, handlers = pre ++ handler :: post →
        (∀ x ∈ pre, m.name x.newEvent ≠ m.nameFromMessage msg) →
        m.name handler.newEvent = m.nameFromMessage msg →
        (∃ err, m.unmarshal msg handler.newEvent = .error err ∧
          f.run msg = .ok ([.unmarshal msg handler.newEvent], some err)) ∨
        (∃ event, m.unmarshal msg handler.newEvent = .ok event ∧
          f.run msg = .ok
            ([.unmarshal msg handler.newEvent,
                .handle ⟨groupName, handler, event, m.nameFromMessage msg, msg⟩],
              match p.config.onGroupHandle with
              | some onGroupHandle =>
                onGroupHandle ⟨groupName, handler, event, m.nameFromMessage msg, msg⟩
              | none => handler.handle event))) ∧
      ((∀ x ∈ handlers, m.name x.newEvent ≠ m.nameFromMessage msg) →
        ∃ err, f.run msg = .ok ([], err) ∧ (err = none ↔ p.config.ackOnUnknownEvent = true)) := by
  refine ⟨_, rfl, ?_, ?_⟩
  · rintro pre handler post rfl hpre hmatch
    have hloop := dispatchLoop_first_match m p.config.onGroupHandle groupName msg _ pre post
      handler hpre hmatch
    rcases dispatchTo_cases m p.config.onGroupHandle groupName msg (m.nameFromMessage msg)
      handler with ⟨err, hu, hd⟩ | ⟨event, hu, hd⟩
    · exact .inl ⟨err, hu, by simp [GroupHandlerFunc.run, hm, hloop, hd]⟩
    · exact .inr ⟨event, hu, by simp [GroupHandlerFunc.run, hm, hloop, hd, handleWith]⟩
  · intro hnone
    have hloop := dispatchLoop_of_no_match m p.config.onGroupHandle groupName msg _ handlers hnone
    cases hack : p.config.ackOnUnknownEvent <;> simp [GroupHandlerFunc.run, hm, hloop, hack]

def sampleEventMessage : Message := ⟨"1", .empty, []⟩

def sampleLateHandler : GroupEventHandler Nat := ⟨"*cqrs.lateHandler", 1, fun _ => some (.new "late")⟩

theorem routerHandlerGroupFunc_dispatch_orders :
    sampleGroupProcessor.config.marshaler = some sampleEventMarshaler ∧
    GroupHandlerFunc.run ⟨sampleGroupProcessor.config, [sampleGroupHandler, sampleLateHandler],
        "orders"⟩ sampleEventMessage =
      .ok ([.unmarshal sampleEventMessage 1,
        .handle ⟨"orders", sampleGroupHandler, 1, "1", sampleEventMessage⟩], none) ∧
    ∃ f, sampleGroupProcessor.routerHandlerGroupFunc [sampleGroupHandler, sampleLateHandler]
        "orders" = .ok f ∧
      (∀ pre handler post, [sampleGroupHandler, sampleLateHandler] = pre ++ handler :: post →
        (∀ x ∈ pre, sampleEventMarshaler.name x.newEvent ≠
          sampleEventMarshaler.nameFromMessage sampleEventMessage) →
        sampleEventMarshaler.name handler.newEvent =
          sampleEventMarshaler.nameFromMessage sampleEventMessage →
        (∃ err, sampleEventMarshaler.unmarshal sampleEventMessage handler.newEvent = .error err ∧
          f.run sampleEventMessage = .ok ([.unmarshal sampleEventMessage handler.newEvent], some err)) ∨
        (∃ event, sampleEventMarshaler.unmarshal sampleEventMessage handler.newEvent = .ok event ∧
          f.run sampleEventMessage = .ok
            ([.unmarshal sampleEventMessage handler.newEvent,
                .handle ⟨"orders", handler, event,
                  sampleEventMarshaler.nameFromMessage sampleEventMessage, sampleEventMessage⟩],
              match sampleGroupProcessor.config.onGroupHandle with
              | some onGroupHandle =>
                onGroupHandle ⟨"orders", handler, event,
                  sampleEventMarshaler.nameFromMessage sampleEventMessage, sampleEventMessage⟩
              | none => handler.handle event))) ∧
      ((∀ x ∈ [sampleGroupHandler, sampleLateHandler], sampleEventMarshaler.name x.newEvent ≠
          sampleEventMarshaler.nameFromMessage sampleEventMessage) →
        ∃ err, f.run sampleEventMessage = .ok ([], err) ∧
          (err = none ↔ sampleGroupProcessor.config.ackOnUnknownEvent = true)) :=
  ⟨rfl, rfl, routerHandlerGroupFunc_dispatch sampleGroupProcessor sampleEventMarshaler rfl _ _ _⟩

end Watermill.Cqrs
