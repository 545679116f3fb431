import Watermill.Cqrs.AddHandlersToRouter

/-!
# From `AddHandlersGroup` to the router's handlers

A user of the event group processor calls `NewEventGroupProcessorWithConfig`, then
`AddHandlersGroup` any number of times, then `AddHandlersToRouter`, and the router then runs
the handler functions `routerHandlerGroupFunc` built. This module follows one group name
through the three steps, in the terms of the user's own calls.

`addHandlersToRouter_first_registrations`: when `AddHandlersToRouter` returns nil, a name that
no call registered has no call on the router, and a name whose first call with a non-empty list
gave `handlers` has its topic and subscriber made from `handlers` and is added to the router
once, with the handler function built from `handlers`. That function never panics and hands
each event to one of `handlers`: the handlers of a later call under the same name, which
`AddHandlersGroup` rejected, never run.

The pieces are the registry of `EventGroupProcessor`, the loop of `AddHandlersToRouter`, and
the dispatch of `GroupHandlerFunc.run`; `dispatchLoop_handle_mem` is the one fact added here
about the dispatch.
-/

set_option autoImplicit false
set_option relaxedAutoImplicit false

namespace Watermill.Cqrs

variable {Event Subscriber : Type}

section Dispatch

variable (m : CommandEventMarshaler Event)
  (onGroupHandle : Option (OnGroupEventHandleParams Event → Option GoError))
  (groupName : String) (msg : Message) (n : String)

/-- Every event the loop handles goes to a handler of the list whose event name is `n`, under
the group and with the message. -/
theorem dispatchLoop_handle_mem {handlers : List (GroupEventHandler Event)}
    {r : List (DispatchCall Event) × Option GoError}
    (h : dispatchLoop m onGroupHandle groupName msg n handlers = some r)
    {params : OnGroupEventHandleParams Event} (hp : DispatchCall.handle params ∈ r.1) :
    params.handler ∈ handlers ∧ m.name params.handler.newEvent = n ∧
      params.groupName = groupName ∧ params.message = msg := by
  induction handlers with
  | nil => cases h
  | cons x xs ih =>
    simp only [dispatchLoop] at h
    split_ifs at h with hne
    · obtain ⟨hmem, hrest⟩ := ih h
      exact ⟨.tail _ hmem, hrest⟩
    · cases h
      rcases dispatchTo_cases m onGroupHandle groupName msg n x with
        ⟨err, -, hd⟩ | ⟨event, -, hd⟩ <;> rw [hd] at hp <;> simp at hp
      subst hp
      exact ⟨.head _, (not_not.mp hne).symm, rfl, rfl⟩

end Dispatch

/-- Assumes: a config with a marshaler. The router handler never panics, and every event it
handles goes to one of its handlers whose event name is the message's, under its group and
with the message. -/
theorem GroupHandlerFunc.run_handles (f : GroupHandlerFunc Event Subscriber)
    {m : CommandEventMarshaler Event} (hm : f.config.marshaler = some m) (msg : Message) :
    ∃ r, f.run msg = .ok r ∧ ∀ params, DispatchCall.handle params ∈ r.1 →
      params.handler ∈ f.handlers ∧ m.name params.handler.newEvent = m.nameFromMessage msg ∧
        params.groupName = f.groupName ∧ params.message = msg := by
  simp only [GroupHandlerFunc.run, hm]
  cases hd : dispatchLoop m f.config.onGroupHandle f.groupName msg (m.nameFromMessage msg)
      f.handlers with
  | some r => exact ⟨r, rfl, fun params hp => dispatchLoop_handle_mem m _ _ msg _ hd hp⟩
  | none => by_cases hack : f.config.ackOnUnknownEvent <;> simp [hack]

section Router

variable (validateEvent : Event → Option GoError)
  (addHandlerToRouter : String → String → GroupHandlerFunc Event Subscriber → Subscriber →
    Option GoError)

/-- Assumes: a config with its callbacks and a logger. A loop body that returns nil generated
the topic, built the logger, constructed the subscriber and added the group to the router, with
the handler function built from the group's handlers. -/
theorem addGroupToRouter_ok_none (p : EventGroupProcessor Event Subscriber) (groupName : String)
    {generate : GenerateEventHandlerGroupTopicParams Event → Except GoError String}
    {construct : EventsGroupSubscriberConstructorParams Event → Except GoError Subscriber}
    (hgen : p.config.generateHandlerGroupSubscribeTopic = some generate)
    (hcon : p.config.groupSubscriberConstructor = some construct)
    (hlog : p.config.logger.isSome) {called : List (RouterCall Event Subscriber)}
    (h : addGroupToRouter validateEvent addHandlerToRouter p groupName = .ok (called, none)) :
    ∃ topic subscriber, generate ⟨groupName, p.groupHandlers groupName⟩ = .ok topic ∧
      construct ⟨groupName, p.groupHandlers groupName⟩ = .ok subscriber ∧
      called = [.generateTopic ⟨groupName, p.groupHandlers groupName⟩,
        .loggerWith groupName topic, .constructSubscriber ⟨groupName, p.groupHandlers groupName⟩,
        .addHandlerToRouter groupName topic ⟨p.config, p.groupHandlers groupName, groupName⟩
          subscriber] := by
  obtain ⟨called', err, hbody, hcases⟩ :=
    addGroupToRouter_cases validateEvent addHandlerToRouter p groupName hgen hcon hlog
  rw [hbody, Except.ok.injEq, Prod.mk.injEq] at h
  obtain ⟨rfl, rfl⟩ := h
  rcases hcases with ⟨-, -, ⟨⟩⟩ | ⟨-, ⟨-, -, ⟨⟩⟩ | ⟨topic, ht, ⟨-, -, ⟨⟩⟩ | ⟨sub, f, hc, hf, rfl⟩⟩⟩
  simp only [EventGroupProcessor.routerHandlerGroupFunc, Except.ok.injEq] at hf
  subst hf
  exact ⟨topic, sub, ht, hc, rfl⟩

/-- From the user's calls to the router. Make a processor with `NewEventGroupProcessorWithConfig`
from a config with both callbacks, make any sequence of `AddHandlersGroup` calls, and let
`AddHandlersToRouter` return nil in any order of the groups. A name that no call registered has
no call at all. A name `g` whose first call with a non-empty list gave `handlers` has its topic
generated and its subscriber constructed from `handlers`, and is added to the router once, with
the handler function `routerHandlerGroupFunc` built from the defaulted config, `handlers` and
`g`. That function never panics, and every event it handles goes to one of `handlers`, under
`g`: the handlers of a later call for `g` never run. -/
theorem addHandlersToRouter_first_registrations (config : EventGroupProcessorConfig Event Subscriber)
    (generate : GenerateEventHandlerGroupTopicParams Event → Except GoError String)
    (construct : EventsGroupSubscriberConstructorParams Event → Except GoError Subscriber)
    (hgen : config.generateHandlerGroupSubscribeTopic = some generate)
    (hcon : config.groupSubscriberConstructor = some construct)
    (p₀ p : EventGroupProcessor Event Subscriber) (hnew : newEventGroupProcessorWithConfig config = .ok p₀)
    (calls : List (String × List (GroupEventHandler Event))) (hrun : p₀.addHandlersGroups calls = .ok p)
    (order : List String) (horder : order.Perm p.groupNames)
    {trace : List (RouterCall Event Subscriber)}
    (hok : p.addHandlersToRouter validateEvent addHandlerToRouter order = .ok (trace, none))
    (g : String) :
    (firstRegistration g calls = none → trace.filter (fun c => c.group = g) = []) ∧
    ∀ handlers, firstRegistration g calls = some handlers →
      ∃ topic subscriber, generate ⟨g, handlers⟩ = .ok topic ∧
        construct ⟨g, handlers⟩ = .ok subscriber ∧
        trace.filter (fun c => c.group = g) =
          [.generateTopic ⟨g, handlers⟩, .loggerWith g topic, .constructSubscriber ⟨g, handlers⟩,
            .addHandlerToRouter g topic ⟨config.setDefaults, handlers, g⟩ subscriber] ∧
        ∀ msg, ∃ r, GroupHandlerFunc.run ⟨config.setDefaults, handlers, g⟩ msg = .ok r ∧
          ∀ params, DispatchCall.handle params ∈ r.1 →
            params.handler ∈ handlers ∧ params.groupName = g := by
  obtain ⟨hcfg₀, hempty, hm, -, -, -⟩ := newEventGroupProcessorWithConfig_config hnew
  obtain ⟨hgen', hcon', hlog, hnodup⟩ :=
    addHandlersGroups_routerReady config hgen hcon hnew hrun horder
  obtain ⟨q, groups, hq, hcfg, hgroups, hlookup, -⟩ :=
    addHandlersGroups_lookup calls hempty (by simp [AList.lookup_empty])
  rw [hrun, Except.ok.injEq] at hq
  subst hq
  have hreg : groups.lookup g = firstRegistration g calls := by
    simpa [AList.lookup_empty] using hlookup g
  have hconfig : p.config = config.setDefaults := hcfg.trans hcfg₀
  have hmem_order : g ∈ order ↔ (firstRegistration g calls).isSome := by
    rw [horder.mem_iff, ← hreg, AList.lookup_isSome]
    simp [EventGroupProcessor.groupNames, hgroups, AList.mem_keys]
  have hnonempty : p.groupNames ≠ [] := by
    intro h
    simp [EventGroupProcessor.addHandlersToRouter, h] at hok
  obtain ⟨trace', err, hloop, hmem, -, hnone⟩ :=
    addGroupsToRouter_spec validateEvent addHandlerToRouter p order hnodup
      fun g _ => addGroupToRouter_group validateEvent addHandlerToRouter p g hgen' hcon' hlog
  simp only [EventGroupProcessor.addHandlersToRouter, List.length_eq_zero, hnonempty, if_false,
    hloop, Except.ok.injEq, Prod.mk.injEq] at hok
  obtain ⟨rfl, rfl⟩ := hok
  refine ⟨fun hfirst => List.filter_eq_nil_iff.mpr fun c hc hcg => ?_, fun handlers hfirst => ?_⟩
  · have hg : g ∉ order := by simp [hmem_order, hfirst]
    exact hg (of_decide_eq_true hcg ▸ hmem c hc)
  · have hhandlers : p.groupHandlers g = handlers := by
      simp [EventGroupProcessor.groupHandlers, hgroups, hreg, hfirst]
    obtain ⟨⟨called, err⟩, hr, rfl, hfilter⟩ := hnone rfl g (hmem_order.mpr (by simp [hfirst]))
    obtain ⟨topic, subscriber, ht, hs, rfl⟩ :=
      addGroupToRouter_ok_none validateEvent addHandlerToRouter p g hgen' hcon' hlog hr
    rw [hhandlers, hconfig] at *
    refine ⟨topic, subscriber, ht, hs, hfilter, fun msg => ?_⟩
    obtain ⟨m, hmarshaler⟩ := Option.isSome_iff_exists.mp (hcfg₀ ▸ hm)
    obtain ⟨r, hrun, hhandles⟩ :=
      GroupHandlerFunc.run_handles ⟨config.setDefaults, handlers, g⟩ hmarshaler msg
    exact ⟨r, hrun, fun params hp => ⟨(hhandles params hp).1, (hhandles params hp).2.2.1⟩⟩

def sampleDuplicateCalls : List (String × List (GroupEventHandler Nat)) :=
  [("orders", [sampleGroupHandler]), ("orders", [sampleLateHandler])]

theorem addHandlersToRouter_first_registrations_orders :
    sampleGroupConfig.generateHandlerGroupSubscribeTopic = some sampleGenerateTopic ∧
    sampleGroupConfig.groupSubscriberConstructor = some sampleConstructSubscriber ∧
    newEventGroupProcessorWithConfig sampleGroupConfig = .ok sampleGroupProcessor ∧
    sampleGroupProcessor.addHandlersGroups sampleDuplicateCalls = .ok sampleOrdersProcessor ∧
    ["orders"].Perm sampleOrdersProcessor.groupNames ∧
    sampleOrdersProcessor.addHandlersToRouter sampleValidateEvent sampleAddHandlerToRouter
      ["orders"] = .ok (sampleOrdersTrace, none) ∧
    ((firstRegistration "orders" sampleDuplicateCalls = none →
        sampleOrdersTrace.filter (fun c => c.group = "orders") = []) ∧
      ∀ handlers, firstRegistration "orders" sampleDuplicateCalls = some handlers →
        ∃ topic subscriber, sampleGenerateTopic ⟨"orders", handlers⟩ = .ok topic ∧
          sampleConstructSubscriber ⟨"orders", handlers⟩ = .ok subscriber ∧
          sampleOrdersTrace.filter (fun c => c.group = "orders") =
            [.generateTopic ⟨"orders", handlers⟩, .loggerWith "orders" topic,
              .constructSubscriber ⟨"orders", handlers⟩,
              .addHandlerToRouter "orders" topic ⟨sampleGroupConfig.setDefaults, handlers, "orders"⟩
                subscriber] ∧
          ∀ msg, ∃ r, GroupHandlerFunc.run ⟨sampleGroupConfig.setDefaults, handlers, "orders"⟩ msg =
              .ok r ∧
            ∀ params, DispatchCall.handle params ∈ r.1 →
              params.handler ∈ handlers ∧ params.groupName = "orders") :=
  ⟨rfl, rfl, rfl, rfl, .refl _, rfl,
    addHandlersToRouter_first_registrations sampleValidateEvent sampleAddHandlerToRouter
      sampleGroupConfig sampleGenerateTopic sampleConstructSubscriber rfl rfl sampleGroupProcessor
      sampleOrdersProcessor rfl sampleDuplicateCalls rfl ["orders"] (.refl _) rfl "orders"⟩

end Router

end Watermill.Cqrs
