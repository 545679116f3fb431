import Watermill.Cqrs.GroupHandlerFunc

/-!
# Adding the handler groups to a router

`AddHandlersToRouter` visits the groups of the map in the order Go's `range` picks, any
permutation of the names. For each group it validates the handlers' events, generates the
topic, derives a logger, builds the router handler, constructs the subscriber and registers the
handler with the package's `addHandlerToRouter`; the first error ends the call.
`addHandlersToRouter` returns the calls it made to the config callbacks and to the router
(`RouterCall`) with the error it returns. `validateEvent` and `addHandlerToRouter` are functions
of the `cqrs` package that are not part of the modelled source: they are parameters.

`addGroupToRouter_cases` lists the four ways one group can end, `addGroupsToRouter_spec` what
the loop leaves for each group, and `addHandlersToRouter_calls` the guarantees of the
`GroupSubscriberConstructor` comment for every processor reachable from the constructor.
`addHandlersToRouter_first_error` says what an error leaves behind: the groups visited before
the failing one are registered, and the groups after it are untouched.
-/

set_option autoImplicit false
set_option relaxedAutoImplicit false

namespace Watermill.Cqrs

variable {Event Subscriber : Type}

/-- What a call made by `AddHandlersToRouter` was. -/
inductive RouterCallKind where
  | generateTopic
  | loggerWith
  | constructSubscriber
  | addHandlerToRouter
  deriving DecidableEq, Repr

/-- A call `AddHandlersToRouter` makes to a config callback or to the router:
`GenerateHandlerGroupSubscribeTopic(params)`, `Logger.With` for the group and its topic,
`GroupSubscriberConstructor(params)`, and
`addHandlerToRouter(logger, r, handlerName, topicName, handlerFunc, subscriber)`. -/
inductive RouterCall (Event Subscriber : Type) where
  | generateTopic (params : GenerateEventHandlerGroupTopicParams Event)
  | loggerWith (groupName topic : String)
  | constructSubscriber (params : EventsGroupSubscriberConstructorParams Event)
  | addHandlerToRouter (handlerName topicName : String)
      (handlerFunc : GroupHandlerFunc Event Subscriber) (subscriber : Subscriber)

/-- The group a call is made for. -/
def RouterCall.group : RouterCall Event Subscriber → String
  | .generateTopic params => params.eventGroupName
  | .loggerWith groupName _ => groupName
  | .constructSubscriber params => params.eventGroupName
  | .addHandlerToRouter handlerName _ _ _ => handlerName

/-- The kind of a call. -/
def RouterCall.kind : RouterCall Event Subscriber → RouterCallKind
  | .generateTopic _ => .generateTopic
  | .loggerWith _ _ => .loggerWith
  | .constructSubscriber _ => .constructSubscriber
  | .addHandlerToRouter _ _ _ _ => .addHandlerToRouter

/-- The group names, in the map's own order; a nil map has none. -/
def EventGroupProcessor.groupNames (p : EventGroupProcessor Event Subscriber) : List String :=
  match p.groupEventHandlers with
  | none => []
  | some groups => groups.keys

/-- `p.groupEventHandlers[name]`: nil for a missing name or a nil map. -/
def EventGroupProcessor.groupHandlers (p : EventGroupProcessor Event Subscriber) (name : String) :
    List (GroupEventHandler Event) :=
  match p.groupEventHandlers with
  | none => []
  | some groups => (groups.lookup name).getD []

/-- Assumes: a processor made by `NewEventGroupProcessorWithConfig` from a config with both
callbacks, then given any sequence of `AddHandlersGroup` calls, and an order of its groups. The
processor keeps both callbacks and has a logger, and the order visits each group once. -/
theorem addHandlersGroups_routerReady (config : EventGroupProcessorConfig Event Subscriber)
    {generate : GenerateEventHandlerGroupTopicParams Event → Except GoError String}
    {construct : EventsGroupSubscriberConstructorParams Event → Except GoError Subscriber}
    (hgen : config.generateHandlerGroupSubscribeTopic = some generate)
    (hcon : config.groupSubscriberConstructor = some construct)
    {p₀ p : EventGroupProcessor Event Subscriber} (hnew : newEventGroupProcessorWithConfig config = .ok p₀)
    {calls : List (String × List (GroupEventHandler Event))} (hrun : p₀.addHandlersGroups calls = .ok p)
    {order : List String} (horder : order.Perm p.groupNames) :
    p.config.generateHandlerGroupSubscribeTopic = some generate ∧
      p.config.groupSubscriberConstructor = some construct ∧ p.config.logger.isSome ∧
      order.Nodup := by
  obtain ⟨hcfg₀, hempty, -, -, -, hlog₀⟩ := newEventGroupProcessorWithConfig_config hnew
  obtain ⟨q, groups, hq, hcfg, hgroups, -, -⟩ :=
    addHandlersGroups_lookup calls hempty (by simp [AList.lookup_empty])
  rw [hrun, Except.ok.injEq] at hq
  subst hq
  rw [hcfg, hcfg₀]
  exact ⟨hgen, hcon, hcfg₀ ▸ hlog₀, horder.nodup_iff.mpr (by
    simpa [EventGroupProcessor.groupNames, hgroups] using groups.keys_nodup)⟩

section Router

variable (validateEvent : Event → Option GoError)
  (addHandlerToRouter : String → String → GroupHandlerFunc Event Subscriber → Subscriber →
    Option GoError)

/-- The `validateEvent(handler.NewEvent())` loop over a group, from handler number `i` on. -/
def validateGroupEvents (groupName : String) :
    Nat → List (GroupEventHandler Event) → Option GoError
  | _, [] => none
  | i, handler :: handlers =>
    match validateEvent handler.newEvent with
    | some err => some (.wrap err ("invalid event for handler " ++ handler.typeName ++ " (num " ++
        toString i ++ ") in group " ++ groupName))
    | none => validateGroupEvents groupName (i + 1) handlers

/-- The body of the `range` loop for one group. The outer `.error` is a panic: a nil logger or
subscriber constructor called. -/
def addGroupToRouter (p : EventGroupProcessor Event Subscriber) (groupName : String) :
    Except String (List (RouterCall Event Subscriber) × Option GoError) :=
  let handlersGroup := p.groupHandlers groupName
  match validateGroupEvents validateEvent groupName 0 handlersGroup with
  | some err => .ok ([], some err)
  | none =>
  match p.config.generateHandlerGroupSubscribeTopic with
  | none => .ok ([], some (.new "missing GenerateHandlerGroupSubscribeTopic config option"))
  | some generate =>
  let topicParams : GenerateEventHandlerGroupTopicParams Event := ⟨groupName, handlersGroup⟩
  match generate topicParams with
  | .error err => .ok ([.generateTopic topicParams],
      some (.wrap err ("cannot generate topic name for handler group " ++ groupName)))
  | .ok topicName =>
  match p.config.logger with
  | none => .error "invalid memory address or nil pointer dereference"
  | some _ =>
  let called := [.generateTopic topicParams, .loggerWith groupName topicName]
  match p.routerHandlerGroupFunc handlersGroup groupName with
  | .error err => .ok (called, some err)
  | .ok handlerFunc =>
  match p.config.groupSubscriberConstructor with
  | none => .error "invalid memory address or nil pointer dereference"
  | some construct =>
  let subscriberParams : EventsGroupSubscriberConstructorParams Event := ⟨groupName, handlersGroup⟩
  match construct subscriberParams with
  | .error err => .ok (called ++ [.constructSubscriber subscriberParams],
      some (.wrap err "cannot create subscriber for event processor"))
  | .ok subscriber =>
    .ok (called ++ [.constructSubscriber subscriberParams,
        .addHandlerToRouter groupName topicName handlerFunc subscriber],
      addHandlerToRouter groupName topicName handlerFunc subscriber)

/-- The `range` loop over the groups in the visiting order `order`. -/
def addGroupsToRouter (p : EventGroupProcessor Event Subscriber) :
    List String → Except String (List (RouterCall Event Subscriber) × Option GoError)
  | [] => .ok ([], none)
  | groupName :: rest =>
    match addGroupToRouter validateEvent addHandlerToRouter p groupName with
    | .error panic => .error panic
    | .ok (called, some err) => .ok (called, some err)
    | .ok (called, none) =>
      match addGroupsToRouter p rest with
      | .error panic => .error panic
      | .ok (later, err) => .ok (called ++ later, err)

/-- `AddHandlersToRouter`, visiting the groups in the order `order`. -/
def EventGroupProcessor.addHandlersToRouter (p : EventGroupProcessor Event Subscriber)
    (order : List String) :
    Except String (List (RouterCall Event Subscriber) × Option GoError) :=
  if p.groupNames.length = 0 then
    .ok ([], some (.new "EventProcessor has no handlers, did you call AddHandler?"))
  else addGroupsToRouter validateEvent addHandlerToRouter p order

/-- The four ways the loop body can end when the config has its callbacks and a logger: the
events fail validation with no call; the topic generation fails after its one call; the
subscriber constructor fails after the topic, the logger and its own call; or the group is
registered with one call of each. -/
theorem addGroupToRouter_cases (p : EventGroupProcessor Event Subscriber) (groupName : String)
    {generate : GenerateEventHandlerGroupTopicParams Event → Except GoError String}
    {construct : EventsGroupSubscriberConstructorParams Event → Except GoError Subscriber}
    (hgen : p.config.generateHandlerGroupSubscribeTopic = some generate)
    (hcon : p.config.groupSubscriberConstructor = some construct)
    (hlog : p.config.logger.isSome) :
    ∃ called err, addGroupToRouter validateEvent addHandlerToRouter p groupName = .ok (called, err) ∧
      (validateGroupEvents validateEvent groupName 0 (p.groupHandlers groupName) ≠ none ∧
          called = [] ∧ err.isSome ∨
        validateGroupEvents validateEvent groupName 0 (p.groupHandlers groupName) = none ∧
        ((∃ e, generate ⟨groupName, p.groupHandlers groupName⟩ = .error e) ∧
            called = [.generateTopic ⟨groupName, p.groupHandlers groupName⟩] ∧ err.isSome ∨
          ∃ topic, generate ⟨groupName, p.groupHandlers groupName⟩ = .ok topic ∧
            ((∃ e, construct ⟨groupName, p.groupHandlers groupName⟩ = .error e) ∧
                called = [.generateTopic ⟨groupName, p.groupHandlers groupName⟩,
                  .loggerWith groupName topic,
                  .constructSubscriber ⟨groupName, p.groupHandlers groupName⟩] ∧ err.isSome ∨
              ∃ subscriber f, construct ⟨groupName, p.groupHandlers groupName⟩ = .ok subscriber ∧
                p.routerHandlerGroupFunc (p.groupHandlers groupName) groupName = .ok f ∧
                called = [.generateTopic ⟨groupName, p.groupHandlers groupName⟩,
                  .loggerWith groupName topic,
                  .constructSubscriber ⟨groupName, p.groupHandlers groupName⟩,
                  .addHandlerToRouter groupName topic f subscriber]))) := by
  obtain ⟨logger, hl⟩ := Option.isSome_iff_exists.mp hlog
  cases hv : validateGroupEvents validateEvent groupName 0 (p.groupHandlers groupName) with
  | some e => exact ⟨[], some e, by simp [addGroupToRouter, hv], .inl ⟨by simp, rfl, rfl⟩⟩
  | none =>
    cases ht : generate ⟨groupName, p.groupHandlers groupName⟩ with
    | error e =>
      exact ⟨_, _, by simp [addGroupToRouter, hv, hgen, ht]; rfl,
        .inr ⟨rfl, .inl ⟨⟨e, rfl⟩, rfl, by rfl⟩⟩⟩
    | ok topic =>
      cases hc : construct ⟨groupName, p.groupHandlers groupName⟩ with
      | error e =>
        exact ⟨_, _, by simp [addGroupToRouter, hv, hgen, ht, hl, hcon, hc,
          EventGroupProcessor.routerHandlerGroupFunc]; rfl,
          .inr ⟨rfl, .inr ⟨topic, rfl, .inl ⟨⟨e, rfl⟩, rfl, by rfl⟩⟩⟩⟩
      | ok subscriber =>
        exact ⟨_, _, by simp [addGroupToRouter, hv, hgen, ht, hl, hcon, hc,
          EventGroupProcessor.routerHandlerGroupFunc]; rfl,
          .inr ⟨rfl, .inr ⟨topic, rfl, .inr ⟨subscriber, _, rfl, rfl, rfl⟩⟩⟩⟩

/-- The calls a body makes are all for its own group. -/
theorem addGroupToRouter_group (p : EventGroupProcessor Event Subscriber) (groupName : String)
    {generate : GenerateEventHandlerGroupTopicParams Event → Except GoError String}
    {construct : EventsGroupSubscriberConstructorParams Event → Except GoError Subscriber}
    (hgen : p.config.generateHandlerGroupSubscribeTopic = some generate)
    (hcon : p.config.groupSubscriberConstructor = some construct)
    (hlog : p.config.logger.isSome) :
    ∃ r, addGroupToRouter validateEvent addHandlerToRouter p groupName = .ok r ∧
      ∀ c ∈ r.1, c.group = groupName := by
  obtain ⟨called, err, hbody, hcases⟩ :=
    addGroupToRouter_cases validateEvent addHandlerToRouter p groupName hgen hcon hlog
  refine ⟨_, hbody, ?_⟩
  rcases hcases with ⟨-, rfl, -⟩ | ⟨-, ⟨-, rfl, -⟩ | ⟨_, -, ⟨-, rfl, -⟩ | ⟨_, _, -, -, rfl⟩⟩⟩ <;>
    simp [RouterCall.group]

/-- Assumes: calls all made for group `g`. Seen from any group, they are all or none. -/
theorem filter_group_of_forall {g : String} {called : List (RouterCall Event Subscriber)}
    (hgroup : ∀ c ∈ called, c.group = g) (g' : String) :
    called.filter (fun c => c.group = g') = if g = g' then called else [] := by
  split_ifs with h
  · exact List.filter_eq_self.mpr fun c hc => by simp [hgroup c hc, h]
  · exact List.filter_eq_nil_iff.mpr fun c hc => by simp [hgroup c hc, h]

/-- Assumes: distinct group names, and bodies that end without a panic and call only for their
own group. The loop calls only for the visited groups; its calls for a group are none, when an
earlier group ended the loop, or those of the group's body; and a nil error means every body
ran and returned nil. -/
theorem addGroupsToRouter_spec (p : EventGroupProcessor Event Subscriber) (order : List String)
    (hnodup : order.Nodup)
    (hbody : ∀ g ∈ order, ∃ r, addGroupToRouter validateEvent addHandlerToRouter p g = .ok r ∧
      ∀ c ∈ r.1, c.group = g) :
    ∃ trace err, addGroupsToRouter validateEvent addHandlerToRouter p order = .ok (trace, err) ∧
      (∀ c ∈ trace, c.group ∈ order) ∧
      (∀ g, trace.filter (fun c => c.group = g) = [] ∨
        ∃ r, addGroupToRouter validateEvent addHandlerToRouter p g = .ok r ∧
          trace.filter (fun c => c.group = g) = r.1) ∧
      (err = none → ∀ g ∈ order,
        ∃ r, addGroupToRouter validateEvent addHandlerToRouter p g = .ok r ∧
          r.2 = none ∧ trace.filter (fun c => c.group = g) = r.1) := by
  induction order with
  | nil => exact ⟨[], none, rfl, by simp, fun _ => .inl rfl, by simp⟩
  | cons g gs ih =>
    obtain ⟨⟨called, err₀⟩, hr, hgroup⟩ := hbody g (.head _)
    have hown := filter_group_of_forall hgroup
    cases err₀ with
    | some e =>
      refine ⟨called, some e, by simp [addGroupsToRouter, hr], fun c hc => by simp [hgroup c hc],
        fun g' => ?_, by simp⟩
      rw [hown g']
      split_ifs with h
      · subst h
        exact .inr ⟨_, hr, rfl⟩
      · exact .inl rfl
    | none =>
      obtain ⟨hg, hgs⟩ := List.nodup_cons.mp hnodup
      obtain ⟨later, err, hrun, hmem, hfilter, hnone⟩ :=
        ih hgs fun g' hg' => hbody g' (.tail _ hg')
      have hlater : later.filter (fun c => c.group = g) = [] :=
        List.filter_eq_nil_iff.mpr fun c hc hcg => hg (of_decide_eq_true hcg ▸ hmem c hc)
      refine ⟨called ++ later, err, by simp [addGroupsToRouter, hr, hrun], ?_, fun g' => ?_,
        fun herr g' hg' => ?_⟩
      · intro c hc
        rcases List.mem_append.mp hc with hc | hc
        · simp [hgroup c hc]
        · exact .tail _ (hmem c hc)
      · rw [List.filter_append, hown g']
        split_ifs with h
        · subst h
          exact .inr ⟨_, hr, by simp [hlater]⟩
        · simpa using hfilter g'
      · rw [List.filter_append, hown g']
        rcases List.mem_cons.mp hg' with rfl | hg'
        · exact ⟨_, hr, rfl, by simp [hlater]⟩
        · have hne : g ≠ g' := fun h => hg (h ▸ hg')
          simpa [hne] using hnone herr g' hg'

/-- Assumes: bodies that end without a panic. A loop that returns an error stopped at the first
group whose body returned one: the loop over the groups before it returned nil, and the calls are
theirs followed by that group's. -/
theorem addGroupsToRouter_error (p : EventGroupProcessor Event Subscriber) (order : List String)
    (hbody : ∀ g ∈ order, ∃ r, addGroupToRouter validateEvent addHandlerToRouter p g = .ok r)
    {trace : List (RouterCall Event Subscriber)} {e : GoError}
    (h : addGroupsToRouter validateEvent addHandlerToRouter p order = .ok (trace, some e)) :
    ∃ pre g post preTrace called, order = pre ++ g :: post ∧
      addGroupsToRouter validateEvent addHandlerToRouter p pre = .ok (preTrace, none) ∧
      addGroupToRouter validateEvent addHandlerToRouter p g = .ok (called, some e) ∧
      trace = preTrace ++ called := by
  induction order generalizing trace with
  | nil => simp [addGroupsToRouter] at h
  | cons g gs ih =>
    obtain ⟨⟨called, err₀⟩, hr⟩ := hbody g (.head _)
    cases err₀ with
    | some e₀ =>
      simp only [addGroupsToRouter, hr, Except.ok.injEq, Prod.mk.injEq, Option.some.injEq] at h
      obtain ⟨rfl, rfl⟩ := h
      exact ⟨[], g, gs, [], called, rfl, rfl, hr, rfl⟩
    | none =>
      cases hrest : addGroupsToRouter validateEvent addHandlerToRouter p gs with
      | error panic => simp [addGroupsToRouter, hr, hrest] at h
      | ok r =>
        obtain ⟨later, err⟩ := r
        simp only [addGroupsToRouter, hr, hrest, Except.ok.injEq, Prod.mk.injEq] at h
        obtain ⟨rfl, rfl⟩ := h
        obtain ⟨pre, g', post, preTrace, called', rfl, hpre, hg', rfl⟩ :=
          ih (fun g'' hg'' => hbody g'' (.tail _ hg'')) hrest
        exact ⟨g :: pre, g', post, called ++ preTrace, called', rfl,
          by simp [addGroupsToRouter, hr, hpre], hg', by simp⟩

/-- For a processor made by `NewEventGroupProcessorWithConfig` and then given any sequence of
`AddHandlersGroup` calls, and any order of its groups: with no group, the call fails before any
callback or router call. When it returns nil, each group `g` has had exactly one topic
generation and one subscriber construction, both with `g` and its handlers, and exactly one
router registration under `g`, with the generated topic, the constructed subscriber and the
handler `routerHandlerGroupFunc` built for `g`. When it returns an error, no group had a callback
called twice, and no subscriber was constructed for a group whose events failed validation or
whose topic generation failed. -/
theorem addHandlersToRouter_calls (config : EventGroupProcessorConfig Event Subscriber)
    (generate : GenerateEventHandlerGroupTopicParams Event → Except GoError String)
    (construct : EventsGroupSubscriberConstructorParams Event → Except GoError Subscriber)
    (hgen : config.generateHandlerGroupSubscribeTopic = some generate)
    (hcon : config.groupSubscriberConstructor = some construct)
    (p₀ p : EventGroupProcessor Event Subscriber) (hnew : newEventGroupProcessorWithConfig config = .ok p₀)
    (calls : List (String × List (GroupEventHandler Event))) (hrun : p₀.addHandlersGroups calls = .ok p)
    (order : List String) (horder : order.Perm p.groupNames) :
    ∃ trace err, p.addHandlersToRouter validateEvent addHandlerToRouter order = .ok (trace, err) ∧
      (p.groupNames = [] → trace = [] ∧ err.isSome) ∧
      (err = none → ∀ g ∈ p.groupNames, ∃ topic subscriber f,
        generate ⟨g, p.groupHandlers g⟩ = .ok topic ∧
        construct ⟨g, p.groupHandlers g⟩ = .ok subscriber ∧
        p.routerHandlerGroupFunc (p.groupHandlers g) g = .ok f ∧
        trace.filter (fun c => c.group = g) =
          [.generateTopic ⟨g, p.groupHandlers g⟩, .loggerWith g topic,
            .constructSubscriber ⟨g, p.groupHandlers g⟩, .addHandlerToRouter g topic f subscriber]) ∧
      (err.isSome → ∀ g, ((trace.filter (fun c => c.group = g)).map RouterCall.kind).Nodup ∧
        (validateGroupEvents validateEvent g 0 (p.groupHandlers g) ≠ none ∨
            (∃ e, generate ⟨g, p.groupHandlers g⟩ = .error e) →
          RouterCallKind.constructSubscriber ∉
            (trace.filter (fun c => c.group = g)).map RouterCall.kind)) := by
  obtain ⟨hgen', hcon', hlog, hnodup⟩ :=
    addHandlersGroups_routerReady config hgen hcon hnew hrun horder
  by_cases hzero : p.groupNames = []
  · refine ⟨[], some (.new "EventProcessor has no handlers, did you call AddHandler?"),
      by simp [EventGroupProcessor.addHandlersToRouter, hzero], fun _ => ⟨rfl, rfl⟩,
      by simp, fun _ _ => by simp⟩
  obtain ⟨trace, err, hloop, -, hfilter, hnone⟩ :=
    addGroupsToRouter_spec validateEvent addHandlerToRouter p order hnodup
      fun g _ => addGroupToRouter_group validateEvent addHandlerToRouter p g hgen' hcon' hlog
  refine ⟨trace, err, by simp [EventGroupProcessor.addHandlersToRouter, hzero, hloop],
    fun h => absurd h hzero, fun herr g hg => ?_, fun _ g => ?_⟩
  · obtain ⟨r, hr, hr2, hf⟩ := hnone herr g (horder.mem_iff.mpr hg)
    obtain ⟨called, err', hbody, hcases⟩ :=
      addGroupToRouter_cases validateEvent addHandlerToRouter p g hgen' hcon' hlog
    rw [hbody, Except.ok.injEq] at hr
    subst hr
    simp only at hr2 hf
    rcases hcases with ⟨-, -, h⟩ | ⟨-, ⟨-, -, h⟩ | ⟨topic, ht, ⟨-, -, h⟩ | ⟨sub, f, hc, hf', hcalled⟩⟩⟩ <;>
      try simp [hr2] at h
    exact ⟨topic, sub, f, ht, hc, hf', hf.trans hcalled⟩
  · rcases hfilter g with h | ⟨r, hr, h⟩
    · simp [h]
    obtain ⟨called, err', hbody, hcases⟩ :=
      addGroupToRouter_cases validateEvent addHandlerToRouter p g hgen' hcon' hlog
    rw [hbody, Except.ok.injEq] at hr
    subst hr
    rw [h]
    rcases hcases with ⟨-, rfl, -⟩ | ⟨hv, ⟨-, rfl, -⟩ | ⟨topic, ht, ⟨-, rfl, -⟩ | ⟨_, _, -, -, rfl⟩⟩⟩
    · simp
    · simp [RouterCall.kind]
    all_goals
      refine ⟨by simp [RouterCall.kind], fun hfail => ?_⟩
      rcases hfail with hfail | ⟨e, he⟩
      · exact absurd hv hfail
      · rw [ht] at he
        cases he

/-- For a processor made by `NewEventGroupProcessorWithConfig` and then given any sequence of
`AddHandlersGroup` calls, and any order of its groups: an error from `AddHandlersToRouter` is
the "no handlers" error of a processor with no group, returned before any call, or the error of
the first group whose loop body failed. Each group visited before that one ran its whole body
and returned nil, with all its calls made; the failing group made the calls its body makes
before its error; and no group visited after it had any call. -/
theorem addHandlersToRouter_first_error (config : EventGroupProcessorConfig Event Subscriber)
    (generate : GenerateEventHandlerGroupTopicParams Event → Except GoError String)
    (construct : EventsGroupSubscriberConstructorParams Event → Except GoError Subscriber)
    (hgen : config.generateHandlerGroupSubscribeTopic = some generate)
    (hcon : config.groupSubscriberConstructor = some construct)
    (p₀ p : EventGroupProcessor Event Subscriber) (hnew : newEventGroupProcessorWithConfig config = .ok p₀)
    (calls : List (String × List (GroupEventHandler Event))) (hrun : p₀.addHandlersGroups calls = .ok p)
    (order : List String) (horder : order.Perm p.groupNames)
    (trace : List (RouterCall Event Subscriber)) (e : GoError)
    (h : p.addHandlersToRouter validateEvent addHandlerToRouter order = .ok (trace, some e)) :
    (p.groupNames = [] ∧ trace = [] ∧
      e = .new "EventProcessor has no handlers, did you call AddHandler?") ∨
    ∃ pre g post, order = pre ++ g :: post ∧
      (∀ g' ∈ pre, ∃ called, addGroupToRouter validateEvent addHandlerToRouter p g' =
          .ok (called, none) ∧ trace.filter (fun c => c.group = g') = called) ∧
      (∃ called, addGroupToRouter validateEvent addHandlerToRouter p g = .ok (called, some e) ∧
        trace.filter (fun c => c.group = g) = called) ∧
      ∀ g' ∈ post, trace.filter (fun c => c.group = g') = [] := by
  obtain ⟨hgen', hcon', hlog, hnodup⟩ :=
    addHandlersGroups_routerReady config hgen hcon hnew hrun horder
  by_cases hzero : p.groupNames = []
  · simp only [EventGroupProcessor.addHandlersToRouter, hzero, List.length_nil, if_true,
      Except.ok.injEq, Prod.mk.injEq, Option.some.injEq] at h
    exact .inl ⟨hzero, h.1.symm, h.2.symm⟩
  have hbody (g : String) := addGroupToRouter_group validateEvent addHandlerToRouter p g hgen' hcon' hlog
  simp only [EventGroupProcessor.addHandlersToRouter, List.length_eq_zero, hzero, if_false] at h
  obtain ⟨pre, g, post, preTrace, called, rfl, hpre, hg, rfl⟩ :=
    addGroupsToRouter_error validateEvent addHandlerToRouter p _
      (fun g _ => (hbody g).imp fun _ hr => hr.1) h
  obtain ⟨hndpre, hndpost, hdisj⟩ := List.nodup_append.mp hnodup
  have hgpre : g ∉ pre := fun hg' => hdisj hg' (.head _)
  obtain ⟨preTrace', err, hpre', hmem, -, hnone⟩ :=
    addGroupsToRouter_spec validateEvent addHandlerToRouter p pre hndpre fun g' _ => hbody g'
  rw [hpre, Except.ok.injEq, Prod.mk.injEq] at hpre'
  obtain ⟨rfl, rfl⟩ := hpre'
  have hown : ∀ g', called.filter (fun c => c.group = g') = if g = g' then called else [] := by
    obtain ⟨r, hr, hgroup⟩ := hbody g
    rw [hg, Except.ok.injEq] at hr
    subst hr
    exact filter_group_of_forall hgroup
  have hpreTrace (g' : String) (hg' : g' ∉ pre) : preTrace.filter (fun c => c.group = g') = [] :=
    List.filter_eq_nil_iff.mpr fun c hc hcg => hg' (of_decide_eq_true hcg ▸ hmem c hc)
  refine .inr ⟨pre, g, post, rfl, fun g' hg' => ?_, ⟨called, hg, by simp [hpreTrace g hgpre, hown]⟩,
    fun g' hg' => ?_⟩
  · obtain ⟨⟨called', err'⟩, hr, hr2, hf⟩ := hnone rfl g' hg'
    have hne : g ≠ g' := fun h => hgpre (h ▸ hg')
    simp only at hr2 hf
    subst hr2
    exact ⟨called', hr, by simpa [hown, hne] using hf⟩
  · have hne : g ≠ g' := fun h => (List.nodup_cons.mp hndpost).1 (h ▸ hg')
    have hg'pre : g' ∉ pre := fun hp => hdisj hp (.tail _ hg')
    simp [hpreTrace g' hg'pre, hown, hne]

end Router

def sampleValidateEvent (_event : Nat) : Option GoError := none

def sampleAddHandlerToRouter (_handlerName _topicName : String)
    (_handlerFunc : GroupHandlerFunc Nat Nat) (_subscriber : Nat) : Option GoError :=
  none

def sampleOrdersProcessor : EventGroupProcessor Nat Nat :=
  { sampleGroupProcessor with
    groupEventHandlers := some ((∅ : GroupMap Nat).insert "orders" [sampleGroupHandler]) }

def sampleOrdersTrace : List (RouterCall Nat Nat) :=
  [.generateTopic ⟨"orders", [sampleGroupHandler]⟩, .loggerWith "orders" "events-orders",
    .constructSubscriber ⟨"orders", [sampleGroupHandler]⟩,
    .addHandlerToRouter "orders" "events-orders"
      ⟨sampleGroupConfig.setDefaults, [sampleGroupHandler], "orders"⟩ 0]

theorem addHandlersToRouter_calls_orders :
    sampleGroupConfig.generateHandlerGroupSubscribeTopic = some sampleGenerateTopic ∧
    sampleGroupConfig.groupSubscriberConstructor = some sampleConstructSubscriber ∧
    newEventGroupProcessorWithConfig sampleGroupConfig = .ok sampleGroupProcessor ∧
    sampleGroupProcessor.addHandlersGroups [("orders", [sampleGroupHandler])] =
      .ok sampleOrdersProcessor ∧
    ["orders"].Perm sampleOrdersProcessor.groupNames ∧
    sampleOrdersProcessor.addHandlersToRouter sampleValidateEvent sampleAddHandlerToRouter
      ["orders"] = .ok (sampleOrdersTrace, none) ∧
    ∃ trace err, sampleOrdersProcessor.addHandlersToRouter sampleValidateEvent
        sampleAddHandlerToRouter ["orders"] = .ok (trace, err) ∧
      (sampleOrdersProcessor.groupNames = [] → trace = [] ∧ err.isSome) ∧
      (err = none → ∀ g ∈ sampleOrdersProcessor.groupNames, ∃ topic subscriber f,
        sampleGenerateTopic ⟨g, sampleOrdersProcessor.groupHandlers g⟩ = .ok topic ∧
        sampleConstructSubscriber ⟨g, sampleOrdersProcessor.groupHandlers g⟩ = .ok subscriber ∧
        sampleOrdersProcessor.routerHandlerGroupFunc (sampleOrdersProcessor.groupHandlers g) g =
          .ok f ∧
        trace.filter (fun c => c.group = g) =
          [.generateTopic ⟨g, sampleOrdersProcessor.groupHandlers g⟩, .loggerWith g topic,
            .constructSubscriber ⟨g, sampleOrdersProcessor.groupHandlers g⟩,
            .addHandlerToRouter g topic f subscriber]) ∧
      (err.isSome → ∀ g, ((trace.filter (fun c => c.group = g)).map RouterCall.kind).Nodup ∧
        (validateGroupEvents sampleValidateEvent g 0 (sampleOrdersProcessor.groupHandlers g) ≠
            none ∨ (∃ e, sampleGenerateTopic ⟨g, sampleOrdersProcessor.groupHandlers g⟩ = .error e) →
          RouterCallKind.constructSubscriber ∉
            (trace.filter (fun c => c.group = g)).map RouterCall.kind)) :=
  ⟨rfl, rfl, rfl, rfl, .refl _, rfl,
    addHandlersToRouter_calls sampleValidateEvent sampleAddHandlerToRouter sampleGroupConfig
      sampleGenerateTopic sampleConstructSubscriber rfl rfl sampleGroupProcessor
      sampleOrdersProcessor rfl [("orders", [sampleGroupHandler])] rfl _ (.refl _)⟩

def sampleOrdersTopic (params : GenerateEventHandlerGroupTopicParams Nat) : Except GoError String :=
  if params.eventGroupName = "orders" then .ok "events-orders"
  else .error (.new ("unknown group " ++ params.eventGroupName))

def sampleOrdersTopicConfig : EventGroupProcessorConfig Nat Nat :=
  { sampleGroupConfig with generateHandlerGroupSubscribeTopic := some sampleOrdersTopic }

def sampleTwoGroupsProcessor : EventGroupProcessor Nat Nat :=
  ⟨some (((∅ : GroupMap Nat).insert "orders" [sampleGroupHandler]).insert "payments"
    [sampleGroupHandler]), sampleOrdersTopicConfig.setDefaults⟩

def sampleFirstErrorTrace : List (RouterCall Nat Nat) :=
  [.generateTopic ⟨"orders", [sampleGroupHandler]⟩, .loggerWith "orders" "events-orders",
    .constructSubscriber ⟨"orders", [sampleGroupHandler]⟩,
    .addHandlerToRouter "orders" "events-orders"
      ⟨sampleOrdersTopicConfig.setDefaults, [sampleGroupHandler], "orders"⟩ 0,
    .generateTopic ⟨"payments", [sampleGroupHandler]⟩]

theorem addHandlersToRouter_first_error_payments :
    sampleOrdersTopicConfig.generateHandlerGroupSubscribeTopic = some sampleOrdersTopic ∧
    sampleOrdersTopicConfig.groupSubscriberConstructor = some sampleConstructSubscriber ∧
    newEventGroupProcessorWithConfig sampleOrdersTopicConfig =
      .ok ⟨some ∅, sampleOrdersTopicConfig.setDefaults⟩ ∧
    EventGroupProcessor.addHandlersGroups ⟨some ∅, sampleOrdersTopicConfig.setDefaults⟩
      [("orders", [sampleGroupHandler]), ("payments", [sampleGroupHandler])] =
        .ok sampleTwoGroupsProcessor ∧
    ["orders", "payments"].Perm sampleTwoGroupsProcessor.groupNames ∧
    sampleTwoGroupsProcessor.addHandlersToRouter sampleValidateEvent sampleAddHandlerToRouter
        ["orders", "payments"] =
      .ok (sampleFirstErrorTrace,
        some (.wrap (.new "unknown group payments")
          "cannot generate topic name for handler group payments")) ∧
    ((sampleTwoGroupsProcessor.groupNames = [] ∧ sampleFirstErrorTrace = [] ∧
      GoError.wrap (.new "unknown group payments")
          "cannot generate topic name for handler group payments" =
        .new "EventProcessor has no handlers, did you call AddHandler?") ∨
    ∃ pre g post, ["orders", "payments"] = pre ++ g :: post ∧
      (∀ g' ∈ pre, ∃ called, addGroupToRouter sampleValidateEvent sampleAddHandlerToRouter
          sampleTwoGroupsProcessor g' = .ok (called, none) ∧
        sampleFirstErrorTrace.filter (fun c => c.group = g') = called) ∧
      (∃ called, addGroupToRouter sampleValidateEvent sampleAddHandlerToRouter
          sampleTwoGroupsProcessor g =
            .ok (called, some (.wrap (.new "unknown group payments")
              "cannot generate topic name for handler group payments")) ∧
        sampleFirstErrorTrace.filter (fun c => c.group = g) = called) ∧
      ∀ g' ∈ post, sampleFirstErrorTrace.filter (fun c => c.group = g') = []) :=
  ⟨rfl, rfl, rfl, rfl, .swap _ _ _, rfl,
    addHandlersToRouter_first_error sampleValidateEvent sampleAddHandlerToRouter
      sampleOrdersTopicConfig sampleOrdersTopic sampleConstructSubscriber rfl rfl
      ⟨some ∅, sampleOrdersTopicConfig.setDefaults⟩ sampleTwoGroupsProcessor rfl
      [("orders", [sampleGroupHandler]), ("payments", [sampleGroupHandler])] rfl
      ["orders", "payments"] (.swap _ _ _) _ _ rfl⟩

end Watermill.Cqrs
