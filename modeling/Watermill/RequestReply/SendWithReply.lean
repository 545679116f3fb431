import Watermill.Message

/-!
# `SendWithReply`

`SendWithReply` of the `requestreply` package derives a cancellable context, asks the backend
to listen for the notifications of a fresh operation ID, then sends the command through the bus
with a hook that stamps the operation ID on the command message. Its deferred function cancels
the derived context whenever the named result `err` is set.

A context is the list of cancellation scopes it lies under (`Context`): `context.WithCancel`
adds a fresh scope, and the context is done once any of its scopes is cancelled
(`Context.done_withCancel`). `sendWithReply` returns the calls it made, to the backend, to the
bus and to the derived context's cancel function, with its three results.
`sendWithReply_calls` is its contract for every backend and bus behaviour.

`OperationIDMetadataKey` is a constant of the package that is not part of the modelled source:
it is a parameter. The operation ID, `watermill.NewUUID()`, and the fresh scope are inputs.
-/

set_option autoImplicit false
set_option relaxedAutoImplicit false

namespace Watermill.RequestReply

/-- A context: the cancellation scopes it lies under, innermost first. -/
structure Context where
  scopes : List Nat
  deriving DecidableEq, Repr

/-- `context.WithCancel(parent)`, whose cancel function cancels the fresh scope `scope`. -/
def Context.withCancel (parent : Context) (scope : Nat) : Context := ⟨scope :: parent.scopes⟩

/-- `ctx.Done()` is closed once one of the context's scopes is among the cancelled ones. -/
def Context.done (ctx : Context) (cancelled : List Nat) : Bool :=
  ctx.scopes.any (· ∈ cancelled)

/-- A derived context ends when its own cancel function is called or its parent ends. -/
theorem Context.done_withCancel (parent : Context) (scope : Nat) (cancelled : List Nat) :
    (parent.withCancel scope).done cancelled ↔ scope ∈ cancelled ∨ parent.done cancelled := by
  simp [Context.withCancel, Context.done]

/-- `BackendListenForNotificationsParams`. -/
structure BackendListenForNotificationsParams (Command : Type) where
  command : Command
  operationID : String

/-- A call `SendWithReply` makes: `backend.ListenForNotifications(ctx, params)`,
`c.SendWithModifiedMessage(ctx, cmd, modify)`, or the cancel function of the derived context. -/
inductive SendWithReplyCall (Command : Type) where
  | listenForNotifications (ctx : Context) (params : BackendListenForNotificationsParams Command)
  | sendWithModifiedMessage (ctx : Context) (cmd : Command)
      (modify : Message → Except GoError Message)
  | cancel (scope : Nat)

/-- Whether a call is the one to the backend. -/
def SendWithReplyCall.isListen {Command : Type} : SendWithReplyCall Command → Bool
  | .listenForNotifications _ _ => true
  | _ => false

/-- Whether a call is the one to the bus. -/
def SendWithReplyCall.isSend {Command : Type} : SendWithReplyCall Command → Bool
  | .sendWithModifiedMessage _ _ _ => true
  | _ => false

/-- Whether a call cancels a context. -/
def SendWithReplyCall.isCancel {Command : Type} : SendWithReplyCall Command → Bool
  | .cancel _ => true
  | _ => false

/-- What `SendWithReply` did and returned: `replCh`, the scope its `cancel` cancels, `err`. -/
structure SendWithReplyResult (Command Chan : Type) where
  calls : List (SendWithReplyCall Command)
  replCh : Option Chan
  cancel : Nat
  err : Option GoError

/-- The hook `SendWithReply` gives the bus: it sets `OperationIDMetadataKey`. -/
def setOperationID (operationIDMetadataKey operationID : String) (m : Message) :
    Except GoError Message :=
  .ok (m.setMetadata operationIDMetadataKey operationID)

variable {Command Chan : Type} (operationIDMetadataKey : String)
  (listenForNotifications :
    Context → BackendListenForNotificationsParams Command → Except GoError Chan)
  (sendWithModifiedMessage : Context → Command → (Message → Except GoError Message) → Option GoError)

/-- The body of `SendWithReply`, up to its `return`: the calls and the named results. -/
def sendWithReplyBody (ctx : Context) (operationID : String) (cmd : Command) :
    List (SendWithReplyCall Command) × Option Chan × Option GoError :=
  let params : BackendListenForNotificationsParams Command := ⟨cmd, operationID⟩
  match listenForNotifications ctx params with
  | .error err => ([.listenForNotifications ctx params], none,
      some (.wrap err "cannot listen for reply"))
  | .ok replyChan =>
    let modify := setOperationID operationIDMetadataKey operationID
    match sendWithModifiedMessage ctx cmd modify with
    | some err => ([.listenForNotifications ctx params, .sendWithModifiedMessage ctx cmd modify],
        none, some (.wrap err "cannot send command"))
    | none => ([.listenForNotifications ctx params, .sendWithModifiedMessage ctx cmd modify],
        some replyChan, none)

/-- `SendWithReply` with the parent context `parent`, the fresh scope `scope` of
`context.WithCancel` and the operation ID `operationID`; the deferred function cancels the
derived context when the returned `err` is set. -/
def sendWithReply (parent : Context) (scope : Nat) (operationID : String) (cmd : Command) :
    SendWithReplyResult Command Chan :=
  let ctx := parent.withCancel scope
  let (calls, replCh, err) :=
    sendWithReplyBody operationIDMetadataKey listenForNotifications sendWithModifiedMessage ctx
      operationID cmd
  { calls := if err.isSome then calls ++ [.cancel scope] else calls, replCh, cancel := scope, err }

/-- The contract of `SendWithReply`, for every backend and bus. The backend is called once,
first, with the derived context and the operation ID. The bus is called at most once, only
after the backend returned without error, with the same context and command, and a hook that
sets `OperationIDMetadataKey` to that operation ID on every message it is applied to. The error
is set exactly when one of the two calls failed; then `replCh` is nil and the last call cancels
the derived context, which is then done. Otherwise `replCh` is the backend's channel, nothing
was cancelled, and the derived context is done exactly when the returned `cancel` has been
called or the parent has ended. -/
theorem sendWithReply_calls (parent : Context) (scope : Nat) (operationID : String) (cmd : Command) :
    let r := sendWithReply operationIDMetadataKey listenForNotifications sendWithModifiedMessage
      parent scope operationID cmd
    let ctx := parent.withCancel scope
    r.calls.head? = some (.listenForNotifications ctx ⟨cmd, operationID⟩) ∧
    (r.calls.filter SendWithReplyCall.isListen).length = 1 ∧
    (r.calls.filter SendWithReplyCall.isSend).length ≤ 1 ∧
    (∀ ctx' cmd' modify, .sendWithModifiedMessage ctx' cmd' modify ∈ r.calls →
      (∃ ch, listenForNotifications ctx ⟨cmd, operationID⟩ = .ok ch) ∧ ctx' = ctx ∧ cmd' = cmd ∧
      ∀ m m', modify m = .ok m' → m'.metadata.get operationIDMetadataKey = operationID) ∧
    (r.err.isSome ↔ (∃ e, listenForNotifications ctx ⟨cmd, operationID⟩ = .error e) ∨
      ∃ ch, listenForNotifications ctx ⟨cmd, operationID⟩ = .ok ch ∧
        (sendWithModifiedMessage ctx cmd (setOperationID operationIDMetadataKey operationID)).isSome) ∧
    (r.err.isSome → r.replCh = none ∧ r.calls.getLast? = some (.cancel scope) ∧
      ∀ cancelled, scope ∈ cancelled → ctx.done cancelled) ∧
    (r.err = none → ∃ ch, listenForNotifications ctx ⟨cmd, operationID⟩ = .ok ch ∧
      r.replCh = some ch ∧ r.cancel = scope ∧ (∀ c ∈ r.calls, c.isCancel = false) ∧
      ∀ cancelled, ctx.done cancelled ↔ scope ∈ cancelled ∨ parent.done cancelled) := by
  intro r ctx
  have hset (m m' : Message) (h : setOperationID operationIDMetadataKey operationID m = .ok m') :
      m'.metadata.get operationIDMetadataKey = operationID := by
    cases h
    simp
  simp only [r, sendWithReply, sendWithReplyBody]
  cases hl : listenForNotifications ctx ⟨cmd, operationID⟩ with
  | error e =>
    simp [SendWithReplyCall.isListen, SendWithReplyCall.isSend, ctx, Context.done_withCancel]
    exact fun _ h => .inl h
  | ok ch =>
    cases hs : sendWithModifiedMessage ctx cmd (setOperationID operationIDMetadataKey operationID) with
    | some e =>
      simp [SendWithReplyCall.isListen, SendWithReplyCall.isSend, ctx, Context.done_withCancel]
      exact ⟨by rintro _ _ _ rfl rfl rfl; exact ⟨rfl, rfl, hset⟩, fun _ h => .inl h⟩
    | none =>
      simp [SendWithReplyCall.isListen, SendWithReplyCall.isSend, SendWithReplyCall.isCancel, ctx,
        Context.done_withCancel]
      rintro _ _ _ rfl rfl rfl
      exact ⟨rfl, rfl, hset⟩

end Watermill.RequestReply
