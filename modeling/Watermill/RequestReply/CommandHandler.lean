import Watermill.Message

/-!
# Command handlers that report to the request/reply backend

`NewCommandHandler` and `NewCommandHandlerWithResult` of the `requestreply` package wrap a
handling function into a `cqrs.CommandHandler` whose `Handle` runs the function, finds the
original command message in the context (`originalCommandMsgFromCtx`) and hands the outcome to
the backend's `OnCommandProcessed`, whose error is the handler's. Both bodies are one function,
`handleAndNotify`, of the handling function's result and error; `NewCommandHandler` gives it the
zero value of `struct{}` as the result.

The handling function runs first, whatever the context holds; with the original message in the
context the backend is called with the command, that message, the result and the handler's
error, nil or not, and its answer is the handler's error, so the handler's own error reaches the
caller only through the backend; without it the backend is never called.

`cqrs.NewCommandHandler` and `cqrs.OriginalMessageFromCtx` are not part of the modelled source:
a handler is its name and its `Handle`, and a context is the original message stored in it, if
any.
-/

set_option autoImplicit false
set_option relaxedAutoImplicit false

namespace Watermill.RequestReply

/-- The context a command handler runs in, through what `cqrs.OriginalMessageFromCtx` reads. -/
structure HandlerContext where
  originalMessage : Option Message

/-- `BackendOnCommandProcessedParams`. -/
structure BackendOnCommandProcessedParams (Command Result : Type) where
  command : Command
  commandMessage : Message
  handlerResult : Result
  handleErr : Option GoError

/-- A call the handler makes: `handleFunc(ctx, cmd)` or
`backend.OnCommandProcessed(ctx, params)`. -/
inductive CommandHandlerCall (Command Result : Type) where
  | handleFunc (ctx : HandlerContext) (cmd : Command)
  | onCommandProcessed (ctx : HandlerContext) (params : BackendOnCommandProcessedParams Command Result)

/-- `cqrs.CommandHandler` as `cqrs.NewCommandHandler` builds it: the name and `Handle`, with the
calls `Handle` made. -/
structure CommandHandler (Command Result : Type) where
  handlerName : String
  handle : HandlerContext → Command → List (CommandHandlerCall Command Result) × Option GoError

/-- The error of `originalCommandMsgFromCtx` when the context holds no original message. -/
def originalMessageNotFound : GoError :=
  .new ("original message not found in context, did you passed context correctly everywhere? " ++
    "did you used cqrs.CommandProcessor? " ++
    "if you are using custom implementation, please call cqrs.CtxWithOriginalMessage on context passed to handler")

/-- `originalCommandMsgFromCtx`. -/
def originalCommandMsgFromCtx (ctx : HandlerContext) : Except GoError Message :=
  match ctx.originalMessage with
  | none => .error originalMessageNotFound
  | some originalMessage => .ok originalMessage

variable {Command Result : Type}
  (onCommandProcessed :
    HandlerContext → BackendOnCommandProcessedParams Command Result → Option GoError)

/-- The function both constructors pass to `cqrs.NewCommandHandler`, for a handling function
with a result. -/
def handleAndNotify (handleFunc : HandlerContext → Command → Result × Option GoError)
    (ctx : HandlerContext) (cmd : Command) :
    List (CommandHandlerCall Command Result) × Option GoError :=
  let (resp, handlerErr) := handleFunc ctx cmd
  match originalCommandMsgFromCtx ctx with
  | .error err => ([.handleFunc ctx cmd], some err)
  | .ok originalMessage =>
    let params : BackendOnCommandProcessedParams Command Result :=
      ⟨cmd, originalMessage, resp, handlerErr⟩
    ([.handleFunc ctx cmd, .onCommandProcessed ctx params], onCommandProcessed ctx params)

/-- `NewCommandHandlerWithResult`. -/
def newCommandHandlerWithResult (handlerName : String)
    (handleFunc : HandlerContext → Command → Result × Option GoError) :
    CommandHandler Command Result :=
  ⟨handlerName, handleAndNotify onCommandProcessed handleFunc⟩

/-- `NewCommandHandler`: the backend's result type is `struct{}`, whose zero value it passes. -/
def newCommandHandler
    (onCommandProcessed :
      HandlerContext → BackendOnCommandProcessedParams Command Unit → Option GoError)
    (handlerName : String) (handleFunc : HandlerContext → Command → Option GoError) :
    CommandHandler Command Unit :=
  ⟨handlerName, handleAndNotify onCommandProcessed fun ctx cmd => ((), handleFunc ctx cmd)⟩

end Watermill.RequestReply
