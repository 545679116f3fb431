import Mathlib.Data.List.Basic

/-!
# Messages, metadata and Go errors

The values every component passes around. `Message` is `message.Message` with the three fields
the modelled code reads: its UUID, its string metadata and its payload. `Metadata` is Go's
`map[string]string` behind `Metadata.Get`/`Metadata.Set`: `get` answers `""` for a missing key
(`Metadata.get_set_self`, `Metadata.get_set_of_ne`).

`GoError` is an `error` value as the code builds it: `errors.New`, `errors.Wrap` (and
`fmt.Errorf` with `%w`, which renders the same way), and `stdErrors.Join`. `GoError.error` is
`Error()`.

Not modelled: a message's context (`SetContext`, `Context()`), which no modelled branch reads,
and `Ack` as a method; the components that ack record it in their own state.
-/

set_option autoImplicit false
set_option relaxedAutoImplicit false

namespace Watermill

/-- A Go `error` as built by the modelled code: `errors.New(text)` (or `fmt.Errorf` without
`%w`), `errors.Wrap(cause, text)` (or `fmt.Errorf` with `": %w"`), and `stdErrors.Join` of a nil
and a non-nil error or of two non-nil ones. -/
inductive GoError where
  | new (text : String)
  | wrap (cause : GoError) (text : String)
  | joinOne (err : GoError)
  | join (prev next : GoError)
  deriving DecidableEq, Repr

/-- `Error()`. -/
def GoError.error : GoError → String
  | .new text => text
  | .wrap cause text => text ++ ": " ++ cause.error
  | .joinOne err => err.error
  | .join prev next => prev.error ++ "\n" ++ next.error

@[simp] theorem GoError.error_new (text : String) : (GoError.new text).error = text := rfl

/-- `stdErrors.Join(err, next)` where `err` may be nil. -/
def GoError.joinTo : Option GoError → GoError → GoError
  | none, next => .joinOne next
  | some prev, next => .join prev next

/-- `message.Metadata`, a string map. -/
structure Metadata where
  entries : List (String × String)
  deriving DecidableEq, Repr

/-- The value under `key` in a list of entries, the first one wins. -/
def Metadata.lookup (key : String) : List (String × String) → String
  | [] => ""
  | (k, v) :: rest => if k = key then v else lookup key rest

/-- `Metadata.Get(key)`: `""` when the key is absent. -/
def Metadata.get (md : Metadata) (key : String) : String := Metadata.lookup key md.entries

/-- `Metadata.Set(key, value)`: the key's previous value is replaced. -/
def Metadata.set (md : Metadata) (key value : String) : Metadata :=
  ⟨(key, value) :: md.entries.filter (fun e => !decide (e.1 = key))⟩

/-- The empty map. -/
def Metadata.empty : Metadata := ⟨[]⟩

@[simp] theorem Metadata.get_set_self (md : Metadata) (key value : String) :
    (md.set key value).get key = value := by
  simp [Metadata.get, Metadata.set, Metadata.lookup]

theorem Metadata.lookup_filter_of_ne {key other : String} (h : other ≠ key)
    (entries : List (String × String)) :
    lookup other (entries.filter (fun e => !decide (e.1 = key))) = lookup other entries := by
  induction entries with
  | nil => rfl
  | cons e rest ih =>
    by_cases hk : e.1 = key
    · simp [List.filter_cons, hk, ih, lookup, Ne.symm h]
    · simp [List.filter_cons, hk, ih, lookup]

@[simp] theorem Metadata.get_set_of_ne (md : Metadata) {key other : String} (value : String)
    (h : other ≠ key) : (md.set key value).get other = md.get other := by
  simp [Metadata.get, Metadata.set, Metadata.lookup, Ne.symm h, Metadata.lookup_filter_of_ne h]

/-- `message.Message`: UUID, metadata and payload. -/
structure Message where
  uuid : String
  metadata : Metadata
  payload : List UInt8
  deriving DecidableEq, Repr

/-- `msg.Metadata.Set(key, value)` on a message. -/
def Message.setMetadata (msg : Message) (key value : String) : Message :=
  { msg with metadata := msg.metadata.set key value }

@[simp] theorem Message.setMetadata_uuid (msg : Message) (key value : String) :
    (msg.setMetadata key value).uuid = msg.uuid := rfl

@[simp] theorem Message.setMetadata_payload (msg : Message) (key value : String) :
    (msg.setMetadata key value).payload = msg.payload := rfl

@[simp] theorem Message.setMetadata_metadata (msg : Message) (key value : String) :
    (msg.setMetadata key value).metadata = msg.metadata.set key value := rfl

/-- `watermill.LoggerAdapter`, as an opaque value: the modelled code only passes loggers on. -/
structure LoggerAdapter where
  name : String
  deriving DecidableEq, Repr

/-- `watermill.NopLogger{}`. -/
def nopLogger : LoggerAdapter := ⟨"NopLogger"⟩

end Watermill
