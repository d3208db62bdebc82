import Mathlib.Data.List.Basic

/-!
# ZeroStor.Basic

The Go values the gRPC datastor client (`client/datastor/grpc/client.go`)
passes around: errors, contexts and outgoing metadata, and the client's two
error conversions.

* `toErr` translates a transport error through `rpctypes.Error` and maps the
  four expected `ZStorError`s onto the `datastor` sentinels.
* `toContextErr` is `toErr` followed by a switch on the gRPC code, written to
  surface a cancelled call as the caller's own context error.

`rpctypes.Error` lives in `server/api/grpc/rpctypes`, outside the client
package, so it is the parameter `rpcError`. Like the Go function it may return
nil. The switch of `toContextErr` is reached only for the errors it turns into
nil, so a cancelled call whose status `rpctypes.Error` keeps comes back as that
raw status (`toContextErr_canceled_returns_raw_status`).
-/

namespace ZeroStor

/-- A Go byte slice. -/
abbrev Bytes := List UInt8

/-- gRPC status codes (`google.golang.org/grpc/codes`). -/
inductive Code
  | ok | canceled | unknown | invalidArgument | deadlineExceeded | notFound
  | alreadyExists | permissionDenied | resourceExhausted | failedPrecondition
  | aborted | outOfRange | unimplemented | internal | unavailable | dataLoss
  | unauthenticated
  deriving DecidableEq, Repr

/-- Values of type `rpctypes.ZStorError`: the four the client maps, and any other. -/
inductive ZStorError
  | keyNotFound | objectDataCorrupted | objectRefListCorrupted | permissionDenied
  | other (desc : String)
  deriving DecidableEq, Repr

/-- The sentinel errors of the `datastor` package that the client returns. -/
inductive DatastorError
  | keyNotFound | objectDataCorrupted | objectRefListCorrupted | permissionDenied
  | missingData | missingRefList | invalidLabel | objectCorrupted | invalidStatus
  | missingKey
  deriving DecidableEq, Repr

/-- A non-nil Go `error`, as far as the client tells errors apart. A Go `error`
that may be nil is an `Option GoError`. -/
inductive GoError
  /-- `io.EOF` -/
  | eof
  /-- `context.Canceled` -/
  | canceled
  /-- `context.DeadlineExceeded` -/
  | deadlineExceeded
  /-- `grpc.ErrClientConnClosing` -/
  | clientConnClosing
  /-- an error of the rpc system, with its status code and description -/
  | status (code : Code) (desc : String)
  | zstor (e : ZStorError)
  | datastor (e : DatastorError)
  /-- `errors.New` and `fmt.Errorf`, by their text -/
  | new (text : String)
  deriving DecidableEq, Repr

/-- `grpc.Code` of a non-nil error: the status code of an rpc error, `Unknown`
for any other error. -/
def grpcCode : GoError → Code
  | .status c _ => c
  | _ => .unknown

/-- The two outgoing metadata keys, `rpctypes.MetaAuthKey` for the bearer token
and `rpctypes.MetaLabelKey` for the namespace label; they are two keys, each
with values of its own. -/
inductive MetaKey
  | auth | label
  deriving DecidableEq, Repr

/-- `metadata.MD`, as the key/value pairs `metadata.Pairs` was given. -/
abbrev Metadata := List (MetaKey × String)

/-- `md[k]`: the values stored under `k`, in the order they were given. -/
def Metadata.get (md : Metadata) (k : MetaKey) : List String :=
  md.filterMap fun p => if p.1 = k then some p.2 else none

/-- What the client reads of a `context.Context`: `Err()`, and the metadata
`metadata.NewOutgoingContext` attached for the next RPC. -/
structure Context where
  err : Option GoError := none
  outgoing : Metadata := []
  deriving DecidableEq, Repr

/-- `context.Background()`. -/
def Context.background : Context := {}

/-! ## Error conversions -/

/-- `expectedErrorMapping`: the `ZStorError`s the client replaces by a
`datastor` sentinel. -/
def expectedErrorMapping : ZStorError → Option DatastorError
  | .keyNotFound => some .keyNotFound
  | .objectDataCorrupted => some .objectDataCorrupted
  | .objectRefListCorrupted => some .objectRefListCorrupted
  | .permissionDenied => some .permissionDenied
  | .other _ => none

section Conversions

variable (rpcError : GoError → Option GoError)

/-- `toErr`: `rpctypes.Error`, then the expected `ZStorError`s onto their
`datastor` sentinels; every other result as it is, nil included. -/
def toErr (err : GoError) : Option GoError :=
  match rpcError err with
  | some (.zstor e) =>
    match expectedErrorMapping e with
    | some d => some (.datastor d)
    | none => some (.zstor e)
  | r => r

/-- `toContextErr`: return `toErr err` when it is non-nil; otherwise switch on
the gRPC code of `err`, trading a cancelled or timed-out call for `ctx.Err()`
and a failed precondition for `grpc.ErrClientConnClosing`. -/
def toContextErr (ctx : Context) (err : GoError) : Option GoError :=
  match toErr rpcError err with
  | some e => some e
  | none =>
    match grpcCode err with
    | .deadlineExceeded | .canceled => some (ctx.err.getD err)
    | .failedPrecondition => some .clientConnClosing
    | _ => some err

/-- `toContextErr` never returns nil. -/
theorem toContextErr_isSome (ctx : Context) (err : GoError) :
    (toContextErr rpcError ctx err).isSome := by
  unfold toContextErr
  split
  · rfl
  · split <;> rfl

end Conversions

/-- A call its caller cancelled, with `rpctypes.Error` leaving the untranslated
error as it is: `toContextErr` returns the raw gRPC `Canceled` status, not the
context's `context.Canceled`, because `toErr` is non-nil and returns first. -/
theorem toContextErr_canceled_returns_raw_status :
    toContextErr some ⟨some .canceled, []⟩ (.status .canceled "context canceled") =
      some (.status .canceled "context canceled") := rfl

end ZeroStor
