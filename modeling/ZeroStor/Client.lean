import ZeroStor.KeyIterator.Machine

/-!
# ZeroStor.Client

The gRPC datastor `Client` of `client/datastor/grpc/client.go`: `NewClient`,
the context constructor every call goes through, and the thirteen operations
that issue an RPC.

A call runs in `ClientM`: it reads the server's answers and returns, beside its
result, the calls it made outside the process, in order: each fetch from the
`JWTTokenGetter`, and each RPC with the outgoing metadata it carried.

`ListObjectKeyIterator` hands over the goroutines of `KeyIterator` in their
initial state (`KeyIterator.started`), so what `KeyIterator.Listing` and
`KeyIterator.Cancel` prove of every run applies to the channel it returns.
-/

namespace ZeroStor

/-! ## Values -/

/-- `datastor.Object`. -/
structure Object where
  key : Bytes
  data : Bytes
  referenceList : List String
  deriving DecidableEq, Repr

/-- `datastor.Namespace`. -/
structure Namespace where
  label : String
  readRequestPerHour : Int
  writeRequestPerHour : Int
  nrObjects : Int
  deriving DecidableEq, Repr

/-- `datastor.ObjectStatus`; its zero value `ObjectStatus(0)`, which the client
returns beside an error, is the first of them, `missing`. -/
inductive ObjectStatus
  | missing | ok | corrupted
  deriving DecidableEq, Repr

/-- `pb.ObjectStatus` as it comes off the wire: the three values of the schema,
or any other number. -/
inductive PbObjectStatus
  | ok | missing | corrupted
  | unknown (n : Int)
  deriving DecidableEq, Repr

/-- `convertStatus`, through `_ProtoObjectStatusMapping`; a value outside it is
`ErrInvalidStatus`. -/
def convertStatus : PbObjectStatus → ObjectStatus × Option GoError
  | .ok => (.ok, none)
  | .missing => (.missing, none)
  | .corrupted => (.corrupted, none)
  | .unknown _ => (.missing, some (.datastor .invalidStatus))

/-- The RPCs of the `ObjectManager` and `NamespaceManager` services, with the
fields of their requests. -/
inductive Request
  | setObject (key data : Bytes) (referenceList : List String)
  | getObject (key : Bytes)
  | deleteObject (key : Bytes)
  | getObjectStatus (key : Bytes)
  | getNamespace
  | listObjectKeys
  | setReferenceList (key : Bytes) (referenceList : List String)
  | getReferenceList (key : Bytes)
  | getReferenceCount (key : Bytes)
  | appendToReferenceList (key : Bytes) (referenceList : List String)
  | deleteFromReferenceList (key : Bytes) (referenceList : List String)
  | deleteReferenceList (key : Bytes)
  deriving DecidableEq, Repr

/-- The fields of the replies the client reads, with the zero values of their
getters; `keys` is what the `ListObjectKeys` stream delivers. -/
structure Response where
  data : Bytes := []
  referenceList : List String := []
  status : PbObjectStatus := .ok
  count : Int := 0
  label : String := ""
  readRequestPerHour : Int := 0
  writeRequestPerHour : Int := 0
  nrObjects : Int := 0
  keys : KeyStream := ⟨[], .eof⟩

/-- The zstordb server behind the connection: its answer to each RPC, given the
context the call was issued with. -/
structure Server where
  reply : Context → Request → Except GoError Response

/-- A call the client makes outside the process. -/
inductive Call
  /-- `jwtTokenGetter.GetJWTToken(namespace)` -/
  | getJWTToken (ns : String)
  /-- an RPC, with the outgoing metadata of its context -/
  | rpc (md : Metadata) (req : Request)
  deriving DecidableEq, Repr

/-! ## The client's monad -/

/-- A computation of the client against a server: its result, and the calls it
made, in order. -/
def ClientM (α : Type) : Type := Server → α × List Call

namespace ClientM

instance : Monad ClientM where
  pure a := fun _ => (a, [])
  map f x := fun srv => (f (x srv).1, (x srv).2)
  bind x f := fun srv => ((f (x srv).1 srv).1, (x srv).2 ++ (f (x srv).1 srv).2)

@[simp] theorem run_pure {α : Type} (a : α) (srv : Server) : (pure a : ClientM α) srv = (a, []) :=
  rfl

@[simp] theorem run_map {α β : Type} (f : α → β) (x : ClientM α) (srv : Server) :
    (f <$> x) srv = (f (x srv).1, (x srv).2) := rfl

@[simp] theorem run_bind {α β : Type} (x : ClientM α) (f : α → ClientM β) (srv : Server) :
    (x >>= f) srv = ((f (x srv).1 srv).1, (x srv).2 ++ (f (x srv).1 srv).2) := rfl

end ClientM

/-- `datastor.JWTTokenGetter`: where a client with authentication gets the label
of its namespace, and a token for each call. -/
structure JWTTokenGetter where
  getJWTToken : String → Except GoError String
  getLabel : String → Except GoError String

/-- Ask the getter for a token. -/
def JWTTokenGetter.fetch (getter : JWTTokenGetter) (ns : String) : ClientM (Except GoError String) :=
  fun _ => (getter.getJWTToken ns, [.getJWTToken ns])

/-- An RPC on the connection, issued with `ctx`. -/
def invoke (ctx : Context) (req : Request) : ClientM (Except GoError Response) :=
  fun srv => (srv.reply ctx req, [.rpc ctx.outgoing req])

/-! ## `NewClient` -/

/-- `Client.contextConstructor`: the closure `defaultContextConstructor(namespace)`
returns, or the one `NewClient` builds around a token getter and the label it
got for the namespace. -/
inductive ContextConstructor
  | default (ns : String)
  | jwt (getter : JWTTokenGetter) (ns label : String)

/-- Call the context constructor with `ctx`, `none` for a nil context: fetch a
token when there is a getter, and return `ctx`, or `context.Background()`, with
the outgoing metadata `metadata.Pairs` builds. -/
def ContextConstructor.call : ContextConstructor → Option Context → ClientM (Except GoError Context)
  | .default ns, ctx => pure (.ok { ctx.getD .background with outgoing := [(.label, ns)] })
  | .jwt getter ns label, ctx =>
    getter.fetch ns >>= fun
      | .error err => pure (.error err)
      | .ok jwtToken =>
        pure (.ok { ctx.getD .background with outgoing := [(.auth, jwtToken), (.label, label)] })

/-- The label the constructor attaches to every call. -/
def ContextConstructor.label : ContextConstructor → String
  | .default ns => ns
  | .jwt _ _ label => label

/-- `grpc.Client`: the address its connection was dialled with, its context
constructor and the label of its namespace. -/
structure Client where
  addr : String
  contextConstructor : ContextConstructor
  label : String

/-- What every operation that issues an RPC does: call the context constructor
with `ctx`, give its error to `onErr` if it fails, and otherwise issue `req` with
the context it built and give that context and the outcome to `onReply`. -/
def Client.withRPC {α : Type} (c : Client) (ctx : Option Context) (req : Request)
    (onErr : GoError → α) (onReply : Context → Except GoError Response → α) : ClientM α :=
  c.contextConstructor.call ctx >>= fun
    | .error err => pure (onErr err)
    | .ok rctx => onReply rctx <$> invoke rctx req

section Operations

variable (rpcError : GoError → Option GoError) (c : Client)

/-- The outcome of a unary RPC: `toErr` of its error, handed to `fail`, or what
`k` makes of the reply. -/
def unaryReply {α : Type} (fail : Option GoError → α) (k : Response → α) :
    Except GoError Response → α
  | .error err => fail (toErr rpcError err)
  | .ok resp => k resp

/-- A unary call with a nil context, as every operation but
`ListObjectKeyIterator` makes it: both errors go to `fail`. -/
def Client.unary {α : Type} (req : Request) (fail : Option GoError → α) (k : Response → α) :
    ClientM α :=
  c.withRPC none req (fail ∘ some) fun _ => unaryReply rpcError fail k

/-- `SetObject`. -/
def Client.setObject (object : Object) : ClientM (Option GoError) :=
  c.unary rpcError (.setObject object.key object.data object.referenceList) id fun _ => none

/-- `GetObject`: an object without data is `ErrMissingData`. -/
def Client.getObject (key : Bytes) : ClientM (Option Object × Option GoError) :=
  c.unary rpcError (.getObject key) (none, ·) fun resp =>
    if resp.data.isEmpty then (none, some (.datastor .missingData))
    else (some ⟨key, resp.data, resp.referenceList⟩, none)

/-- `DeleteObject`. -/
def Client.deleteObject (key : Bytes) : ClientM (Option GoError) :=
  c.unary rpcError (.deleteObject key) id fun _ => none

/-- `GetObjectStatus`. -/
def Client.getObjectStatus (key : Bytes) : ClientM (ObjectStatus × Option GoError) :=
  c.unary rpcError (.getObjectStatus key) (.missing, ·) fun resp => convertStatus resp.status

/-- `GetNamespace`: a reply for another label is `ErrInvalidLabel`. -/
def Client.getNamespace : ClientM (Option Namespace × Option GoError) :=
  c.unary rpcError .getNamespace (none, ·) fun resp =>
    if resp.label ≠ c.label then (none, some (.datastor .invalidLabel))
    else (some ⟨resp.label, resp.readRequestPerHour, resp.writeRequestPerHour, resp.nrObjects⟩,
      none)

/-- `SetReferenceList`. -/
def Client.setReferenceList (key : Bytes) (refList : List String) : ClientM (Option GoError) :=
  c.unary rpcError (.setReferenceList key refList) id fun _ => none

/-- `GetReferenceList`: an empty list is `ErrMissingRefList`. -/
def Client.getReferenceList (key : Bytes) : ClientM (List String × Option GoError) :=
  c.unary rpcError (.getReferenceList key) ([], ·) fun resp =>
    if resp.referenceList.isEmpty then ([], some (.datastor .missingRefList))
    else (resp.referenceList, none)

/-- `GetReferenceCount`. -/
def Client.getReferenceCount (key : Bytes) : ClientM (Int × Option GoError) :=
  c.unary rpcError (.getReferenceCount key) (0, ·) fun resp => (resp.count, none)

/-- `AppendToReferenceList`. -/
def Client.appendToReferenceList (key : Bytes) (refList : List String) : ClientM (Option GoError) :=
  c.unary rpcError (.appendToReferenceList key refList) id fun _ => none

/-- `DeleteFromReferenceList`. -/
def Client.deleteFromReferenceList (key : Bytes) (refList : List String) :
    ClientM (Int × Option GoError) :=
  c.unary rpcError (.deleteFromReferenceList key refList) (0, ·) fun resp => (resp.count, none)

/-- `DeleteReferenceList`. -/
def Client.deleteReferenceList (key : Bytes) : ClientM (Option GoError) :=
  c.unary rpcError (.deleteReferenceList key) id fun _ => none

end Operations

namespace KeyIterator

/-- The goroutines as `ListObjectKeyIterator` starts them on stream `st` for a
caller's context `ctx`: a context already done is a `cancel` before any of them
moved. -/
def started (st : KeyStream) (ctx : Context) : State :=
  match ctx.err with
  | none => init st
  | some err => { init st with cancelled := true, ctxErr := some err, trace := [.cancel] }

/-- What the iterator starts in is reachable from `init`, so every invariant of
the runs from `init` holds of the runs from it. -/
theorem started_reachable (rpcError : GoError → Option GoError) (st : KeyStream) (ctx : Context) :
    Reachable rpcError (init st) (started st ctx) := by
  unfold started
  split
  · exact .refl
  · rename_i err _
    exact .tail (.cancel err) .refl rfl

end KeyIterator

/-- `ListObjectKeyIterator`: a nil `ctx` panics with `no context given`, the
panic being `.error`; otherwise it opens the `ListObjectKeys` stream with the
context derived from `ctx` and returns the key iterator's goroutines, or the
error, through `toContextErr`, that opening the stream failed with. -/
def Client.listObjectKeyIterator (rpcError : GoError → Option GoError) (c : Client)
    (ctx : Option Context) : ClientM (Except String (Option KeyIterator.State × Option GoError)) :=
  match ctx with
  | none => pure (.error "no context given")
  | some ctx =>
    c.withRPC (some ctx) .listObjectKeys (fun err => .ok (none, some err)) fun grpcCtx r =>
      match r with
      | .error err => .ok (none, toContextErr rpcError grpcCtx err)
      | .ok resp => .ok (some (KeyIterator.started resp.keys ctx), none)

end ZeroStor
