import ZeroStor.KeyIterator.Progress

/-!
# ZeroStor.KeyIterator.Listing

What the consumer of `ListObjectKeyIterator` receives.

`listing` says it in the words of the interface: `{Key: k}` for each key before
the first empty key or error, then one error result if an empty key came
(`ErrMissingKey`) or `Recv` failed with anything but `io.EOF` (the converted
error), and nothing after `io.EOF`.

Two invariants connect it to the goroutines of `KeyIterator.Machine`:

* `CtxInv`: the derived context is done only once the caller has cancelled
  or the producer has returned;
* `Position`: where the producer stands in the stream, and what it has sent
  so far, at each point of its loop.

`listObjectKeyIterator_delivers` assembles them with the channel discipline
and the progress results: in a run the caller does not cancel, under every
schedule, the consumer receives exactly `listing`, and the channel is closed
once, after the last send.
-/

namespace ZeroStor

namespace KeyIterator

/-! ## The listing -/

/-- `ObjectKeyResult{Key: k}`. -/
def okResult (k : Bytes) : ObjectKeyResult := ⟨k, none⟩

/-- The keys a listing delivers: those before the first empty key. -/
def goodKeys (keys : List Bytes) : List Bytes := keys.takeWhile fun k => !k.isEmpty

section Spec

variable (rpcError : GoError → Option GoError)

/-- The error result that ends a listing: `ErrMissingKey` if an empty key
comes, the converted error of the failed `Recv` if the stream ends in an
error other than `io.EOF`, none at `io.EOF`. `ctxErr` is what `ctx.Err()`
reads when the error is converted. -/
def endResult (ctxErr : Option GoError) (keys : List Bytes) (last : GoError) :
    Option ObjectKeyResult :=
  if [] ∈ keys then some ⟨[], some (.datastor .missingKey)⟩
  else if last = .eof then none
  else some ⟨[], toContextErr rpcError ⟨ctxErr, []⟩ last⟩

/-- The results a listing of `st` delivers: one per key before the first empty
key or error, in stream order, then the error result that ends it, if any. -/
def listing (ctxErr : Option GoError) (st : KeyStream) : List ObjectKeyResult :=
  (goodKeys st.keys).map okResult ++ (endResult rpcError ctxErr st.keys st.last).toList

/-- A result that ends a listing in an error: `ErrMissingKey` for an empty key,
or the converted error of a failed `Recv`. -/
def ErrorResult (r : ObjectKeyResult) : Prop :=
  r = ⟨[], some (.datastor .missingKey)⟩ ∨
    ∃ c e, e ≠ .eof ∧ r = ⟨[], toContextErr rpcError ⟨c, []⟩ e⟩

end Spec

/-- All keys non-empty. -/
def Good (ks : List Bytes) : Prop := ∀ k ∈ ks, k ≠ []

theorem good_append {ks ks' : List Bytes} : Good (ks ++ ks') ↔ Good ks ∧ Good ks' := by
  simp [Good, or_imp, forall_and]

theorem goodKeys_append {ks : List Bytes} (h : Good ks) (rest : List Bytes) :
    goodKeys (ks ++ rest) = ks ++ goodKeys rest := by
  refine List.takeWhile_append_of_pos fun k hk => ?_
  simpa [List.isEmpty_iff] using h k hk

theorem nil_not_mem_of_good {ks : List Bytes} (h : Good ks) : [] ∉ ks :=
  fun hm => h [] hm rfl

theorem goodKeys_nil_cons (rest : List Bytes) : goodKeys ([] :: rest) = [] := rfl

theorem goodKeys_nil : goodKeys [] = [] := rfl

theorem goodKeys_of_good {ks : List Bytes} (h : Good ks) : goodKeys ks = ks := by
  have := goodKeys_append h []
  rwa [List.append_nil, goodKeys_nil, List.append_nil] at this

theorem endResult_append {rpcError} {c : Option GoError} {ks : List Bytes} (h : Good ks)
    (rest : List Bytes) (last : GoError) :
    endResult rpcError c (ks ++ rest) last = endResult rpcError c rest last := by
  have : [] ∉ ks := fun hm => h _ hm rfl
  simp [endResult, this]

theorem keyResult_of_ne_nil {k : Bytes} (hk : k ≠ []) : keyResult k = okResult k := by
  simp [keyResult, okResult, List.isEmpty_iff, hk]

/-- The keys received and sent so far, `ks`, are a non-empty prefix of the stream. -/
theorem isPrefix_goodKeys {ks rest : List Bytes} (h : Good ks) : ks <+: goodKeys (ks ++ rest) := by
  rw [goodKeys_append h]
  exact List.prefix_append _ _

/-! ## The derived context -/

/-- `ctx` is done only once the caller cancels or the producer returns, and
`cancelled` is the caller's `cancel` in the trace. -/
structure CtxInv (s : State) : Prop where
  done_by : s.ctxErr ≠ none → s.cancelled = true ∨ s.producer = .returned
  cancelled_done : s.cancelled = true → s.ctxErr ≠ none
  cancelled_iff : s.cancelled = true ↔ Event.cancel ∈ s.trace

theorem CtxInv.start (st : KeyStream) : CtxInv (init st) :=
  ⟨nofun, nofun, by simp [init]⟩

section Ctx

variable {rpcError : GoError → Option GoError} {s s' : State}

/-- A live producer in a run nobody cancelled reads a live context. -/
theorem CtxInv.ctxErr_eq_none (hi : CtxInv s) (hc : s.cancelled = false)
    (hp : s.producer ≠ .returned) : s.ctxErr = none := by
  by_contra h
  rcases hi.done_by h with h' | h' <;> simp_all

/-- A step that logs no cancel and leaves the caller's flag alone keeps the
invariant, provided the context is done only by the caller or a returned producer. -/
theorem CtxInv.of_frame (hi : CtxInv s) (l : List Event) (htrace : s'.trace = s.trace ++ l)
    (hl : Event.cancel ∉ l) (hc : s'.cancelled = s.cancelled)
    (hdone : s'.ctxErr ≠ none → s'.cancelled = true ∨ s'.producer = .returned)
    (hctx : s.ctxErr ≠ none → s'.ctxErr ≠ none) : CtxInv s' where
  done_by := hdone
  cancelled_done h := hctx (hi.cancelled_done (hc ▸ h))
  cancelled_iff := by rw [hc, hi.cancelled_iff, htrace]; simp [hl]

/-- While the producer runs, a context done by nothing else was done by the caller. -/
theorem CtxInv.done_by_caller (hi : CtxInv s) (hp : s.producer ≠ .returned)
    (hctx : s'.ctxErr = s.ctxErr) (hc : s'.cancelled = s.cancelled) :
    s'.ctxErr ≠ none → s'.cancelled = true ∨ s'.producer = .returned :=
  fun hd => .inl (hc ▸ (hi.done_by (hctx ▸ hd)).resolve_right hp)

theorem CtxInv.ret_ctxErr (err : Option GoError) : s.ctxErr ≠ none → (s.ret err).ctxErr ≠ none := by
  simp only [State.ret]; split <;> simp

theorem CtxInv.of_step (hi : CtxInv s) {a : Action} (h : step rpcError s a = some s') :
    CtxInv s' := by
  cases a with
  | producer =>
    rcases producerStep_cases h with ⟨hp, -, rfl⟩ | ⟨hp, -, rfl⟩ | ⟨hp, rfl⟩ | ⟨e, hp, rfl⟩ |
      ⟨hp, hc, rfl⟩ | ⟨e, hp, hc, hb, rfl⟩ | ⟨r, hp, hc, hb, rfl⟩
    · exact hi.of_frame [] (by simp) nofun rfl (fun _ => .inr rfl)
        (CtxInv.ret_ctxErr _)
    · exact hi.of_frame [] (by simp) nofun rfl (hi.done_by_caller (hp ▸ nofun) rfl rfl) id
    · refine hi.of_frame [_] rfl (by simp) rfl ?_ id
      intro hd
      by_cases hr : afterRecv s.stream.recv = .returned
      · exact .inr hr
      · exact hi.done_by_caller (hp ▸ nofun) rfl rfl hd
    · exact hi.of_frame [] (by simp) nofun rfl (hi.done_by_caller (hp ▸ nofun) rfl rfl) id
    · have : s.producer ≠ .returned := by
        cases hq : s.producer <;> simp_all [Producer.isSending]
      exact hi.of_frame [] (by simp) nofun rfl (hi.done_by_caller this rfl rfl) id
    · exact hi.of_frame [_] rfl (by simp) rfl (fun _ => .inr rfl) (CtxInv.ret_ctxErr _)
    · split
      · exact hi.of_frame [_] rfl (by simp) rfl (fun _ => .inr rfl) (CtxInv.ret_ctxErr _)
      · exact hi.of_frame [_] rfl (by simp) rfl (hi.done_by_caller (hp ▸ nofun) rfl rfl) id
  | producerDone =>
    obtain ⟨hd, ⟨hp, _, -, rfl⟩ | ⟨e, hp, rfl⟩ | ⟨r, hp, rfl⟩⟩ := producerDoneStep_cases h
    · exact hi.of_frame [_] rfl (by simp) rfl (hi.done_by_caller (hp ▸ nofun) rfl rfl) id
    · exact hi.of_frame [] (by simp) nofun rfl (fun _ => .inr rfl)
        (CtxInv.ret_ctxErr _)
    · exact hi.of_frame [] (by simp) nofun rfl (fun _ => .inr rfl)
        (CtxInv.ret_ctxErr _)
  | closer =>
    obtain ⟨hp, -, rfl⟩ := closerStep_eq h
    exact hi.of_frame [_] rfl (by simp) rfl (fun _ => .inr hp) (by simp)
  | consumer =>
    obtain ⟨-, ⟨r, -, rfl⟩ | ⟨-, -, rfl⟩⟩ := consumerStep_cases h
    · exact hi.of_frame [_] rfl (by simp) rfl hi.done_by id
    · exact hi.of_frame [] (by simp) nofun rfl hi.done_by id
  | cancel _ =>
    obtain ⟨-, rfl⟩ := cancelStep_eq h
    exact ⟨fun _ => .inl rfl, fun _ => by simp, by simp⟩

theorem CtxInv.reachable {st : KeyStream} (h : Reachable rpcError (init st) s) : CtxInv s :=
  h.rec_inv CtxInv (CtxInv.start st) fun _ _ _ hi hs => hi.of_step hs

end Ctx

/-! ## Where the producer stands -/

section Position

variable (rpcError : GoError → Option GoError)

/-- Where a producer at `p`, with `rest` left in the stream, stands in the
listing of `st0`, given the results `sent` so far and whether the caller has
`cancelled`. `ks` are the keys received and sent, all non-empty; `c` is what
`ctx.Err()` read when an error was converted, nil unless the caller cancelled. -/
def Position (st0 : KeyStream) (p : Producer) (rest : KeyStream)
    (sent : List ObjectKeyResult) (cancelled : Bool) : Prop :=
  rest.last = st0.last ∧
  match p with
  | .loop | .recv => ∃ ks, st0.keys = ks ++ rest.keys ∧ Good ks ∧ sent = ks.map okResult
  | .send r => ∃ ks, st0.keys = ks ++ r.key :: rest.keys ∧ Good ks ∧
      sent = ks.map okResult ∧ r = keyResult r.key
  | .recvErr e => ∃ ks, st0.keys = ks ++ rest.keys ∧ Good ks ∧ sent = ks.map okResult ∧
      (rest.keys = [] ∧ e = st0.last ∧ e ≠ .eof ∨ cancelled = true ∧ ∃ c, e = contextStatus c)
  | .sendErr e => ∃ ks, st0.keys = ks ++ rest.keys ∧ Good ks ∧ sent = ks.map okResult ∧
      ∃ c, (rest.keys = [] ∧ st0.last ≠ .eof ∧ e = toContextErr rpcError ⟨c, []⟩ st0.last ∧
          (cancelled = true ∨ c = none)) ∨
        (cancelled = true ∧ ∃ c', e = toContextErr rpcError ⟨c, []⟩ (contextStatus c'))
  | .returned => (∃ c, sent = listing rpcError c st0 ∧ (cancelled = true ∨ c = none)) ∨
      (cancelled = true ∧ ∃ ks tail, ks <+: goodKeys st0.keys ∧
        sent = ks.map okResult ++ tail ∧
        (tail = [] ∨ ∃ c c', tail = [⟨[], toContextErr rpcError ⟨c, []⟩ (contextStatus c')⟩]))
  | .panicked => True

/-- The position of the producer of state `s`. -/
def PositionInv (st0 : KeyStream) (s : State) : Prop :=
  Position rpcError st0 s.producer s.stream (sends s.trace) s.cancelled

end Position

section PositionStep

variable {rpcError : GoError → Option GoError} {st0 : KeyStream} {s s' : State}

/-- A cancellation only weakens what the position says. -/
theorem Position.cancel {p : Producer} {rest : KeyStream} {sent : List ObjectKeyResult}
    {b : Bool} (h : Position rpcError st0 p rest sent b) :
    Position rpcError st0 p rest sent true := by
  obtain ⟨hl, h⟩ := h
  refine ⟨hl, ?_⟩
  cases p with
  | loop | recv | send r | panicked => exact h
  | recvErr e =>
    obtain ⟨ks, h₁, h₂, h₃, h₄⟩ := h
    exact ⟨ks, h₁, h₂, h₃, h₄.imp id fun h => ⟨rfl, h.2⟩⟩
  | sendErr e =>
    obtain ⟨ks, h₁, h₂, h₃, c, h₄⟩ := h
    exact ⟨ks, h₁, h₂, h₃, c, h₄.imp (fun h => ⟨h.1, h.2.1, h.2.2.1, .inl rfl⟩)
      fun h => ⟨rfl, h.2⟩⟩
  | returned =>
    exact h.imp (fun ⟨c, h₁, _⟩ => ⟨c, h₁, .inl rfl⟩) fun h => ⟨rfl, h.2⟩

/-- A step that moves neither the producer nor the stream, sends nothing and
cancels nothing keeps the position. -/
theorem PositionInv.of_frame (h : PositionInv rpcError st0 s)
    (hp : s'.producer = s.producer) (hst : s'.stream = s.stream)
    (hsends : sends s'.trace = sends s.trace) (hc : s'.cancelled = s.cancelled) :
    PositionInv rpcError st0 s' := by
  unfold PositionInv
  rwa [hp, hst, hsends, hc]

/-- A producer returning with nothing more sent, once the caller has cancelled. -/
theorem position_returned_cancelled {ks rest : List Bytes} (hst : st0.keys = ks ++ rest)
    (hg : Good ks) {sent : List ObjectKeyResult} (hs : sent = ks.map okResult)
    {rest' : KeyStream} (hl : rest'.last = st0.last) :
    Position rpcError st0 .returned rest' sent true :=
  ⟨hl, .inr ⟨rfl, ks, [], hst ▸ isPrefix_goodKeys hg, by simp [hs], .inl rfl⟩⟩

/-- A `Recv` moves the producer on in the stream: to the next key, to the end
of the listing at `io.EOF`, or to the conversion of the stream's error. -/
theorem PositionInv.of_recv (hi : PositionInv rpcError st0 s) (hp : s.producer = .recv) :
    PositionInv rpcError st0 ({ s with stream := s.stream.next }.onRecv s.stream.recv) := by
  obtain ⟨hl, hpos⟩ := hi
  rw [hp] at hpos
  obtain ⟨ks, h₁, h₂, h₃⟩ := hpos
  rcases hst : s.stream with ⟨_ | ⟨k, rest⟩, last⟩ <;> rw [hst] at h₁ hl <;>
    simp only at h₁ hl <;> subst hl
  · by_cases he : st0.last = .eof
    · simp only [PositionInv, Position, State.onRecv, hst, KeyStream.next, KeyStream.recv, he,
        afterRecv_eof, sends_append, h₃, sends_singleton, List.append_nil, true_and]
      refine .inl ⟨none, ?_, .inr rfl⟩
      rw [List.append_nil] at h₁
      simp [listing, h₁, goodKeys_of_good h₂, endResult, he, nil_not_mem_of_good h₂]
    · simp only [PositionInv, Position, State.onRecv, hst, KeyStream.next, KeyStream.recv,
        afterRecv_error he, sends_append, h₃, sends_singleton, List.append_nil, true_and]
      exact ⟨ks, by simpa using h₁, h₂, rfl, by simp [he]⟩
  · simp only [PositionInv, Position, State.onRecv, hst, KeyStream.next, KeyStream.recv,
      afterRecv_ok, sends_append, h₃, sends_singleton, List.append_nil, true_and]
    exact ⟨ks, h₁, h₂, rfl, rfl⟩

/-- `ch <- result`: a key joins the results sent; an empty key's `ErrMissingKey`
ends the listing. -/
theorem PositionInv.of_send {r : ObjectKeyResult} (hi : PositionInv rpcError st0 s)
    (hp : s.producer = .send r) :
    PositionInv rpcError st0
      (if r.error.isSome then (s.put r).ret r.error else { s.put r with producer := .loop }) := by
  obtain ⟨hl, hpos⟩ := hi
  rw [hp] at hpos
  obtain ⟨ks, h₁, h₂, h₃, hr⟩ := hpos
  generalize r.key = k at h₁ hr
  subst hr
  by_cases hk : k = []
  · -- an empty key: `ErrMissingKey`, then `return result.Error`
    subst hk
    simp only [keyResult, List.isEmpty_nil, if_true, Option.isSome_some, State.ret, State.put,
      PositionInv, Position, sends_append, h₃, sends_singleton]
    refine ⟨hl, .inl ⟨none, ?_, .inr rfl⟩⟩
    simp [listing, h₁, goodKeys_append h₂, endResult_append h₂, endResult, goodKeys_nil_cons]
  · rw [keyResult_of_ne_nil hk]
    simp only [okResult, Option.isSome_none, State.put, PositionInv, Position, sends_append, h₃,
      sends_singleton]
    refine ⟨hl, ks ++ [k], by simp [h₁], good_append.mpr ⟨h₂, by simpa [Good] using hk⟩, ?_⟩
    simp [okResult, h₃]

theorem PositionInv.of_producerStep (hi : PositionInv rpcError st0 s) (hctx : CtxInv s)
    (h : producerStep rpcError s = some s') : PositionInv rpcError st0 s' := by
  rcases producerStep_cases h with ⟨hp, hd, rfl⟩ | ⟨hp, -, rfl⟩ | ⟨hp, rfl⟩ | ⟨e, hp, rfl⟩ |
    ⟨hp, hc, rfl⟩ | ⟨e, hp, hc, hb, rfl⟩ | ⟨r, hp, hc, hb, rfl⟩
  · -- the check of `ctx.Done()` returns
    obtain ⟨hl, hpos⟩ := hi
    rw [hp] at hpos
    obtain ⟨ks, h₁, h₂, h₃⟩ := hpos
    have hcn := (hctx.done_by hd).resolve_right (hp ▸ nofun)
    simp only [PositionInv, State.ret, hcn]
    exact position_returned_cancelled h₁ h₂ h₃ hl
  · obtain ⟨hl, hpos⟩ := hi
    rw [hp] at hpos
    exact ⟨hl, hpos⟩
  · exact hi.of_recv hp
  · -- `toContextErr`
    obtain ⟨hl, hpos⟩ := hi
    rw [hp] at hpos
    obtain ⟨ks, h₁, h₂, h₃, h₄⟩ := hpos
    refine ⟨hl, ks, h₁, h₂, h₃, s.ctxErr, ?_⟩
    rcases h₄ with ⟨hk, rfl, he⟩ | ⟨hcn, c', rfl⟩
    · refine .inl ⟨hk, he, rfl, ?_⟩
      cases hcn : s.cancelled
      · exact .inr (hctx.ctxErr_eq_none hcn (hp ▸ nofun))
      · exact .inl rfl
    · exact .inr ⟨hcn, c', rfl⟩
  · -- a send on the closed channel panics
    exact ⟨hi.1, trivial⟩
  · -- `ch <- ObjectKeyResult{Error: err}`, then `return err`
    obtain ⟨hl, hpos⟩ := hi
    rw [hp] at hpos
    obtain ⟨ks, h₁, h₂, h₃, c, h₄⟩ := hpos
    refine ⟨hl, ?_⟩
    simp only [State.ret, State.put, sends_append, h₃, sends_singleton]
    rcases h₄ with ⟨hk, he, rfl, hc'⟩ | ⟨hcn, c', rfl⟩
    · rw [hk, List.append_nil] at h₁
      refine .inl ⟨c, ?_, hc'⟩
      simp [listing, h₁, endResult, nil_not_mem_of_good h₂, he, goodKeys_of_good h₂]
    · exact .inr ⟨hcn, ks, _, h₁ ▸ isPrefix_goodKeys h₂, rfl, .inr ⟨c, c', rfl⟩⟩
  · exact hi.of_send hp

theorem PositionInv.of_producerDoneStep (hi : PositionInv rpcError st0 s) (hctx : CtxInv s)
    (h : producerDoneStep s = some s') : PositionInv rpcError st0 s' := by
  obtain ⟨hl, hpos⟩ := hi
  obtain ⟨hd, ⟨hp, err, -, rfl⟩ | ⟨e, hp, rfl⟩ | ⟨r, hp, rfl⟩⟩ := producerDoneStep_cases h <;>
    rw [hp] at hpos <;> have hcn := (hctx.done_by hd).resolve_right (hp ▸ nofun)
  · -- the `Recv` in flight fails with the status of the context's error
    obtain ⟨ks, h₁, h₂, h₃⟩ := hpos
    simp only [PositionInv, Position, State.onRecv, afterRecv_contextStatus, sends_append, h₃,
      sends_singleton, List.append_nil]
    exact ⟨hl, ks, h₁, h₂, rfl, .inr ⟨hcn, err, rfl⟩⟩
  · obtain ⟨ks, h₁, h₂, h₃, -⟩ := hpos
    simp only [PositionInv, State.ret, hcn]
    exact position_returned_cancelled h₁ h₂ h₃ hl
  · obtain ⟨ks, h₁, h₂, h₃, -⟩ := hpos
    simp only [PositionInv, State.ret, hcn]
    exact position_returned_cancelled h₁ h₂ h₃ hl

theorem PositionInv.of_step (hi : PositionInv rpcError st0 s) (hctx : CtxInv s) {a : Action}
    (h : step rpcError s a = some s') : PositionInv rpcError st0 s' := by
  cases a with
  | producer => exact hi.of_producerStep hctx h
  | producerDone => exact hi.of_producerDoneStep hctx h
  | closer =>
    obtain ⟨-, -, rfl⟩ := closerStep_eq h
    exact hi.of_frame rfl rfl (by simp) rfl
  | consumer =>
    obtain ⟨-, ⟨r, -, rfl⟩ | ⟨-, -, rfl⟩⟩ := consumerStep_cases h
    · exact hi.of_frame rfl rfl (by simp) rfl
    · exact hi.of_frame rfl rfl rfl rfl
  | cancel _ =>
    obtain ⟨-, rfl⟩ := cancelStep_eq h
    have : PositionInv rpcError st0 { s with trace := s.trace ++ [.cancel] } :=
      hi.of_frame rfl rfl (by simp) rfl
    exact Position.cancel this

theorem PositionInv.start (st : KeyStream) : PositionInv rpcError st (init st) :=
  ⟨rfl, [], by simp [init], nofun, rfl⟩

theorem PositionInv.reachable {st : KeyStream} (h : Reachable rpcError (init st) s) :
    PositionInv rpcError st s ∧ CtxInv s :=
  h.rec_inv (fun s => PositionInv rpcError st s ∧ CtxInv s)
    ⟨PositionInv.start st, CtxInv.start st⟩ fun _ _ _ ⟨hp, hc⟩ hs =>
    ⟨hp.of_step hc hs, hc.of_step hs⟩

end PositionStep

/-! ## A listing nobody cancels -/

section Uncancelled

variable {rpcError : GoError → Option GoError} {st0 : KeyStream}

/-- The results for the keys received so far start the listing. -/
theorem okResults_isPrefix_listing {ks rest : List Bytes} (hg : Good ks) (h : st0.keys = ks ++ rest)
    (c : Option GoError) : ks.map okResult <+: listing rpcError c st0 := by
  rw [listing, h, goodKeys_append hg, List.map_append, List.append_assoc]
  exact List.prefix_append _ _

/-- In a run nobody cancelled, the producer has sent a prefix of the listing,
and all of it once it has returned. -/
theorem Position.sends_isPrefix_listing {p : Producer} {rest : KeyStream} {sent : List ObjectKeyResult}
    (h : Position rpcError st0 p rest sent false) (hp : p ≠ .panicked) :
    sent <+: listing rpcError none st0 ∧ (p = .returned → sent = listing rpcError none st0) := by
  obtain ⟨-, h⟩ := h
  cases p with
  | loop | recv =>
    obtain ⟨ks, h₁, h₂, rfl⟩ := h
    exact ⟨okResults_isPrefix_listing h₂ h₁ none, nofun⟩
  | send r =>
    obtain ⟨ks, h₁, h₂, rfl, -⟩ := h
    exact ⟨okResults_isPrefix_listing h₂ h₁ none, nofun⟩
  | recvErr e | sendErr e =>
    obtain ⟨ks, h₁, h₂, rfl, -⟩ := h
    exact ⟨okResults_isPrefix_listing h₂ h₁ none, nofun⟩
  | returned =>
    rcases h with ⟨c, rfl, hc⟩ | ⟨hc, -⟩
    · obtain rfl : c = none := by simpa using hc
      exact ⟨List.prefix_refl _, fun _ => rfl⟩
    · cases hc
  | panicked => exact absurd rfl hp

/-- A listing the caller never cancels, under every schedule of the producer,
the closer and the consumer. Every schedule is finite. The consumer has
received a prefix of `listing`; the channel is closed at most once and no send
follows the close, so the producer never panics. Once no goroutine can move,
the consumer has received exactly `listing`, exactly that was sent, and the
channel was closed exactly once, after the last send. -/
theorem listObjectKeyIterator_delivers (rpcError : GoError → Option GoError) (st : KeyStream)
    {acts : List Action} {s : State} (hcancel : ∀ a ∈ acts, a.isCancel = false)
    (hrun : run rpcError (init st) acts = some s) :
    acts.length ≤ 8 * st.keys.length + 8 ∧
    receives s.trace <+: listing rpcError none st ∧
    s.trace.count .close ≤ 1 ∧ sends (after .close s.trace) = [] ∧ s.producer ≠ .panicked ∧
    (Quiescent rpcError s →
      receives s.trace = listing rpcError none st ∧ sends s.trace = listing rpcError none st ∧
      s.trace.count .close = 1) := by
  have hr := reachable_of_run hrun
  have hch := ChannelInv.reachable hr
  obtain ⟨hpos, -⟩ := PositionInv.reachable hr
  rw [PositionInv, run_cancelled hcancel hrun] at hpos
  obtain ⟨hpre, hfin⟩ := hpos.sends_isPrefix_listing hch.not_panicked
  have hlen := run_length_le hrun
  rw [measure_init] at hlen
  have hrecv : receives s.trace ++ s.buffer.toList <+: listing rpcError none st :=
    hch.delivered ▸ hpre
  have hbuf := List.prefix_append (receives s.trace) s.buffer.toList
  refine ⟨by omega, hbuf.trans hrecv, ?_, hch.sends_before_close,
    hch.not_panicked, fun hq => ?_⟩
  · rw [hch.close_count]; split <;> omega
  · obtain ⟨-, hcl, hb, hp⟩ := hch.done_of_quiescent hq
    have hd := hch.delivered
    rw [hb, Option.toList_none, List.append_nil] at hd
    exact ⟨hd.trans (hfin hp), hfin hp, by rw [hch.close_count, hcl]; rfl⟩

/-- Two keys and `io.EOF`, the producer, the closer and the consumer taking
turns until no goroutine can move. -/
theorem listObjectKeyIterator_delivers_two_keys :
    ∃ s, run (fun e => some e) (init ⟨[[1], [2]], .eof⟩)
        [.producer, .producer, .producer, .consumer, .producer, .producer, .producer,
          .consumer, .producer, .producer, .closer, .consumer] = some s ∧
      Quiescent (fun e => some e) s ∧
      12 ≤ 8 * 2 + 8 ∧
      receives s.trace <+: listing (fun e => some e) none ⟨[[1], [2]], .eof⟩ ∧
      s.trace.count .close ≤ 1 ∧ sends (after .close s.trace) = [] ∧ s.producer ≠ .panicked ∧
      (Quiescent (fun e => some e) s →
        receives s.trace = listing (fun e => some e) none ⟨[[1], [2]], .eof⟩ ∧
        sends s.trace = listing (fun e => some e) none ⟨[[1], [2]], .eof⟩ ∧
        s.trace.count .close = 1) :=
  ⟨_, rfl, (fun a ha => by cases a <;> first | rfl | cases ha),
    @listObjectKeyIterator_delivers (fun e => some e) ⟨[[1], [2]], .eof⟩
    [.producer, .producer, .producer, .consumer, .producer, .producer, .producer,
      .consumer, .producer, .producer, .closer, .consumer] _ (by decide) rfl⟩

end Uncancelled

end KeyIterator

end ZeroStor
