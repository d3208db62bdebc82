import ZeroStor.KeyIterator.Listing

/-!
# ZeroStor.KeyIterator.Cancel

`ListObjectKeyIterator` when the caller cancels its context, at any point of
any schedule, and when it does not while the consumer stops reading.

The check of `ctx.Done()` at the top of the producer's loop catches the
cancellation on every path: past it, the producer can finish only the turn of
the loop it is in. `Budget` counts what that turn may still do, a `Recv` if it
has not happened yet and one send, against what the trace shows after the
cancellation. With the producer's `Position`, this gives
`listObjectKeyIterator_cancelled`: what was sent is a prefix of the keys of
the listing, followed by at most one error result, and after the cancellation
the producer completes at most one `Recv` and one send, then returns, whether
or not the consumer still reads (`ChannelInv.returned_of_cancelled`).

Cancelling is also the only way out for a listing whose consumer stops reading
before the channel is closed: without it, `listObjectKeyIterator_abandoned`, a
listing of two results or more never ends. The producer stays blocked on its
send, with one result in the buffer, and the channel is never closed.
-/

namespace ZeroStor

namespace KeyIterator

/-- The `Recv`s the producer may still complete in its current turn. -/
@[simp] def Producer.recvsLeft : Producer → Nat
  | .recv => 1
  | _ => 0

/-- The sends the producer may still perform in its current turn. -/
@[simp] def Producer.sendsLeft : Producer → Nat
  | .recv | .recvErr _ | .sendErr _ | .send _ => 1
  | _ => 0

/-- A completed `Recv` ends the producer's budget of `Recv`s. -/
theorem recvsLeft_afterRecv (r : Except GoError Bytes) : (afterRecv r).recvsLeft = 0 := by
  rcases r with e | k
  · cases e <;> rfl
  · rfl

theorem sendsLeft_le_one (p : Producer) : p.sendsLeft ≤ 1 := by
  cases p <;> simp

/-- After the caller's cancellation, what the producer did and what its current
turn may still do add up to at most one `Recv` and one send. -/
def Budget (s : State) : Prop :=
  s.cancelled = true →
    (recvs (after .cancel s.trace)).length + s.producer.recvsLeft ≤ 1 ∧
    (sends (after .cancel s.trace)).length + s.producer.sendsLeft ≤ 1

section Budget

variable {rpcError : GoError → Option GoError} {s s' : State}

theorem Budget.start (st : KeyStream) : Budget (init st) := nofun

/-- A step of a cancelled run that logs `l` and moves the producer to `p'`
keeps the budget when the counts it adds are paid by the turn. -/
theorem Budget.of_move (hb : Budget s) (hctx : CtxInv s) (l : List Event)
    (htrace : s'.trace = s.trace ++ l) (hc : s'.cancelled = s.cancelled)
    (hr : (recvs l).length + s'.producer.recvsLeft ≤ s.producer.recvsLeft)
    (hs : (sends l).length + s'.producer.sendsLeft ≤ s.producer.sendsLeft) : Budget s' := by
  intro hc'
  rw [hc] at hc'
  have hmem := hctx.cancelled_iff.mp hc'
  obtain ⟨h₁, h₂⟩ := hb hc'
  rw [htrace, after_append, if_pos hmem, recvs_append, sends_append, List.length_append,
    List.length_append]
  omega

theorem Budget.of_step (hb : Budget s) (hctx : CtxInv s) {a : Action}
    (h : step rpcError s a = some s') : Budget s' := by
  cases a with
  | producer =>
    rcases producerStep_cases h with ⟨hp, -, rfl⟩ | ⟨hp, hd, rfl⟩ | ⟨hp, rfl⟩ | ⟨e, hp, rfl⟩ |
      ⟨hp, -, rfl⟩ | ⟨e, hp, -, -, rfl⟩ | ⟨r, hp, -, -, rfl⟩
    · exact hb.of_move hctx [] (by simp) rfl (by simp) (by simp)
    · -- `loop` to `recv` only while `ctx` is live, so never after a cancellation
      intro hc
      exact absurd hd (hctx.cancelled_done hc)
    · exact hb.of_move hctx _ rfl rfl (by rw [State.onRecv_producer, recvsLeft_afterRecv, hp]; simp)
        (by simpa [hp] using sendsLeft_le_one _)
    · exact hb.of_move hctx [] (by simp) rfl (by simp [hp]) (by simp [hp])
    · exact hb.of_move hctx [] (by simp) rfl (by simp) (by simp)
    · exact hb.of_move hctx [_] rfl rfl (by simp [hp]) (by simp [hp])
    · split
      · exact hb.of_move hctx [_] rfl rfl (by simp [hp]) (by simp [hp])
      · exact hb.of_move hctx [_] rfl rfl (by simp [hp]) (by simp [hp])
  | producerDone =>
    obtain ⟨-, ⟨hp, _, -, rfl⟩ | ⟨e, hp, rfl⟩ | ⟨r, hp, rfl⟩⟩ := producerDoneStep_cases h
    · exact hb.of_move hctx [_] rfl rfl (by simp [hp]) (by simp [hp])
    all_goals exact hb.of_move hctx [] (by simp) rfl (by simp) (by simp)
  | closer =>
    obtain ⟨-, -, rfl⟩ := closerStep_eq h
    exact hb.of_move hctx [_] rfl rfl (by simp) (by simp)
  | consumer =>
    obtain ⟨-, ⟨r, -, rfl⟩ | ⟨-, -, rfl⟩⟩ := consumerStep_cases h
    · exact hb.of_move hctx [_] rfl rfl (by simp) (by simp)
    · exact hb.of_move hctx [] (by simp) rfl (by simp) (by simp)
  | cancel _ =>
    -- the cancellation starts the count afresh
    obtain ⟨hc, rfl⟩ := cancelStep_eq h
    have hnot : Event.cancel ∉ s.trace := fun hm => by
      simp [hctx.cancelled_iff.mpr hm] at hc
    intro _
    simp only [after_append, if_neg hnot, after, if_true]
    constructor <;> cases s.producer <;> simp

theorem Budget.reachable {st : KeyStream} (h : Reachable rpcError (init st) s) : Budget s :=
  (h.rec_inv (fun s => Budget s ∧ CtxInv s) ⟨Budget.start st, CtxInv.start st⟩
    fun _ _ _ ⟨hb, hc⟩ hs => ⟨hb.of_step hc hs, hc.of_step hs⟩).1

/-- In every reachable state, at most one `Recv` and one send follow the
caller's cancellation. -/
theorem Budget.after_cancel (hb : Budget s) (hctx : CtxInv s) :
    (recvs (after .cancel s.trace)).length ≤ 1 ∧ (sends (after .cancel s.trace)).length ≤ 1 := by
  cases hc : s.cancelled
  · have hnot : Event.cancel ∉ s.trace := fun hm => by simp [hctx.cancelled_iff.mpr hm] at hc
    simp [after_eq_nil_of_not_mem hnot]
  · obtain ⟨h₁, h₂⟩ := hb hc
    omega

end Budget

/-! ## What a cancelled listing sends -/

section Shape

variable {rpcError : GoError → Option GoError} {st0 : KeyStream}

theorem errorResult_of_endResult {c : Option GoError} {keys : List Bytes} {last : GoError}
    {r : ObjectKeyResult} (h : endResult rpcError c keys last = some r) : ErrorResult rpcError r := by
  unfold endResult at h
  split at h
  · exact .inl (Option.some.inj h).symm
  · split at h
    · cases h
    · exact .inr ⟨c, last, ‹_›, (Option.some.inj h).symm⟩

/-- At any point of any run, cancelled or not, the producer has sent keys of the
listing, in order and from the first, then at most one error result. -/
theorem Position.sends_shape {p : Producer} {rest : KeyStream} {sent : List ObjectKeyResult}
    {b : Bool} (h : Position rpcError st0 p rest sent b) (hp : p ≠ .panicked) :
    ∃ ks tail, ks <+: goodKeys st0.keys ∧ sent = ks.map okResult ++ tail ∧
      tail.length ≤ 1 ∧ ∀ r ∈ tail, ErrorResult rpcError r := by
  have running : ∀ ks rest', st0.keys = ks ++ rest' → Good ks → sent = ks.map okResult →
      ∃ ks tail, ks <+: goodKeys st0.keys ∧ sent = ks.map okResult ++ tail ∧
        tail.length ≤ 1 ∧ ∀ r ∈ tail, ErrorResult rpcError r :=
    fun ks _ h₁ h₂ h₃ => ⟨ks, [], h₁ ▸ isPrefix_goodKeys h₂, by simp [h₃], by simp, nofun⟩
  obtain ⟨-, h⟩ := h
  cases p with
  | loop | recv => obtain ⟨ks, h₁, h₂, h₃⟩ := h; exact running ks _ h₁ h₂ h₃
  | send r => obtain ⟨ks, h₁, h₂, h₃, -⟩ := h; exact running ks _ h₁ h₂ h₃
  | recvErr e | sendErr e => obtain ⟨ks, h₁, h₂, h₃, -⟩ := h; exact running ks _ h₁ h₂ h₃
  | returned =>
    rcases h with ⟨c, rfl, -⟩ | ⟨-, ks, tail, hpre, rfl, htail⟩
    · refine ⟨_, _, List.prefix_refl _, rfl, by cases endResult rpcError c _ _ <;> simp, ?_⟩
      intro r hr
      exact errorResult_of_endResult (Option.mem_toList.mp hr)
    · refine ⟨ks, tail, hpre, rfl, by rcases htail with rfl | ⟨c, c', rfl⟩ <;> simp, ?_⟩
      rcases htail with rfl | ⟨c, c', rfl⟩
      · nofun
      · simp only [List.mem_singleton]
        rintro r rfl
        exact .inr ⟨c, contextStatus c', contextStatus_ne_eof c', rfl⟩
  | panicked => exact absurd rfl hp

end Shape

/-- Once the caller has cancelled, the producer can move until it has
returned, whatever the consumer does: by its own step, or by the `ctx.Done()`
case of the `select` it waits in. -/
theorem ChannelInv.returned_of_cancelled {rpcError : GoError → Option GoError} {s : State}
    (hch : ChannelInv s) (hctx : CtxInv s) (hc : s.cancelled = true)
    (hp : step rpcError s .producer = none) (hd : step rpcError s .producerDone = none) :
    s.producer = .returned := by
  obtain ⟨err, he⟩ := Option.ne_none_iff_exists'.mp (hctx.cancelled_done hc)
  cases hq : s.producer with
  | returned => rfl
  | panicked => exact absurd hq hch.not_panicked
  | loop | recv | recvErr _ => simp [step, producerStep, hq] at hp
  | sendErr _ | send _ => simp [step, producerDoneStep, hq, he] at hd

/-- `ListObjectKeyIterator` under every schedule, whether and wherever the caller
cancels. What the producer sends is a prefix of the keys of the uncancelled
listing, with none repeated or skipped, followed by at most one error result.
After the cancellation it completes at most one `Recv` and one send, and the
channel is closed only after the last send. Every schedule is finite, and once
the caller has cancelled, a producer that can take neither its next step nor
the `ctx.Done()` case has returned, whether or not the consumer still reads. -/
theorem listObjectKeyIterator_cancelled (rpcError : GoError → Option GoError) (st : KeyStream)
    {acts : List Action} {s : State} (hrun : run rpcError (init st) acts = some s) :
    (∃ ks tail, ks <+: goodKeys st.keys ∧ sends s.trace = ks.map okResult ++ tail ∧
      tail.length ≤ 1 ∧ ∀ r ∈ tail, ErrorResult rpcError r) ∧
    (recvs (after .cancel s.trace)).length ≤ 1 ∧ (sends (after .cancel s.trace)).length ≤ 1 ∧
    sends (after .close s.trace) = [] ∧
    (s.cancelled = true → step rpcError s .producer = none → step rpcError s .producerDone = none →
      s.producer = .returned) ∧
    acts.length ≤ 8 * st.keys.length + 8 := by
  have hr := reachable_of_run hrun
  have hch := ChannelInv.reachable hr
  obtain ⟨hpos, hctx⟩ := PositionInv.reachable hr
  have hlen := run_length_le hrun
  rw [measure_init] at hlen
  obtain ⟨hrecvs, hsends⟩ := (Budget.reachable hr).after_cancel hctx
  exact ⟨hpos.sends_shape hch.not_panicked, hrecvs, hsends, hch.sends_before_close,
    hch.returned_of_cancelled hctx, by omega⟩

/-- Three keys and a consumer that never reads; the caller cancels while the
producer waits to send the second, and the producer leaves by its
`ctx.Done()` case. -/
theorem listObjectKeyIterator_cancelled_mid_listing :
    ∃ s, run (fun e => some e) (init ⟨[[1], [2], [3]], .eof⟩)
        [.producer, .producer, .producer, .producer, .producer, .cancel .canceled, .producerDone,
          .closer] = some s ∧
      s.cancelled = true ∧ step (fun e => some e) s .producer = none ∧
      step (fun e => some e) s .producerDone = none ∧
      (∃ ks tail, ks <+: goodKeys [[1], [2], [3]] ∧ sends s.trace = ks.map okResult ++ tail ∧
        tail.length ≤ 1 ∧ ∀ r ∈ tail, ErrorResult (fun e => some e) r) ∧
      (recvs (after .cancel s.trace)).length ≤ 1 ∧ (sends (after .cancel s.trace)).length ≤ 1 ∧
      sends (after .close s.trace) = [] ∧
      (s.cancelled = true → step (fun e => some e) s .producer = none →
        step (fun e => some e) s .producerDone = none → s.producer = .returned) ∧
      8 ≤ 8 * 3 + 8 :=
  ⟨_, rfl, rfl, rfl, rfl, @listObjectKeyIterator_cancelled (fun e => some e) ⟨[[1], [2], [3]], .eof⟩
    [.producer, .producer, .producer, .producer, .producer, .cancel .canceled, .producerDone,
      .closer] _ rfl⟩

/-! ## A consumer that stops reading -/

section Abandoned

variable {rpcError : GoError → Option GoError} {st0 : KeyStream}

/-- In a run nobody cancelled, the result the producer waits to send is the
next one of the listing. -/
theorem Position.pending_isPrefix_listing {p : Producer} {rest : KeyStream}
    {sent : List ObjectKeyResult} (h : Position rpcError st0 p rest sent false)
    (hp : p.isSending = true) : ∃ r, sent ++ [r] <+: listing rpcError none st0 := by
  obtain ⟨-, h⟩ := h
  cases p with
  | send r =>
    obtain ⟨ks, h₁, h₂, rfl, hr⟩ := h
    refine ⟨r, ?_⟩
    rw [listing, h₁, goodKeys_append h₂, endResult_append h₂, List.map_append, List.append_assoc]
    refine (List.prefix_append_right_inj _).mpr ?_
    by_cases hk : r.key = []
    · -- an empty key: `ErrMissingKey` ends the listing
      rw [hk, goodKeys_nil_cons, hr, hk]
      simp [endResult, keyResult]
    · rw [goodKeys, List.takeWhile_cons_of_pos (by simpa [List.isEmpty_iff] using hk), hr,
        keyResult_of_ne_nil hk]
      simp [okResult]
  | sendErr e =>
    obtain ⟨ks, h₁, h₂, rfl, c, ⟨hrest, hne, rfl, hc⟩ | ⟨hc, -⟩⟩ := h
    · obtain rfl : c = none := by simpa using hc
      refine ⟨⟨[], toContextErr rpcError ⟨none, []⟩ st0.last⟩, ?_⟩
      rw [listing, h₁, hrest, List.append_nil, goodKeys_of_good h₂, endResult,
        if_neg (nil_not_mem_of_good h₂), if_neg hne]
      simp
    · cases hc
  | loop | recv | recvErr _ | returned | panicked => cases hp

/-- A listing whose consumer stops reading and whose caller never cancels, under
every schedule of the producer and the closer, once neither can move: a
listing of at most one result has been sent in full and the channel closed; a
longer one never ends, for the producer is blocked on its send with the one
result it sent still in the buffer, and the channel stays open. -/
theorem listObjectKeyIterator_abandoned (rpcError : GoError → Option GoError) (st : KeyStream)
    {acts : List Action} {s : State} (hacts : ∀ a ∈ acts, a ≠ .consumer ∧ a.isCancel = false)
    (hrun : run rpcError (init st) acts = some s)
    (hstuck : ∀ a, a ≠ .consumer → a.isCancel = false → step rpcError s a = none) :
    ((listing rpcError none st).length ≤ 1 →
      s.closed = true ∧ s.producer = .returned ∧ sends s.trace = listing rpcError none st) ∧
    (2 ≤ (listing rpcError none st).length →
      s.closed = false ∧ s.producer.isSending = true ∧ s.buffer ≠ none ∧
      (sends s.trace).length = 1) := by
  have hr := reachable_of_run hrun
  have hch := ChannelInv.reachable hr
  obtain ⟨hpos, -⟩ := PositionInv.reachable hr
  have hcan : s.cancelled = false :=
    run_keeps State.cancelled _ step_cancelled (fun a ha => (hacts a ha).2) hrun
  have hrecv : receives s.trace = [] :=
    run_keeps (receives ·.trace) _ receives_step (fun a ha => (hacts a ha).1) hrun
  -- with nobody receiving, what was sent is what the buffer holds
  have hsent : sends s.trace = s.buffer.toList := by rw [← hch.delivered, hrecv, List.nil_append]
  rw [PositionInv, hcan] at hpos
  cases hp : s.producer with
  | loop | recv | recvErr _ =>
    exact absurd (hstuck .producer nofun rfl) (by simp [step, producerStep, hp])
  | panicked => exact absurd hp hch.not_panicked
  | returned =>
    have hcl : s.closed = true := by
      by_contra hc
      exact absurd (hstuck .closer nofun rfl) (by simp_all [step, closerStep])
    rw [hp] at hpos
    have hall := (hpos.sends_isPrefix_listing nofun).2 rfl
    have hbuf : (sends s.trace).length ≤ 1 := by rw [hsent]; cases s.buffer <;> simp
    refine ⟨fun _ => ⟨hcl, rfl, hall⟩, fun h2 => ?_⟩
    rw [← hall] at h2
    omega
  | sendErr _ | send _ =>
    have hc := hch.open_of_running (by simp [hp])
    have hb : s.buffer ≠ none := fun hb =>
      absurd (hstuck .producer nofun rfl) (by simp [step, producerStep, hp, State.push, hc, hb])
    have hone : (sends s.trace).length = 1 := by
      rw [hsent]; cases h : s.buffer <;> simp_all
    rw [hp] at hpos
    obtain ⟨x, hx⟩ := hpos.pending_isPrefix_listing rfl
    have := hx.length_le
    simp only [List.length_append, List.length_singleton, hone] at this
    exact ⟨fun h1 => by omega, fun _ => ⟨hc, rfl, hb, hone⟩⟩

/-- Two keys and a consumer that never reads: the producer buffers the first
result and blocks on the second. -/
theorem listObjectKeyIterator_abandoned_two_keys :
    ∃ s, run (fun e => some e) (init ⟨[[1], [2]], .eof⟩) (List.replicate 5 .producer) = some s ∧
      (∀ a ∈ List.replicate 5 Action.producer, a ≠ .consumer ∧ a.isCancel = false) ∧
      (∀ a, a ≠ .consumer → a.isCancel = false → step (fun e => some e) s a = none) ∧
      ((listing (fun e => some e) none ⟨[[1], [2]], .eof⟩).length ≤ 1 →
        s.closed = true ∧ s.producer = .returned ∧
        sends s.trace = listing (fun e => some e) none ⟨[[1], [2]], .eof⟩) ∧
      (2 ≤ (listing (fun e => some e) none ⟨[[1], [2]], .eof⟩).length →
        s.closed = false ∧ s.producer.isSending = true ∧ s.buffer ≠ none ∧
        (sends s.trace).length = 1) :=
  ⟨_, rfl, by decide, (fun a h₁ h₂ => by cases a <;> first | rfl | exact absurd rfl h₁ | cases h₂),
    @listObjectKeyIterator_abandoned (fun e => some e) ⟨[[1], [2]], .eof⟩ (List.replicate 5 .producer)
      _ (by decide) rfl (fun a h₁ h₂ => by cases a <;> first | rfl | exact absurd rfl h₁ | cases h₂)⟩

end Abandoned

end KeyIterator

end ZeroStor
