import ZeroStor.Client
import ZeroStor.KeyIterator.Progress

/-!
# ZeroStor.Client.Iterator

What `ListObjectKeyIterator` returns, and every run of what it returns.

* Given a context, it returns, with a nil error, the goroutines of
  `KeyIterator` started on the stream the server opened for the context the
  constructor built, or no iterator and a non-nil error
  (`listObjectKeyIterator_result`).
* Every run of the iterator it returns keeps the channel discipline and
  completes (`listObjectKeyIterator_runs`).
-/
namespace ZeroStor

/-! ## The iterator it returns -/

section Iterator

variable (rpcError : GoError → Option GoError) (c : Client) (ctx : Context) (srv : Server)

/-- Given a context, `ListObjectKeyIterator` returns, with a nil error, the
goroutines started on the stream the server opened for the context the
constructor built, or no iterator and an error. -/
theorem listObjectKeyIterator_result :
    (∃ rctx resp, (c.contextConstructor.call (some ctx) srv).1 = .ok rctx ∧
      srv.reply rctx .listObjectKeys = .ok resp ∧
      (c.listObjectKeyIterator rpcError (some ctx) srv).1 =
        .ok (some (KeyIterator.started resp.keys ctx), none)) ∨
    ∃ err, (c.listObjectKeyIterator rpcError (some ctx) srv).1 = .ok (none, some err) := by
  simp only [Client.listObjectKeyIterator, Client.withRPC, ClientM.run_bind]
  cases hc : (c.contextConstructor.call (some ctx) srv).1 with
  | error err => exact .inr ⟨err, rfl⟩
  | ok rctx =>
    simp only [invoke, ClientM.run_map]
    cases hr : srv.reply rctx .listObjectKeys with
    | error err =>
      obtain ⟨e, he⟩ := Option.isSome_iff_exists.mp (toContextErr_isSome rpcError rctx err)
      exact .inr ⟨e, by simp [he]⟩
    | ok resp => exact .inl ⟨rctx, resp, rfl, hr, rfl⟩

/-- The iterator starts with no more than the measure of `init`. -/
theorem measure_started_le (st : KeyStream) :
    KeyIterator.measure (KeyIterator.started st ctx) ≤ 8 * st.keys.length + 8 := by
  unfold KeyIterator.started
  split
  · exact (KeyIterator.measure_init st).le
  · simp [KeyIterator.measure, KeyIterator.init, KeyIterator.Producer.rank]

/-- Every iterator `ListObjectKeyIterator` returns, the caller's context
already done or not, under every schedule of its goroutines and the caller:
it came with a nil error; the channel is closed at most once and no send
follows the close, so the producer never panics; the schedule has at most
`8 · #keys + 8` steps; and once no goroutine can move, the producer has
returned and the consumer has seen the channel closed and drained. -/
theorem listObjectKeyIterator_runs {s : KeyIterator.State} {err : Option GoError}
    (h : (c.listObjectKeyIterator rpcError (some ctx) srv).1 = .ok (some s, err))
    {acts : List KeyIterator.Action} {t : KeyIterator.State}
    (hrun : KeyIterator.run rpcError s acts = some t) :
    err = none ∧ t.trace.count .close ≤ 1 ∧ KeyIterator.sends (KeyIterator.after .close t.trace) = [] ∧
    t.producer ≠ .panicked ∧ acts.length ≤ 8 * s.stream.keys.length + 8 ∧
    (KeyIterator.Quiescent rpcError t →
      t.producer = .returned ∧ t.closed = true ∧ t.buffer = none ∧ t.consumerDone = true) := by
  obtain ⟨-, resp, -, -, hst⟩ | ⟨e, he⟩ := listObjectKeyIterator_result rpcError c ctx srv
  · obtain ⟨rfl, rfl⟩ : KeyIterator.started resp.keys ctx = s ∧ none = err := by
      simpa [hst] using h
    have hch := KeyIterator.ChannelInv.reachable
      ((KeyIterator.started_reachable rpcError resp.keys ctx).trans (KeyIterator.reachable_of_run hrun))
    have hlen := KeyIterator.run_length_le hrun
    have hs : (KeyIterator.started resp.keys ctx).stream = resp.keys := by
      unfold KeyIterator.started; split <;> rfl
    refine ⟨rfl, ?_, hch.sends_before_close, hch.not_panicked, ?_, fun hq => ?_⟩
    · rw [hch.close_count]; split <;> omega
    · have := measure_started_le ctx resp.keys
      rw [hs]; omega
    · obtain ⟨hd, hc, hb, hp⟩ := hch.done_of_quiescent hq
      exact ⟨hp, hc, hb, hd⟩
  · simp [he] at h

/-- One key and `io.EOF`: the producer sends the key, the consumer takes it, the
producer returns at the end of the stream, the closer closes the channel, and
the consumer sees it closed; then no goroutine can move. -/
theorem listObjectKeyIterator_runs_one_key :
    ∃ s t, ((⟨"zstordb:8080", .default "ns", "ns"⟩ : Client).listObjectKeyIterator
        (fun e => some e) (some {}) ⟨fun _ _ => .ok { keys := ⟨[[1]], .eof⟩ }⟩).1 =
          .ok (some s, none) ∧
      KeyIterator.run (fun e => some e) s
        [.producer, .producer, .producer, .consumer, .producer, .producer, .closer, .consumer] =
          some t ∧
      KeyIterator.Quiescent (fun e => some e) t ∧
      (none : Option GoError) = none ∧ t.trace.count .close ≤ 1 ∧
      KeyIterator.sends (KeyIterator.after .close t.trace) = [] ∧ t.producer ≠ .panicked ∧
      8 ≤ 8 * s.stream.keys.length + 8 ∧
      (KeyIterator.Quiescent (fun e => some e) t →
        t.producer = .returned ∧ t.closed = true ∧ t.buffer = none ∧ t.consumerDone = true) :=
  ⟨_, _, rfl, rfl, (fun a ha => by cases a <;> first | rfl | cases ha),
    @listObjectKeyIterator_runs (fun e => some e)
    ⟨"zstordb:8080", .default "ns", "ns"⟩ {} ⟨fun _ _ => .ok { keys := ⟨[[1]], .eof⟩ }⟩ _ _ rfl
    [.producer, .producer, .producer, .consumer, .producer, .producer, .closer, .consumer] _ rfl⟩

end Iterator

end ZeroStor
