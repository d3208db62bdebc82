import ZeroStor.KeyIterator.Machine

/-!
# ZeroStor.KeyIterator.Channel

How `ListObjectKeyIterator` uses its channel, over every schedule and every
cancellation point:

* what the consumer has received, followed by what sits in the buffer, is
  exactly what the producer has sent (`ChannelInv.delivered`);
* `ch` is closed at most once, only after the producer has returned, and no
  send follows the close (`ChannelInv.sends_before_close`), so the producer
  never panics on a closed channel.

The invariant is proved for one step (`ChannelInv.of_step`) from the inversion
lemmas of `KeyIterator.Machine`, and for every reachable state from it.
-/

namespace ZeroStor

namespace KeyIterator

/-- The channel discipline. -/
structure ChannelInv (s : State) : Prop where
  delivered : receives s.trace ++ s.buffer.toList = sends s.trace
  closed_returned : s.closed = true → s.producer = .returned
  close_count : s.trace.count .close = if s.closed then 1 else 0
  sends_before_close : sends (after .close s.trace) = []
  consumer_done : s.consumerDone = true → s.closed = true ∧ s.buffer = none
  not_panicked : s.producer ≠ .panicked

theorem ChannelInv.start (st : KeyStream) : ChannelInv (init st) where
  delivered := rfl
  closed_returned := nofun
  close_count := rfl
  sends_before_close := rfl
  consumer_done := nofun
  not_panicked := nofun

section Step

variable {s s' : State}

theorem ChannelInv.open_of_running (hi : ChannelInv s) (hp : s.producer ≠ .returned) :
    s.closed = false :=
  Bool.eq_false_iff.mpr fun hc => hp (hi.closed_returned hc)

theorem ChannelInv.close_not_mem (hi : ChannelInv s) (hc : s.closed = false) :
    Event.close ∉ s.trace := by
  have := hi.close_count
  rw [hc] at this
  exact List.count_eq_zero.mp this

/-- A step that leaves the buffer, the closing and the consumer alone, and logs
neither a send, a receive nor a close, keeps the invariant. -/
theorem ChannelInv.of_frame (hi : ChannelInv s) (l : List Event)
    (htrace : s'.trace = s.trace ++ l) (hl : sends l = [] ∧ receives l = [] ∧ .close ∉ l)
    (hbuf : s'.buffer = s.buffer) (hclosed : s'.closed = s.closed)
    (hdone : s'.consumerDone = s.consumerDone)
    (hret : s'.closed = true → s'.producer = .returned) (hp : s'.producer ≠ .panicked) :
    ChannelInv s' where
  delivered := by simp [htrace, hbuf, hl.1, hl.2.1, hi.delivered]
  closed_returned := hret
  close_count := by
    rw [htrace, List.count_append, List.count_eq_zero_of_not_mem hl.2.2, hclosed, hi.close_count,
      Nat.add_zero]
  sends_before_close := by
    rw [htrace, after_append, after_eq_nil_of_not_mem hl.2.2]
    split <;> simp [hi.sends_before_close, hl.1]
  consumer_done := by rw [hdone, hbuf, hclosed]; exact hi.consumer_done
  not_panicked := hp

/-- A send into the free buffer of the open channel keeps the invariant. -/
theorem ChannelInv.of_put (hi : ChannelInv s) {r : ObjectKeyResult}
    (hc : s.closed = false) (hb : s.buffer = none)
    (htrace : s'.trace = s.trace ++ [.send r]) (hbuf : s'.buffer = some r)
    (hclosed : s'.closed = false) (hdone : s'.consumerDone = s.consumerDone)
    (hp : s'.producer ≠ .panicked) : ChannelInv s' where
  delivered := by
    have := hi.delivered
    rw [hb, Option.toList_none, List.append_nil] at this
    rw [htrace, hbuf, receives_append, sends_append, ← this]
    simp [receives, sends]
  closed_returned := by simp [hclosed]
  close_count := by
    rw [htrace, hclosed, List.count_append, List.count_eq_zero_of_not_mem (hi.close_not_mem hc)]
    rfl
  sends_before_close := by
    rw [htrace, after_append, if_neg (hi.close_not_mem hc)]
    rfl
  consumer_done := by
    rw [hdone]
    intro hd
    simp [(hi.consumer_done hd).1] at hc
  not_panicked := hp

variable {rpcError : GoError → Option GoError}

theorem ChannelInv.of_producerStep (hi : ChannelInv s) (h : producerStep rpcError s = some s') :
    ChannelInv s' := by
  have hopen : ∀ p, s.producer = p → p ≠ .returned → s.closed = false :=
    fun p hp hne => hi.open_of_running (hp ▸ hne)
  rcases producerStep_cases h with ⟨hp, -, rfl⟩ | ⟨hp, -, rfl⟩ | ⟨hp, rfl⟩ | ⟨e, hp, rfl⟩ |
    ⟨hp, hc, rfl⟩ | ⟨e, hp, hc, hb, rfl⟩ | ⟨r, hp, hc, hb, rfl⟩
  · exact hi.of_frame [] (by simp) (by simp) rfl rfl rfl (fun _ => rfl) nofun
  · exact hi.of_frame [] (by simp) (by simp) rfl rfl rfl
      (by simp [hopen _ hp nofun]) nofun
  · refine hi.of_frame [.recv s.stream.recv] rfl (by simp) rfl rfl rfl
      (by simp [hopen _ hp nofun]) ?_
    simp only [State.onRecv_producer, afterRecv]
    split <;> nofun
  · exact hi.of_frame [] (by simp) (by simp) rfl rfl rfl
      (by simp [hopen _ hp nofun]) nofun
  · have := hi.closed_returned hc
    simp [this, Producer.isSending] at hp
  · exact hi.of_put hc hb rfl rfl hc rfl nofun
  · split
    · exact hi.of_put hc hb rfl rfl hc rfl nofun
    · exact hi.of_put hc hb rfl rfl hc rfl nofun

theorem ChannelInv.of_producerDoneStep (hi : ChannelInv s) (h : producerDoneStep s = some s') :
    ChannelInv s' := by
  obtain ⟨-, ⟨hp, err, -, rfl⟩ | ⟨e, hp, rfl⟩ | ⟨r, hp, rfl⟩⟩ := producerDoneStep_cases h
  · exact hi.of_frame [.recv (.error (contextStatus err))] rfl (by simp) rfl rfl
      rfl (by simp [hi.open_of_running (hp ▸ nofun)]) (by simp)
  · exact hi.of_frame [] (by simp) (by simp) rfl rfl rfl (fun _ => rfl) nofun
  · exact hi.of_frame [] (by simp) (by simp) rfl rfl rfl (fun _ => rfl) nofun

theorem ChannelInv.of_closerStep (hi : ChannelInv s) (h : closerStep s = some s') :
    ChannelInv s' := by
  obtain ⟨hp, hc, rfl⟩ := closerStep_eq h
  have hnot := hi.close_not_mem hc
  refine ⟨?_, fun _ => hp, ?_, ?_, ?_, hp ▸ nofun⟩
  · simpa [sends, receives] using hi.delivered
  · simp [List.count_append, List.count_eq_zero_of_not_mem hnot]
  · simp [after_append, hnot, after]
  · intro hd
    simp [(hi.consumer_done hd).1] at hc

theorem ChannelInv.of_consumerStep (hi : ChannelInv s) (h : consumerStep s = some s') :
    ChannelInv s' := by
  obtain ⟨hd, ⟨r, hb, rfl⟩ | ⟨hb, hc, rfl⟩⟩ := consumerStep_cases h
  · have := hi.delivered
    rw [hb] at this
    refine ⟨by simpa [receives, sends] using this, hi.closed_returned, ?_, ?_, by simp [hd],
      hi.not_panicked⟩
    · simp [List.count_append, hi.close_count]
    · rw [after_append]
      split
      · rw [sends_append, hi.sends_before_close]; rfl
      · rfl
  · exact ⟨by simpa [hb] using hi.delivered, hi.closed_returned, hi.close_count,
      hi.sends_before_close, fun _ => ⟨hc, hb⟩, hi.not_panicked⟩

theorem ChannelInv.of_cancelStep {err : GoError} (hi : ChannelInv s) (h : cancelStep err s = some s') :
    ChannelInv s' := by
  obtain ⟨-, rfl⟩ := cancelStep_eq h
  exact hi.of_frame [.cancel] rfl (by simp) rfl rfl rfl
    hi.closed_returned hi.not_panicked

/-- One step keeps the channel discipline. -/
theorem ChannelInv.of_step (hi : ChannelInv s) {a : Action} (h : step rpcError s a = some s') :
    ChannelInv s' := by
  cases a with
  | producer => exact hi.of_producerStep h
  | producerDone => exact hi.of_producerDoneStep h
  | closer => exact hi.of_closerStep h
  | consumer => exact hi.of_consumerStep h
  | cancel _ => exact hi.of_cancelStep h

/-- Every reachable state keeps the channel discipline. -/
theorem ChannelInv.reachable {st : KeyStream} (h : Reachable rpcError (init st) s) :
    ChannelInv s :=
  h.rec_inv ChannelInv (ChannelInv.start st) fun _ _ _ hi hs => hi.of_step hs

end Step

end KeyIterator

end ZeroStor
