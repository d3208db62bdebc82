import ZeroStor.KeyIterator.Channel

/-!
# ZeroStor.KeyIterator.Progress

Every run of `ListObjectKeyIterator`'s goroutines completes, under every
schedule and whether or not the caller cancels:

* every action lowers `measure`, so no schedule is longer than
  `8 · #keys + 8` (`run_length_le`, `measure_init`);
* no reachable state is stuck short of the end: while the consumer has not
  seen the channel closed, one of the goroutines can move
  (`ChannelInv.some_enabled`), and a state where none can has the producer
  returned, the channel closed once and drained (`ChannelInv.done_of_quiescent`).

Completion is the two together: a maximal schedule is finite and ends in a
done state, with no fairness assumption.
-/

namespace ZeroStor

namespace KeyIterator

/-- The producer's remaining steps in the current turn of its loop, a sent
result counted once more for the consumer's receive. -/
def Producer.rank : Producer → Nat
  | .loop => 5
  | .recv => 4
  | .recvErr _ => 3
  | .sendErr _ => 2
  | .send _ => 7
  | .returned | .panicked => 0

/-- An upper bound on the actions still possible: eight per key left in the
stream, the producer's rank, and one for the buffered result, the close, the
consumer's last receive and the caller's cancel each. -/
def measure (s : State) : Nat :=
  8 * s.stream.keys.length + s.producer.rank + s.buffer.toList.length +
    (if s.closed then 0 else 1) + (if s.consumerDone then 0 else 1) +
    (if s.cancelled then 0 else 1)

section Measure

variable {rpcError : GoError → Option GoError} {s s' : State}

theorem measure_recv_lt (hp : s.producer = .recv) :
    measure ({ s with stream := s.stream.next }.onRecv s.stream.recv) < measure s := by
  rcases hst : s.stream with ⟨_ | ⟨k, ks⟩, last⟩
  · have : (afterRecv (.error last)).rank < Producer.recv.rank := by
      cases last <;> simp [afterRecv, Producer.rank]
    simp only [measure, State.onRecv, hst, KeyStream.next, KeyStream.recv, hp]
    omega
  · simp only [measure, State.onRecv, hst, KeyStream.next, KeyStream.recv, afterRecv, hp,
      Producer.rank, List.length_cons]
    omega

theorem measure_producerStep (h : producerStep rpcError s = some s') :
    measure s' < measure s := by
  rcases producerStep_cases h with ⟨hp, -, rfl⟩ | ⟨hp, -, rfl⟩ | ⟨hp, rfl⟩ | ⟨e, hp, rfl⟩ |
    ⟨hp, hc, rfl⟩ | ⟨e, hp, hc, hb, rfl⟩ | ⟨r, hp, hc, hb, rfl⟩
  · simp only [measure, State.ret, Producer.rank, hp]; omega
  · simp only [measure, Producer.rank, hp]; omega
  · exact measure_recv_lt hp
  · simp only [measure, Producer.rank, hp]; omega
  · have : 0 < s.producer.rank := by
      cases hq : s.producer <;> simp_all [Producer.isSending, Producer.rank]
    have : Producer.panicked.rank = 0 := rfl
    simp only [measure]
    omega
  · simp only [measure, State.put, State.ret, Producer.rank, hp, hb]; simp
  · split <;> simp only [measure, State.put, State.ret, Producer.rank, hp, hb] <;> simp

theorem measure_step {a : Action} (h : step rpcError s a = some s') : measure s' < measure s := by
  cases a with
  | producer => exact measure_producerStep h
  | producerDone =>
    obtain ⟨-, ⟨hp, _, -, rfl⟩ | ⟨e, hp, rfl⟩ | ⟨r, hp, rfl⟩⟩ := producerDoneStep_cases h <;>
      simp only [measure, State.onRecv, State.ret, afterRecv_contextStatus, Producer.rank, hp] <;>
      omega
  | closer =>
    obtain ⟨-, hc, rfl⟩ := closerStep_eq h
    simp only [measure, hc]; simp
  | consumer =>
    obtain ⟨hd, ⟨r, hb, rfl⟩ | ⟨hb, hc, rfl⟩⟩ := consumerStep_cases h <;>
      simp [measure, hd, hb]
  | cancel _ =>
    obtain ⟨hc, rfl⟩ := cancelStep_eq h
    simp only [measure, hc]; simp

/-- Every action lowers the measure, so a schedule is no longer than the
measure of the state it starts from. -/
theorem run_length_le {acts : List Action} (h : run rpcError s acts = some s') :
    acts.length + measure s' ≤ measure s := by
  induction acts generalizing s with
  | nil => cases h; simp
  | cons a acts ih =>
    simp only [run, Option.bind_eq_some] at h
    obtain ⟨u, hu, hrun⟩ := h
    have := ih hrun
    have := measure_step hu
    simp only [List.length_cons]
    omega

theorem measure_init (st : KeyStream) : measure (init st) = 8 * st.keys.length + 8 := by
  simp [measure, init, Producer.rank]

end Measure

/-! ## No run gets stuck -/

/-- No goroutine can move: only the caller could still act. -/
def Quiescent (rpcError : GoError → Option GoError) (s : State) : Prop :=
  ∀ a, a.isCancel = false → step rpcError s a = none

section Enabled

variable {rpcError : GoError → Option GoError} {s : State}

/-- While the consumer has not seen the channel closed, some goroutine can move. -/
theorem ChannelInv.some_enabled (rpcError : GoError → Option GoError) (hi : ChannelInv s) (hd : s.consumerDone = false) :
    ∃ a, a.isCancel = false ∧ KeyIterator.step rpcError s a ≠ none := by
  have hcons : s.buffer ≠ none ∨ s.closed = true → KeyIterator.step rpcError s .consumer ≠ none := by
    intro h
    cases hb : s.buffer <;> cases hc : s.closed <;> simp_all [step, consumerStep]
  cases hp : s.producer with
  | loop => exact ⟨.producer, rfl, by simp [step, producerStep, hp]⟩
  | recv => exact ⟨.producer, rfl, by simp [step, producerStep, hp]⟩
  | recvErr e => exact ⟨.producer, rfl, by simp [step, producerStep, hp]⟩
  | sendErr e | send r =>
    have hc := hi.open_of_running (by simp [hp])
    cases hb : s.buffer with
    | none => exact ⟨.producer, rfl, by simp [step, producerStep, hp, State.push, hc, hb]⟩
    | some r' => exact ⟨.consumer, rfl, hcons (.inl (by simp [hb]))⟩
  | returned =>
    cases hc : s.closed with
    | false => exact ⟨.closer, rfl, by simp [step, closerStep, hp, hc]⟩
    | true => exact ⟨.consumer, rfl, hcons (.inr hc)⟩
  | panicked => exact absurd hp hi.not_panicked

/-- A state where no goroutine can move is done: the producer has returned,
the channel is closed and drained, and the consumer has seen it closed. -/
theorem ChannelInv.done_of_quiescent (hi : ChannelInv s) (hq : Quiescent rpcError s) :
    s.consumerDone = true ∧ s.closed = true ∧ s.buffer = none ∧ s.producer = .returned := by
  cases hd : s.consumerDone
  · obtain ⟨a, ha, hs⟩ := hi.some_enabled rpcError hd
    exact absurd (hq a ha) hs
  · obtain ⟨hc, hb⟩ := hi.consumer_done hd
    exact ⟨rfl, hc, hb, hi.closed_returned hc⟩

end Enabled

end KeyIterator

end ZeroStor
