import ZeroStor.KeyIterator.Listing

/-!
# ZeroStor.KeyIterator.Phase

The listing in the words of its interface: a stream that is open, then
draining once the caller cancels or the stream ends, then closed once its
last message is delivered; closed is terminal.

`PhaseStep` is that three-state machine, and `phase` reads its state off the
goroutines of `KeyIterator.Machine`. `phase_step` shows that they refine it:
from every reachable state, each step of the goroutines is a step of
`PhaseStep`; leaving the open phase is the caller's cancel or a `Recv` that
ended the stream; the closed phase has the channel closed and drained; and
in it only the caller can still act.
-/

namespace ZeroStor

namespace KeyIterator

/-- The states of a listing as its interface names them. -/
inductive Phase
  | opened | draining | closed
  deriving DecidableEq, Repr

/-- The transitions the interface allows. -/
inductive PhaseStep : Phase → Phase → Prop
  | stay (p : Phase) : PhaseStep p p
  | drain : PhaseStep .opened .draining
  | close : PhaseStep .draining .closed

/-- The producer has stopped reading the stream: it handles the error that
ended it, sends its last result, or has returned. -/
def Producer.finished : Producer → Bool
  | .loop | .recv => false
  | .send r => r.error.isSome
  | .recvErr _ | .sendErr _ | .returned | .panicked => true

/-- The caller has cancelled, or the producer has stopped reading the stream. -/
def drained (s : State) : Bool := s.cancelled || s.producer.finished

/-- The phase of the listing in state `s`. -/
def phase (s : State) : Phase :=
  if s.consumerDone then .closed
  else if drained s then .draining
  else .opened

theorem phase_eq_closed {s : State} : phase s = .closed ↔ s.consumerDone = true := by
  unfold phase; split_ifs <;> simp_all

theorem phase_eq_draining {s : State} :
    phase s = .draining ↔ s.consumerDone = false ∧ drained s = true := by
  unfold phase; split_ifs <;> simp_all

theorem phase_eq_opened {s : State} :
    phase s = .opened ↔ s.consumerDone = false ∧ drained s = false := by
  unfold phase; split_ifs <;> simp_all

section Refinement

variable {rpcError : GoError → Option GoError} {s s' : State}

/-- A step that never undoes the consumer's end nor the draining, and ends the
consumer only once draining, is a step of the interface. -/
theorem phaseStep_of (hdone : s.consumerDone = true → s'.consumerDone = true)
    (hdrained : drained s = true → drained s' = true)
    (hclose : s'.consumerDone = true → s.consumerDone = true ∨ drained s = true) :
    PhaseStep (phase s) (phase s') := by
  unfold phase
  cases hc : s.consumerDone <;> cases hc' : s'.consumerDone <;> cases hd : drained s <;>
    cases hd' : drained s' <;> simp_all <;> constructor

/-- A `Recv` stops the producer reading exactly when it ends the stream: an
error, `io.EOF` included, or an empty key. -/
theorem finished_afterRecv (r : Except GoError Bytes) :
    (afterRecv r).finished = true ↔ ∀ k, r = .ok k → k = [] := by
  rcases r with e | k
  · by_cases he : e = .eof
    · simp [he, Producer.finished]
    · simp [afterRecv_error he, Producer.finished]
  · cases k <;> simp [Producer.finished, keyResult]

/-- Only the consumer's last receive ends the consumer, on a closed and drained
channel. -/
theorem consumerDone_step {a : Action} (h : step rpcError s a = some s') :
    s'.consumerDone = s.consumerDone ∨
      (a = .consumer ∧ s.buffer = none ∧ s.closed = true ∧ s'.consumerDone = true) := by
  cases a with
  | producer =>
    left
    rcases producerStep_cases h with ⟨-, -, rfl⟩ | ⟨-, -, rfl⟩ | ⟨-, rfl⟩ | ⟨_, -, rfl⟩ |
      ⟨-, -, rfl⟩ | ⟨_, -, -, -, rfl⟩ | ⟨r, -, -, -, rfl⟩
    all_goals try split
    all_goals rfl
  | producerDone =>
    left
    obtain ⟨-, ⟨-, _, -, rfl⟩ | ⟨_, -, rfl⟩ | ⟨_, -, rfl⟩⟩ := producerDoneStep_cases h <;> rfl
  | closer => obtain ⟨-, -, rfl⟩ := closerStep_eq h; exact .inl rfl
  | consumer =>
    obtain ⟨-, ⟨_, -, rfl⟩ | ⟨hb, hc, rfl⟩⟩ := consumerStep_cases h
    · exact .inl rfl
    · exact .inr ⟨rfl, hb, hc, rfl⟩
  | cancel _ => obtain ⟨-, rfl⟩ := cancelStep_eq h; exact .inl rfl

/-- Draining never stops, and it starts only with the caller's cancel or a
`Recv` that ended the stream. -/
theorem drained_step (hch : ChannelInv s) (hctx : CtxInv s) {a : Action}
    (h : step rpcError s a = some s') :
    (drained s = true → drained s' = true) ∧
    (drained s' = true → drained s = true ∨ a.isCancel = true ∨
      (a = .producer ∧ s.producer = .recv ∧ ∀ k, s.stream.recv = .ok k → k = [])) := by
  have hdone : s.ctxErr ≠ none → drained s = true := fun hd => by
    rcases hctx.done_by hd with hc | hp
    · simp [drained, hc]
    · simp [drained, hp, Producer.finished]
  cases a with
  | producer =>
    rcases producerStep_cases h with ⟨hp, hd, rfl⟩ | ⟨hp, -, rfl⟩ | ⟨hp, rfl⟩ | ⟨e, hp, rfl⟩ |
      ⟨hp, hc, rfl⟩ | ⟨e, hp, -, -, rfl⟩ | ⟨r, hp, -, -, rfl⟩
    · exact ⟨fun _ => by simp [drained, Producer.finished], fun _ => .inl (hdone hd)⟩
    · simp [drained, Producer.finished, Action.isCancel, hp]
    · -- `stream.Recv()`
      refine ⟨fun hd => ?_, fun hd => ?_⟩
      · simp only [drained, hp, Producer.finished, Bool.or_false] at hd
        simp [drained, hd]
      simp only [drained, State.onRecv_cancelled, State.onRecv_producer, Bool.or_eq_true] at hd
      rcases hd with hc | hk
      · exact .inl (by simp [drained, hc])
      · exact .inr (.inr ⟨rfl, hp, (finished_afterRecv _).mp hk⟩)
    · simp [drained, Producer.finished, hp]
    · exact absurd (hch.closed_returned hc) fun hr => by simp [hr, Producer.isSending] at hp
    · simp [drained, Producer.finished, hp]
    · split <;> simp_all [drained, Producer.finished, Action.isCancel]
  | producerDone =>
    obtain ⟨hd, ⟨-, _, -, rfl⟩ | ⟨_, -, rfl⟩ | ⟨_, -, rfl⟩⟩ := producerDoneStep_cases h <;>
      exact ⟨fun _ => by simp [drained, Producer.finished],
        fun _ => .inl (hdone hd)⟩
  | closer =>
    obtain ⟨hp, -, rfl⟩ := closerStep_eq h
    simp [drained, Producer.finished, hp]
  | consumer =>
    obtain ⟨-, ⟨_, -, rfl⟩ | ⟨-, -, rfl⟩⟩ := consumerStep_cases h <;>
      simp [drained, Action.isCancel]
  | cancel _ =>
    obtain ⟨-, rfl⟩ := cancelStep_eq h
    simp [drained, Action.isCancel]

/-- The goroutines refine the interface's machine. From every reachable state,
each step is a step of `PhaseStep`; the open phase ends only with the caller's
cancel or a `Recv` that ended the stream (an error, `io.EOF` included, or an
empty key); in the closed phase the channel is closed and drained, and only
the caller can still act. -/
theorem phase_step {st : KeyStream} (hr : Reachable rpcError (init st) s) {a : Action}
    (h : step rpcError s a = some s') :
    PhaseStep (phase s) (phase s') ∧
    (phase s = .opened → phase s' = .draining → a.isCancel = true ∨
      (a = .producer ∧ s.producer = .recv ∧ ∀ k, s.stream.recv = .ok k → k = [])) ∧
    (phase s' = .closed → s'.closed = true ∧ s'.buffer = none) ∧
    (phase s = .closed → a.isCancel = true) := by
  have hch := ChannelInv.reachable hr
  obtain ⟨hmono, hstart⟩ := drained_step hch (CtxInv.reachable hr) h
  have hdone := consumerDone_step h
  refine ⟨phaseStep_of ?_ hmono ?_, fun ho hd => ?_, fun hc => ?_, fun hc => ?_⟩
  · rcases hdone with he | ⟨-, -, -, h'⟩
    · exact fun hcd => he ▸ hcd
    · exact fun _ => h'
  · rcases hdone with he | ⟨-, -, hcl, -⟩
    · exact fun hcd => .inl (he ▸ hcd)
    · exact fun _ => .inr (by simp [drained, hch.closed_returned hcl, Producer.finished])
  · -- leaving the open phase
    exact (hstart (phase_eq_draining.mp hd).2).resolve_left (by simp [(phase_eq_opened.mp ho).2])
  · exact (ChannelInv.reachable (hr.tail a h)).consumer_done (phase_eq_closed.mp hc)
  · -- in the closed phase every goroutine has stopped
    have hcd := phase_eq_closed.mp hc
    obtain ⟨hcl, -⟩ := hch.consumer_done hcd
    have hp := hch.closed_returned hcl
    cases a with
    | producer => simp [step, producerStep, hp] at h
    | producerDone =>
      obtain ⟨-, ⟨hp', -⟩ | ⟨_, hp', -⟩ | ⟨_, hp', -⟩⟩ := producerDoneStep_cases h <;>
        simp [hp] at hp'
    | closer => simp [(closerStep_eq h).2.1] at hcl
    | consumer => simp [(consumerStep_cases h).1] at hcd
    | cancel _ => rfl

end Refinement

/-- A listing cancelled before any goroutine moved: from open to draining. -/
theorem phase_step_cancel_at_start :
    ∃ s', step (fun e => some e) (init ⟨[[1]], .eof⟩) (.cancel .canceled) = some s' ∧
      Reachable (fun e => some e) (init ⟨[[1]], .eof⟩) (init ⟨[[1]], .eof⟩) ∧
      PhaseStep (phase (init ⟨[[1]], .eof⟩)) (phase s') ∧
      (phase (init ⟨[[1]], .eof⟩) = .opened → phase s' = .draining →
        (Action.cancel .canceled).isCancel = true ∨
        (Action.cancel .canceled = .producer ∧ (init ⟨[[1]], .eof⟩).producer = .recv ∧
          ∀ k, (init ⟨[[1]], .eof⟩).stream.recv = .ok k → k = [])) ∧
      (phase s' = .closed → s'.closed = true ∧ s'.buffer = none) ∧
      (phase (init ⟨[[1]], .eof⟩) = .closed → (Action.cancel .canceled).isCancel = true) :=
  ⟨_, rfl, .refl, @phase_step (fun e => some e) _ _ _ .refl _ rfl⟩

end KeyIterator

end ZeroStor
