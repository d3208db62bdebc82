import ZeroStor.Basic

/-!
# ZeroStor.KeyIterator.Machine

The goroutines `Client.ListObjectKeyIterator` starts, as one labelled
transition system:

* the **producer** passed to `group.Go`: a loop that checks `ctx.Done()`,
  calls `stream.Recv()`, and sends each result on `ch` in a
  `select` against `ctx.Done()`;
* the **closer**: `group.Wait()`, then the deferred `close(ch)`;
* a **consumer** ranging over `ch` until it is closed;
* the **caller**, whose context may be cancelled, or pass its deadline, at any
  time.

`ch` has a buffer of one. `ctx` is the context `errgroup.WithContext` derived
from the caller's: it is done once the caller cancels, once the producer
returns a non-nil error, or once `Wait` returns.

A schedule is a list of `Action`s; a `select` with both cases ready is resolved
by which of `producer` (the send case) and `producerDone` (the `ctx.Done()`
case) the schedule takes, so every interleaving and every choice Go's runtime
may make is some schedule. A `stream.Recv` in flight when `ctx` is done may
also fail with the status of the context's error (`producerDone` at `recv`).

The state keeps the history of everything observable as a `trace`; the
properties of `KeyIterator.Listing` and `KeyIterator.Cancel` are stated on it.
-/

namespace ZeroStor

/-- `datastor.ObjectKeyResult`: a listed key, or the error that ended the listing. -/
structure ObjectKeyResult where
  key : Bytes := []
  error : Option GoError := none
  deriving DecidableEq, Repr

/-- What `stream.Recv()` returns, call after call: the keys the server sends,
then the error that ends the stream (`io.EOF` for a clean end). -/
structure KeyStream where
  keys : List Bytes
  last : GoError
  deriving DecidableEq, Repr

namespace KeyStream

/-- The outcome of the next `Recv`. -/
def recv : KeyStream → Except GoError Bytes
  | ⟨k :: _, _⟩ => .ok k
  | ⟨[], last⟩ => .error last

/-- The stream after one more `Recv`; it stays at its error once it gets there. -/
def next : KeyStream → KeyStream
  | ⟨_ :: ks, last⟩ => ⟨ks, last⟩
  | st => st

end KeyStream

/-- The error a `Recv` in flight fails with once the stream's context is done
with `err`: gRPC's status for the context's error, `DeadlineExceeded` once a
deadline has passed and `Canceled` otherwise. -/
def contextStatus : GoError → GoError
  | .deadlineExceeded => .status .deadlineExceeded "context deadline exceeded"
  | _ => .status .canceled "context canceled"

@[simp] theorem contextStatus_ne_eof (err : GoError) : contextStatus err ≠ .eof := by
  cases err <;> simp [contextStatus]

/-- The result the producer builds from a received key:
`ObjectKeyResult{Key: key}`, with `ErrMissingKey` when the key is empty. -/
def keyResult (k : Bytes) : ObjectKeyResult :=
  ⟨k, if k.isEmpty then some (.datastor .missingKey) else none⟩

namespace KeyIterator

/-- Outcomes of `Recv` are compared constructor by constructor. -/
instance decEqRecvOutcome : DecidableEq (Except GoError Bytes)
  | .error a, .error b =>
    if h : a = b then isTrue (h ▸ rfl) else isFalse fun h' => h (Except.error.inj h')
  | .ok a, .ok b =>
    if h : a = b then isTrue (h ▸ rfl) else isFalse fun h' => h (Except.ok.inj h')
  | .error _, .ok _ => isFalse nofun
  | .ok _, .error _ => isFalse nofun

/-- Where the producer goroutine is. -/
inductive Producer
  /-- at the top of the `for` loop, before the non-blocking check of `ctx.Done()` -/
  | loop
  /-- about to call `stream.Recv()` -/
  | recv
  /-- `Recv` failed with `err`, not `io.EOF`: about to call `toContextErr` -/
  | recvErr (err : GoError)
  /-- in `select { case ch <- ObjectKeyResult{Error: err}: case <-ctx.Done(): }` -/
  | sendErr (err : Option GoError)
  /-- in `select { case ch <- result: case <-ctx.Done(): return result.Error }` -/
  | send (result : ObjectKeyResult)
  /-- returned from the function given to `group.Go` -/
  | returned
  /-- panicked on a send to the closed channel -/
  | panicked
  deriving DecidableEq, Repr

/-- What the goroutines and the caller do, in the order they do it. -/
inductive Event
  /-- a `stream.Recv()` completed -/
  | recv (r : Except GoError Bytes)
  /-- `ch <- r` -/
  | send (r : ObjectKeyResult)
  /-- `close(ch)` -/
  | close
  /-- the caller cancelled its context -/
  | cancel
  /-- the consumer received `r` from `ch` -/
  | receive (r : ObjectKeyResult)
  deriving DecidableEq, Repr

/-- The goroutines, the channel and the derived context. -/
structure State where
  /-- what `stream.Recv()` has still to return -/
  stream : KeyStream
  producer : Producer
  /-- `ctx.Err()` of the derived context -/
  ctxErr : Option GoError
  /-- the buffer of `ch`, of capacity one -/
  buffer : Option ObjectKeyResult
  closed : Bool
  /-- the consumer's `range` loop has ended -/
  consumerDone : Bool
  /-- the caller has cancelled its context -/
  cancelled : Bool
  trace : List Event
  deriving DecidableEq, Repr

/-- Who moves next. -/
inductive Action
  /-- the producer's next step; in a `select`, its send case -/
  | producer
  /-- the producer's `select` takes its `<-ctx.Done()` case, or its `Recv` in
  flight fails with the cancellation -/
  | producerDone
  | closer
  | consumer
  /-- the caller's context is done with `err`: `context.Canceled` when the
  caller cancels it, `context.DeadlineExceeded` when its deadline passes -/
  | cancel (err : GoError)
  deriving DecidableEq, Repr

/-- The action is the caller's, not a goroutine's. -/
def Action.isCancel : Action → Bool
  | .cancel _ => true
  | _ => false

/-- The state right after `ListObjectKeyIterator` returns the channel. -/
def init (st : KeyStream) : State :=
  { stream := st, producer := .loop, ctxErr := none, buffer := none, closed := false,
    consumerDone := false, cancelled := false, trace := [] }

/-- Where the loop goes once `stream.Recv()` returned `r`: `io.EOF` returns nil,
another error goes to `toContextErr`, a key becomes a result to send. -/
def afterRecv : Except GoError Bytes → Producer
  | .error .eof => .returned
  | .error err => .recvErr err
  | .ok k => .send (keyResult k)

@[simp] theorem afterRecv_eof : afterRecv (.error .eof) = .returned := rfl

@[simp] theorem afterRecv_ok (k : Bytes) : afterRecv (.ok k) = .send (keyResult k) := rfl

theorem afterRecv_error {e : GoError} (h : e ≠ .eof) : afterRecv (.error e) = .recvErr e := by
  cases e <;> first | rfl | exact absurd rfl h

@[simp] theorem afterRecv_contextStatus (err : GoError) :
    afterRecv (.error (contextStatus err)) = .recvErr (contextStatus err) :=
  afterRecv_error (contextStatus_ne_eof err)

/-- The producer is in a `select` that sends on `ch`. -/
def Producer.isSending : Producer → Bool
  | .sendErr _ | .send _ => true
  | _ => false

namespace State

/-- The producer returns `err`; errgroup records a non-nil error and cancels `ctx`. -/
def ret (s : State) (err : Option GoError) : State :=
  { s with producer := .returned,
           ctxErr := if err.isSome then some (s.ctxErr.getD .canceled) else s.ctxErr }

/-- `ch <- r` when the buffer is free. -/
def put (s : State) (r : ObjectKeyResult) : State :=
  { s with buffer := some r, trace := s.trace ++ [.send r] }

/-- The send case of a `select`: a closed channel panics, a free buffer takes `r`
and the goroutine goes on with `k`, a full buffer blocks. -/
def push (s : State) (r : ObjectKeyResult) (k : State → State) : Option State :=
  if s.closed then some { s with producer := .panicked }
  else match s.buffer with
    | none => some (k (s.put r))
    | some _ => none

/-- `stream.Recv()` returned `r`. -/
def onRecv (s : State) (r : Except GoError Bytes) : State :=
  { s with producer := afterRecv r, trace := s.trace ++ [.recv r] }

variable (s : State) (err : Option GoError) (r : ObjectKeyResult) (o : Except GoError Bytes)

@[simp] theorem ret_producer : (s.ret err).producer = .returned := rfl
@[simp] theorem ret_stream : (s.ret err).stream = s.stream := rfl
@[simp] theorem ret_buffer : (s.ret err).buffer = s.buffer := rfl
@[simp] theorem ret_closed : (s.ret err).closed = s.closed := rfl
@[simp] theorem ret_consumerDone : (s.ret err).consumerDone = s.consumerDone := rfl
@[simp] theorem ret_cancelled : (s.ret err).cancelled = s.cancelled := rfl
@[simp] theorem ret_trace : (s.ret err).trace = s.trace := rfl

@[simp] theorem put_producer : (s.put r).producer = s.producer := rfl
@[simp] theorem put_stream : (s.put r).stream = s.stream := rfl
@[simp] theorem put_ctxErr : (s.put r).ctxErr = s.ctxErr := rfl
@[simp] theorem put_buffer : (s.put r).buffer = some r := rfl
@[simp] theorem put_closed : (s.put r).closed = s.closed := rfl
@[simp] theorem put_consumerDone : (s.put r).consumerDone = s.consumerDone := rfl
@[simp] theorem put_cancelled : (s.put r).cancelled = s.cancelled := rfl
@[simp] theorem put_trace : (s.put r).trace = s.trace ++ [.send r] := rfl

@[simp] theorem onRecv_producer : (s.onRecv o).producer = afterRecv o := rfl
@[simp] theorem onRecv_stream : (s.onRecv o).stream = s.stream := rfl
@[simp] theorem onRecv_ctxErr : (s.onRecv o).ctxErr = s.ctxErr := rfl
@[simp] theorem onRecv_buffer : (s.onRecv o).buffer = s.buffer := rfl
@[simp] theorem onRecv_closed : (s.onRecv o).closed = s.closed := rfl
@[simp] theorem onRecv_consumerDone : (s.onRecv o).consumerDone = s.consumerDone := rfl
@[simp] theorem onRecv_cancelled : (s.onRecv o).cancelled = s.cancelled := rfl
@[simp] theorem onRecv_trace : (s.onRecv o).trace = s.trace ++ [.recv o] := rfl

end State

section Step

variable (rpcError : GoError → Option GoError)

/-- One step of the producer goroutine; in a `select`, the send case. -/
def producerStep (s : State) : Option State :=
  match s.producer with
  | .loop => some (if s.ctxErr.isSome then s.ret none else { s with producer := .recv })
  | .recv => some ({ s with stream := s.stream.next }.onRecv s.stream.recv)
  | .recvErr err =>
    some { s with producer := .sendErr (toContextErr rpcError ⟨s.ctxErr, []⟩ err) }
  | .sendErr err => s.push ⟨[], err⟩ (·.ret err)
  | .send r => s.push r fun s => if r.error.isSome then s.ret r.error else { s with producer := .loop }
  | .returned | .panicked => none

/-- The producer once `ctx` is done: a `select` takes its `ctx.Done()` case, or
the `Recv` in flight fails with the status of the context's error. -/
def producerDoneStep (s : State) : Option State :=
  match s.ctxErr, s.producer with
  | some err, .recv => some (s.onRecv (.error (contextStatus err)))
  | some _, .sendErr err => some (s.ret err)
  | some _, .send r => some (s.ret r.error)
  | _, _ => none

/-- The closing goroutine: once the producer has returned, `group.Wait()`
cancels `ctx` and returns, and the deferred `close(ch)` runs. -/
def closerStep (s : State) : Option State :=
  match s.producer, s.closed with
  | .returned, false =>
    some { s with ctxErr := some (s.ctxErr.getD .canceled), closed := true,
                  trace := s.trace ++ [.close] }
  | _, _ => none

/-- The consumer's `range ch`: take the buffered result, or end once `ch` is
closed and empty. -/
def consumerStep (s : State) : Option State :=
  match s.consumerDone, s.buffer, s.closed with
  | false, some r, _ => some { s with buffer := none, trace := s.trace ++ [.receive r] }
  | false, none, true => some { s with consumerDone := true }
  | _, _, _ => none

/-- The caller's context is done with `err`, and so is the derived one, unless
it already was. -/
def cancelStep (err : GoError) (s : State) : Option State :=
  if s.cancelled then none
  else some { s with cancelled := true, ctxErr := some (s.ctxErr.getD err),
                     trace := s.trace ++ [.cancel] }

/-- One transition; `none` when the action is not enabled. -/
def step (s : State) : Action → Option State
  | .producer => producerStep rpcError s
  | .producerDone => producerDoneStep s
  | .closer => closerStep s
  | .consumer => consumerStep s
  | .cancel err => cancelStep err s

/-- Run a schedule; `none` if some action of it is not enabled when its turn comes. -/
def run (s : State) : List Action → Option State
  | [] => some s
  | a :: as => (step rpcError s a).bind (run · as)

/-- The states some schedule reaches from `s`. -/
inductive Reachable (s : State) : State → Prop
  | refl : Reachable s s
  | tail {t u : State} (a : Action) : Reachable s t → step rpcError t a = some u → Reachable s u

end Step

/-! ## What each step can do -/

section Cases

variable {rpcError : GoError → Option GoError} {s s' : State}

theorem push_eq_some {r : ObjectKeyResult} {k : State → State} (h : s.push r k = some s') :
    (s.closed = true ∧ s' = { s with producer := .panicked }) ∨
    (s.closed = false ∧ s.buffer = none ∧ s' = k (s.put r)) := by
  unfold State.push at h
  split at h
  · exact .inl ⟨‹_›, (Option.some.inj h).symm⟩
  · split at h
    · exact .inr ⟨Bool.eq_false_iff.mpr ‹_›, ‹_›, (Option.some.inj h).symm⟩
    · cases h

/-- Every step of the producer: the check of `ctx.Done()`, a `Recv`, the
conversion of its error, and the send case of its two `select`s. -/
theorem producerStep_cases (h : producerStep rpcError s = some s') :
    (s.producer = .loop ∧ s.ctxErr ≠ none ∧ s' = s.ret none) ∨
    (s.producer = .loop ∧ s.ctxErr = none ∧ s' = { s with producer := .recv }) ∨
    (s.producer = .recv ∧ s' = { s with stream := s.stream.next }.onRecv s.stream.recv) ∨
    (∃ e, s.producer = .recvErr e ∧
      s' = { s with producer := .sendErr (toContextErr rpcError ⟨s.ctxErr, []⟩ e) }) ∨
    (s.producer.isSending ∧ s.closed = true ∧ s' = { s with producer := .panicked }) ∨
    (∃ e, s.producer = .sendErr e ∧ s.closed = false ∧ s.buffer = none ∧
      s' = (s.put ⟨[], e⟩).ret e) ∨
    (∃ r, s.producer = .send r ∧ s.closed = false ∧ s.buffer = none ∧
      s' = if r.error.isSome then (s.put r).ret r.error else { s.put r with producer := .loop }) := by
  unfold producerStep at h
  split at h
  · rename_i hp
    cases hc : s.ctxErr <;> simp_all
  · exact .inr (.inr (.inl ⟨‹_›, (Option.some.inj h).symm⟩))
  · exact .inr (.inr (.inr (.inl ⟨_, ‹_›, (Option.some.inj h).symm⟩)))
  · rcases push_eq_some h with ⟨hc, rfl⟩ | ⟨hc, hb, rfl⟩
    · exact .inr (.inr (.inr (.inr (.inl ⟨by simp [Producer.isSending, *], hc, rfl⟩))))
    · exact .inr (.inr (.inr (.inr (.inr (.inl ⟨_, ‹_›, hc, hb, rfl⟩)))))
  · rcases push_eq_some h with ⟨hc, rfl⟩ | ⟨hc, hb, rfl⟩
    · exact .inr (.inr (.inr (.inr (.inl ⟨by simp [Producer.isSending, *], hc, rfl⟩))))
    · exact .inr (.inr (.inr (.inr (.inr (.inr ⟨_, ‹_›, hc, hb, rfl⟩)))))
  all_goals cases h

/-- Once `ctx` is done the producer may leave either `select`, and a `Recv` in
flight may fail with the status of the context's error. -/
theorem producerDoneStep_cases (h : producerDoneStep s = some s') :
    s.ctxErr ≠ none ∧
    ((s.producer = .recv ∧ ∃ err, s.ctxErr = some err ∧
        s' = s.onRecv (.error (contextStatus err))) ∨
     (∃ e, s.producer = .sendErr e ∧ s' = s.ret e) ∨
     (∃ r, s.producer = .send r ∧ s' = s.ret r.error)) := by
  unfold producerDoneStep at h
  split at h <;> simp only [Option.some.injEq, reduceCtorEq] at h
  all_goals simp_all

theorem closerStep_eq (h : closerStep s = some s') :
    s.producer = .returned ∧ s.closed = false ∧
    s' = { s with ctxErr := some (s.ctxErr.getD .canceled), closed := true,
                  trace := s.trace ++ [.close] } := by
  unfold closerStep at h
  split at h
  · exact ⟨‹_›, ‹_›, (Option.some.inj h).symm⟩
  · cases h

theorem consumerStep_cases (h : consumerStep s = some s') :
    s.consumerDone = false ∧
    ((∃ r, s.buffer = some r ∧ s' = { s with buffer := none, trace := s.trace ++ [.receive r] }) ∨
     (s.buffer = none ∧ s.closed = true ∧ s' = { s with consumerDone := true })) := by
  unfold consumerStep at h
  split at h <;> simp only [Option.some.injEq, reduceCtorEq] at h
  all_goals simp_all

theorem cancelStep_eq {err : GoError} (h : cancelStep err s = some s') :
    s.cancelled = false ∧
    s' = { s with cancelled := true, ctxErr := some (s.ctxErr.getD err),
                  trace := s.trace ++ [.cancel] } := by
  unfold cancelStep at h
  split at h
  · cases h
  · exact ⟨Bool.eq_false_iff.mpr ‹_›, (Option.some.inj h).symm⟩

end Cases

/-! ## Reading the trace -/

/-- The results sent on `ch`, in order. -/
def sends (t : List Event) : List ObjectKeyResult :=
  t.filterMap fun | .send r => some r | _ => none

/-- The results the consumer received, in order. -/
def receives (t : List Event) : List ObjectKeyResult :=
  t.filterMap fun | .receive r => some r | _ => none

/-- The completed `Recv`s, in order. -/
def recvs (t : List Event) : List (Except GoError Bytes) :=
  t.filterMap fun | .recv r => some r | _ => none

/-- The events after the first `e`; none if `e` never happened. -/
def after (e : Event) : List Event → List Event
  | [] => []
  | x :: t => if x = e then t else after e t

@[simp] theorem sends_nil : sends [] = [] := rfl
@[simp] theorem receives_nil : receives [] = [] := rfl
@[simp] theorem recvs_nil : recvs [] = [] := rfl

@[simp] theorem sends_singleton (e : Event) :
    sends [e] = match e with | .send r => [r] | _ => [] := by
  cases e <;> rfl

@[simp] theorem receives_singleton (e : Event) :
    receives [e] = match e with | .receive r => [r] | _ => [] := by
  cases e <;> rfl

@[simp] theorem recvs_singleton (e : Event) :
    recvs [e] = match e with | .recv r => [r] | _ => [] := by
  cases e <;> rfl

@[simp] theorem sends_append (t u : List Event) : sends (t ++ u) = sends t ++ sends u :=
  List.filterMap_append ..

@[simp] theorem receives_append (t u : List Event) :
    receives (t ++ u) = receives t ++ receives u :=
  List.filterMap_append ..

@[simp] theorem recvs_append (t u : List Event) : recvs (t ++ u) = recvs t ++ recvs u :=
  List.filterMap_append ..

theorem after_cons (e x : Event) (t : List Event) :
    after e (x :: t) = if x = e then t else after e t := rfl

/-- What follows `e` in a longer history: the new events, once `e` has happened. -/
theorem after_append (e : Event) (t l : List Event) :
    after e (t ++ l) = if e ∈ t then after e t ++ l else after e l := by
  induction t with
  | nil => simp
  | cons y t ih =>
    by_cases hy : y = e
    · simp [after, hy]
    · have hy' : e ≠ y := Ne.symm hy
      rw [List.cons_append, after_cons, after_cons, if_neg hy, if_neg hy, ih]
      simp only [List.mem_cons, hy', false_or]

theorem after_eq_nil_of_not_mem {e : Event} {t : List Event} (h : e ∉ t) : after e t = [] := by
  induction t with
  | nil => rfl
  | cons y t ih =>
    simp only [List.mem_cons, not_or] at h
    simp [after, Ne.symm h.1, ih h.2]

/-! ## Runs -/

section Runs

variable {rpcError : GoError → Option GoError}

theorem Reachable.trans {s t u : State} (h₁ : Reachable rpcError s t)
    (h₂ : Reachable rpcError t u) : Reachable rpcError s u := by
  induction h₂ with
  | refl => exact h₁
  | tail a _ hs ih => exact .tail a ih hs

theorem Reachable.head {s t u : State} {a : Action} (hs : step rpcError s a = some t)
    (h : Reachable rpcError t u) : Reachable rpcError s u :=
  Reachable.trans (.tail a .refl hs) h

/-- Every state a schedule reaches is reachable. -/
theorem reachable_of_run {s t : State} {acts : List Action} (h : run rpcError s acts = some t) :
    Reachable rpcError s t := by
  induction acts generalizing s with
  | nil => cases h; exact .refl
  | cons a acts ih =>
    simp only [run, Option.bind_eq_some] at h
    obtain ⟨u, hu, hrun⟩ := h
    exact Reachable.head hu (ih hrun)

/-- A property that holds of `s` and that every step keeps holds of every
state reachable from `s`. -/
theorem Reachable.rec_inv (P : State → Prop) {s t : State} (h : Reachable rpcError s t)
    (h₀ : P s) (hstep : ∀ u a u', P u → step rpcError u a = some u' → P u') : P t := by
  induction h with
  | refl => exact h₀
  | tail a _ hs ih => exact hstep _ a _ ih hs

/-- Only the caller's `cancel` sets `cancelled`. -/
theorem step_cancelled {s s' : State} {a : Action} (h : step rpcError s a = some s')
    (ha : a.isCancel = false) : s'.cancelled = s.cancelled := by
  cases a with
  | producer =>
    rcases producerStep_cases h with ⟨-, -, rfl⟩ | ⟨-, -, rfl⟩ | ⟨-, rfl⟩ | ⟨_, -, rfl⟩ |
      ⟨-, -, rfl⟩ | ⟨_, -, -, -, rfl⟩ | ⟨r, -, -, -, rfl⟩
    all_goals try split
    all_goals rfl
  | producerDone =>
    obtain ⟨-, ⟨-, _, -, rfl⟩ | ⟨_, -, rfl⟩ | ⟨_, -, rfl⟩⟩ := producerDoneStep_cases h <;> rfl
  | closer => obtain ⟨-, -, rfl⟩ := closerStep_eq h; rfl
  | consumer =>
    obtain ⟨-, ⟨_, -, rfl⟩ | ⟨-, -, rfl⟩⟩ := consumerStep_cases h <;> rfl
  | cancel => cases ha

/-- Only the consumer receives. -/
theorem receives_step {s s' : State} {a : Action} (h : step rpcError s a = some s')
    (ha : a ≠ .consumer) : receives s'.trace = receives s.trace := by
  cases a with
  | producer =>
    rcases producerStep_cases h with ⟨-, -, rfl⟩ | ⟨-, -, rfl⟩ | ⟨-, rfl⟩ | ⟨_, -, rfl⟩ |
      ⟨-, -, rfl⟩ | ⟨_, -, -, -, rfl⟩ | ⟨r, -, -, -, rfl⟩
    all_goals try split
    all_goals simp
  | producerDone =>
    obtain ⟨-, ⟨-, _, -, rfl⟩ | ⟨_, -, rfl⟩ | ⟨_, -, rfl⟩⟩ := producerDoneStep_cases h <;> simp
  | closer => obtain ⟨-, -, rfl⟩ := closerStep_eq h; simp
  | consumer => exact absurd rfl ha
  | cancel _ => obtain ⟨-, rfl⟩ := cancelStep_eq h; simp

/-- What every step of some kind of action keeps, a schedule of such actions keeps. -/
theorem run_keeps {α : Type} (f : State → α) (P : Action → Prop)
    (hstep : ∀ {s s' : State} {a : Action}, step rpcError s a = some s' → P a → f s' = f s)
    {s t : State} {acts : List Action} (hacts : ∀ a ∈ acts, P a)
    (h : run rpcError s acts = some t) : f t = f s := by
  induction acts generalizing s with
  | nil => cases h; rfl
  | cons a acts ih =>
    simp only [List.mem_cons, forall_eq_or_imp] at hacts
    simp only [run, Option.bind_eq_some] at h
    obtain ⟨u, hu, hrun⟩ := h
    rw [ih hacts.2 hrun, hstep hu hacts.1]

/-- A schedule without `cancel` leaves the caller's flag as it was. -/
theorem run_cancelled {s t : State} {acts : List Action} (hacts : ∀ a ∈ acts, a.isCancel = false)
    (h : run rpcError s acts = some t) : t.cancelled = s.cancelled :=
  run_keeps State.cancelled _ step_cancelled hacts h

end Runs

end KeyIterator

end ZeroStor
