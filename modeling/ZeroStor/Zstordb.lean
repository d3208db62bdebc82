import ZeroStor.Basic

/-!
# ZeroStor.Zstordb

`rootFunc` of the `zstordb` command (`cmd/zstordb/commands/root.go`): open the
database, create the gRPC server, start the profiling HTTP service when a
profile address is given, check the profile output directory when profiling
is on, listen, and serve until `Serve` returns or `SIGINT` arrives. Once the
server exists, the deferred `storServer.Close()` runs on every way out of
`rootFunc`, a panic included.

The database, the server constructor, the profiling service, the file system,
the listener and what ends serving are the `Host`, a parameter: `rootFunc` only
sequences them. The profiling goroutine runs beside `rootFunc`, and its
`log.Panicf` ends the process whenever `http.ListenAndServe` fails, before or
after `rootFunc` is done; `exits` lists every way the process can end.

* `rootFunc_closed_iff`: `Close` runs exactly when the database and the server
  were created.
* `rootFunc_panics_iff`: `rootFunc` itself panics only on the nil `FileInfo`
  of a profile output directory it has just created.
* `exits_panics_iff`: the process can end in a panic exactly when that happens
  or the profiling service fails to start; `exits_unclosed_panic`: only the
  latter ends it with the server not closed.
-/

namespace ZeroStor

namespace Zstordb

/-- `cmd.ProfileMode`: profiling off (its `String()` is empty), or one of the
four profiles. -/
inductive ProfileMode
  | off | cpu | mem | trace | block
  deriving DecidableEq, Repr

/-- What `os.Stat` tells of a path: a directory, another file, an error that
`os.IsNotExist` accepts, or another error. -/
inductive Stat
  | dir | file | notExist
  | error (err : GoError)
  deriving DecidableEq, Repr

/-- How serving ends: `Serve` returns `err` first, or `SIGINT` arrives first. -/
inductive ServeEnd
  | serveReturned (err : Option GoError)
  | interrupted
  deriving DecidableEq, Repr

/-- The fields of `rootCfg` that `rootFunc` reads. -/
structure RootConfig where
  listenAddress : String
  profileAddress : String
  profileMode : ProfileMode
  profileOutput : String
  authDisabled : Bool
  maxMsgSize : Int
  asyncWrite : Bool
  jobCount : Int
  dataDir : String
  metaDir : String
  deriving DecidableEq, Repr

/-- The outside world of `rootFunc`. -/
structure Host where
  /-- `badger.NewWithOpts(data, meta, opts)`, with `opts.SyncWrites` -/
  openDB : String → String → Bool → Option GoError
  /-- `grpc.New(db, verifier, maxMsgSize, jobCount)`, with whether a JWT verifier
  is given -/
  newServer : Bool → Int → Int → Option GoError
  /-- `http.ListenAndServe(address, http.DefaultServeMux)`: the text of the
  error it returns, or `none` while it serves -/
  profileServe : String → Option String
  /-- `os.Stat` -/
  stat : String → Stat
  /-- `os.MkdirAll(path, 0660)`: the text of its error, if any -/
  mkdirAll : String → Option String
  /-- `net.Listen("tcp", address)` -/
  listen : String → Option GoError
  serveEnd : ServeEnd

/-- How `rootFunc` ends: the error it returns, or the message it panics with;
whether the deferred `storServer.Close()` ran; whether it started the
profiling goroutine; and the profile it started. -/
structure RootResult where
  outcome : Except String (Option GoError)
  closed : Bool
  profiling : Bool
  profile : ProfileMode

/-- The runtime's message for a method call on a nil interface value. -/
def nilDereference : String := "runtime error: invalid memory address or nil pointer dereference"

/-- The check of the profile output directory: the error to return, a panic,
or `none` to go on. -/
def profileOutputCheck (cfg : RootConfig) (host : Host) : Except String (Option GoError) :=
  match host.stat cfg.profileOutput with
  | .error err => .ok (some err)
  | .notExist =>
    match host.mkdirAll cfg.profileOutput with
    | some err => .ok (some (.new ("fail to create profile output directory: " ++ err)))
    -- `stat` is the nil `FileInfo` of the failed `os.Stat`
    | none => .error nilDereference
  | .file => .ok (some (.new ("profile-output (" ++ cfg.profileOutput ++ ") is not a directory")))
  | .dir => .ok none

/-- What follows the creation of the server: the profile check when profiling
is on, the listener, and the `select` on `errChan` and `sigChan`; with the
profile started, if any. -/
def serveFrom (cfg : RootConfig) (host : Host) : Except String (Option GoError) × ProfileMode :=
  let check := if cfg.profileMode = .off then .ok none else profileOutputCheck cfg host
  match check with
  | .error msg => (.error msg, .off)
  | .ok (some err) => (.ok (some err), .off)
  | .ok none =>
    match host.listen cfg.listenAddress with
    | some err => (.ok (some err), cfg.profileMode)
    | none =>
      match host.serveEnd with
      | .serveReturned err => (.ok err, cfg.profileMode)
      | .interrupted => (.ok none, cfg.profileMode)

/-- `rootFunc`. -/
def rootFunc (cfg : RootConfig) (host : Host) : RootResult :=
  match host.openDB cfg.dataDir cfg.metaDir (!cfg.asyncWrite) with
  | some err => ⟨.ok (some err), false, false, .off⟩
  | none =>
    match host.newServer (!cfg.authDisabled) cfg.maxMsgSize cfg.jobCount with
    | some err => ⟨.ok (some err), false, false, .off⟩
    | none => ⟨(serveFrom cfg host).1, true, cfg.profileAddress != "", (serveFrom cfg host).2⟩

/-- How the `zstordb` process ends: `rootFunc` returns or panics, or the
profiling goroutine panics with `msg`, the deferred `Close` having run or not. -/
inductive Exit
  | rootFunc (r : RootResult)
  | profilePanic (msg : String) (closed : Bool)

/-- The message of the profiling goroutine's `log.Panicf`. -/
def profilePanicMessage (address err : String) : String :=
  "Failed to enable profiling on " ++ address ++ ", err:" ++ err

/-- Every way the process can end: `rootFunc`'s own end, and, when it started
the profiling goroutine and `http.ListenAndServe` fails, that goroutine's panic,
before `rootFunc` is done or after. -/
def exits (cfg : RootConfig) (host : Host) : List Exit :=
  match (rootFunc cfg host).profiling, host.profileServe cfg.profileAddress with
  | true, some err =>
    [.rootFunc (rootFunc cfg host), .profilePanic (profilePanicMessage cfg.profileAddress err) false,
      .profilePanic (profilePanicMessage cfg.profileAddress err) true]
  | _, _ => [.rootFunc (rootFunc cfg host)]

/-- Whether the process ends in a panic. -/
def Exit.panics : Exit → Bool
  | .rootFunc r => match r.outcome with
    | .error _ => true
    | .ok _ => false
  | .profilePanic _ _ => true

@[simp] theorem Exit.panics_rootFunc {r : RootResult} :
    (Exit.rootFunc r).panics = true ↔ ∃ msg, r.outcome = .error msg := by
  simp only [Exit.panics]
  split <;> simp_all

/-- Whether the deferred `storServer.Close()` has run when the process ends. -/
def Exit.closed : Exit → Bool
  | .rootFunc r => r.closed
  | .profilePanic _ closed => closed

/-! ## How the process ends -/

section Exits

variable {cfg : RootConfig} {host : Host}

/-- The profile check panics exactly on a missing directory that `os.MkdirAll`
creates, and then with the nil dereference. -/
theorem profileOutputCheck_panics_iff {msg : String} :
    profileOutputCheck cfg host = .error msg ↔
      host.stat cfg.profileOutput = .notExist ∧ host.mkdirAll cfg.profileOutput = none ∧
        msg = nilDereference := by
  unfold profileOutputCheck
  split <;> (try split) <;> simp_all [@eq_comm _ msg]

/-- After the server is created, only the profile check can panic. -/
theorem serveFrom_panics_iff {msg : String} :
    (serveFrom cfg host).1 = .error msg ↔
      cfg.profileMode ≠ .off ∧ profileOutputCheck cfg host = .error msg := by
  by_cases hm : cfg.profileMode = .off
  · simp only [serveFrom, hm, if_true]
    split <;> (try split) <;> simp
  · simp only [serveFrom, hm, if_false, ne_eq, not_false_eq_true, true_and]
    rcases profileOutputCheck cfg host with msg | (_ | err)
    · simp
    · cases host.listen cfg.listenAddress <;> cases host.serveEnd <;> simp
    · simp

/-- `Close` runs exactly when the database and the server were created. -/
theorem rootFunc_closed_iff :
    (rootFunc cfg host).closed = true ↔
      host.openDB cfg.dataDir cfg.metaDir (!cfg.asyncWrite) = none ∧
        host.newServer (!cfg.authDisabled) cfg.maxMsgSize cfg.jobCount = none := by
  unfold rootFunc
  split <;> (try split) <;> simp_all

/-- `rootFunc` panics exactly when profiling is on, the database and the server
are created, and `os.MkdirAll` creates the missing profile output directory;
it panics with the nil dereference, and listening and serving never panic. -/
theorem rootFunc_panics_iff {msg : String} :
    (rootFunc cfg host).outcome = .error msg ↔
      cfg.profileMode ≠ .off ∧ host.openDB cfg.dataDir cfg.metaDir (!cfg.asyncWrite) = none ∧
      host.newServer (!cfg.authDisabled) cfg.maxMsgSize cfg.jobCount = none ∧
      host.stat cfg.profileOutput = .notExist ∧ host.mkdirAll cfg.profileOutput = none ∧
      msg = nilDereference := by
  unfold rootFunc
  split <;> (try split) <;> simp_all [serveFrom_panics_iff, profileOutputCheck_panics_iff]

/-- The profiling goroutine is started exactly when the database and the server
were created and the profile address is not empty. -/
theorem rootFunc_profiling_iff :
    (rootFunc cfg host).profiling = true ↔
      host.openDB cfg.dataDir cfg.metaDir (!cfg.asyncWrite) = none ∧
        host.newServer (!cfg.authDisabled) cfg.maxMsgSize cfg.jobCount = none ∧
        cfg.profileAddress ≠ "" := by
  unfold rootFunc
  split <;> (try split) <;> simp_all

/-- `rootFunc`'s own end is always among the ends of the process. -/
theorem mem_exits_rootFunc {r : RootResult} :
    Exit.rootFunc r ∈ exits cfg host ↔ r = rootFunc cfg host := by
  unfold exits
  split <;> simp

/-- The profiling goroutine's panics among the ends of the process. -/
theorem mem_exits_profilePanic {msg : String} {closed : Bool} :
    Exit.profilePanic msg closed ∈ exits cfg host ↔
      (rootFunc cfg host).profiling = true ∧
        ∃ err, host.profileServe cfg.profileAddress = some err ∧
          msg = profilePanicMessage cfg.profileAddress err := by
  unfold exits
  split
  · cases closed <;> simp_all [@eq_comm _ msg]
  · simp_all

/-- The process can end in a panic exactly when the database and the server are
created and either `rootFunc` panics on the new profile output directory or the
profiling service at a non-empty address fails to start. -/
theorem exits_panics_iff :
    (∃ e ∈ exits cfg host, e.panics = true) ↔
      host.openDB cfg.dataDir cfg.metaDir (!cfg.asyncWrite) = none ∧
      host.newServer (!cfg.authDisabled) cfg.maxMsgSize cfg.jobCount = none ∧
      ((cfg.profileMode ≠ .off ∧ host.stat cfg.profileOutput = .notExist ∧
          host.mkdirAll cfg.profileOutput = none) ∨
        (cfg.profileAddress ≠ "" ∧ ∃ err, host.profileServe cfg.profileAddress = some err)) := by
  constructor
  · rintro ⟨e, he, hp⟩
    cases e with
    | rootFunc r =>
      obtain rfl := mem_exits_rootFunc.mp he
      obtain ⟨msg, hmsg⟩ := Exit.panics_rootFunc.mp hp
      obtain ⟨hm, hdb, hsrv, hst, hmk, -⟩ := rootFunc_panics_iff.mp hmsg
      exact ⟨hdb, hsrv, .inl ⟨hm, hst, hmk⟩⟩
    | profilePanic msg c =>
      obtain ⟨hpr, err, herr, -⟩ := mem_exits_profilePanic.mp he
      obtain ⟨hdb, hsrv, ha⟩ := rootFunc_profiling_iff.mp hpr
      exact ⟨hdb, hsrv, .inr ⟨ha, err, herr⟩⟩
  · rintro ⟨hdb, hsrv, ⟨hm, hst, hmk⟩ | ⟨ha, err, herr⟩⟩
    · exact ⟨_, mem_exits_rootFunc.mpr rfl,
        Exit.panics_rootFunc.mpr ⟨_, rootFunc_panics_iff.mpr ⟨hm, hdb, hsrv, hst, hmk, rfl⟩⟩⟩
    · exact ⟨.profilePanic _ false, mem_exits_profilePanic.mpr
        ⟨rootFunc_profiling_iff.mpr ⟨hdb, hsrv, ha⟩, err, herr, rfl⟩, rfl⟩

/-- A panic that ends the process before `Close` has run is the profiling
goroutine's: `rootFunc` itself panics only once the server exists. -/
theorem exits_unclosed_panic {e : Exit} (he : e ∈ exits cfg host) (hp : e.panics = true)
    (hc : e.closed = false) :
    ∃ err, host.profileServe cfg.profileAddress = some err ∧
      e = .profilePanic (profilePanicMessage cfg.profileAddress err) false := by
  cases e with
  | rootFunc r =>
    obtain rfl := mem_exits_rootFunc.mp he
    obtain ⟨msg, hmsg⟩ := Exit.panics_rootFunc.mp hp
    obtain ⟨-, hdb, hsrv, -⟩ := rootFunc_panics_iff.mp hmsg
    simp [Exit.closed, rootFunc_closed_iff.mpr ⟨hdb, hsrv⟩] at hc
  | profilePanic msg c =>
    obtain ⟨-, err, herr, rfl⟩ := mem_exits_profilePanic.mp he
    exact ⟨err, herr, by simp_all [Exit.closed]⟩

/-- A profile address already in use: the process may end in the profiling
goroutine's panic, with the server not yet closed. -/
example :
    Exit.profilePanic "Failed to enable profiling on :6060, err:address already in use" false ∈
      exits ⟨":8080", ":6060", .off, ".", false, 32, false, 10, ".db/data", ".db/meta"⟩
        ⟨fun _ _ _ => none, fun _ _ _ => none, fun _ => some "address already in use",
          fun _ => .dir, fun _ => none, fun _ => none, .interrupted⟩ :=
  List.mem_cons_of_mem _ (List.mem_cons_self _ _)

end Exits

end Zstordb

end ZeroStor
