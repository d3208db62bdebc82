import ZeroStor.Basic

/-!
# ZeroStor.Pipe

A pipe of the client's pipeline configuration (`client/config/pipe.go`): its
type, its `Config` (an `interface{}` the YAML parser fills with a generic map),
`setConfigType`, which converts that value to the `Config` of the pipe's
package, and `CreateBlockReader` / `CreateBlockWriter`, which type-assert it.

`setConfigType` panics with `invalid type:` and the type exactly on a type
outside the six constants whose config marshals (`setConfigType_panics_iff`).
The type assertions panic on a value of another type; after a successful
`setConfigType` they never do, and each of compress, encrypt and distribution
builds its own package's reader and writer, the other three types their
invalid-type errors (`setConfigType_then_create`).

The type constants (`chunkerStr`, …) are declared elsewhere in the package;
their text is the one the comment on `Pipe.Type` lists. The YAML library and the
stages' constructors are parameters: what they return is theirs.
-/

namespace ZeroStor

/-- The pipe types: the constants `chunkerStr`, `compressStr`, … -/
inductive PipeType
  | chunker | compress | distribution | encrypt | hash | replication
  deriving DecidableEq, Repr

/-- The text of each constant. -/
def PipeType.str : PipeType → String
  | .chunker => "chunker"
  | .compress => "compress"
  | .distribution => "distribution"
  | .encrypt => "encrypt"
  | .hash => "hash"
  | .replication => "replication"

/-- The case of a `switch p.Type` over the constants that `p.Type` selects. -/
def PipeType.ofStr (s : String) : Option PipeType :=
  [PipeType.chunker, .compress, .distribution, .encrypt, .hash, .replication].find? (·.str = s)

/-- The dynamic type of `Pipe.Config`: what the YAML parser leaves there, or the
`Config` of the package of a pipe type. -/
inductive ConfigValue
  | parsed
  | typed (t : PipeType)
  deriving DecidableEq, Repr

/-- `config.Pipe`. -/
structure Pipe where
  name : String
  type : String
  config : ConfigValue
  deriving DecidableEq, Repr

/-- `gopkg.in/yaml.v2`: `Marshal` of a config value, and `Unmarshal` of bytes into
the `Config` of a pipe type. -/
structure Yaml where
  marshal : ConfigValue → Except GoError Bytes
  unmarshal : PipeType → Bytes → Option GoError

/-- A stage of the pipeline, as the constructor that built it. -/
inductive Stage
  /-- `compress.NewReader(conf)` -/
  | compressReader
  /-- `encrypt.NewReader(conf)` -/
  | encryptReader
  /-- `distribution.NewStorRestorer(conf, shards, org, namespace)` -/
  | storRestorer (shards : List String) (org ns : String)
  /-- `compress.NewWriter(conf, w)` -/
  | compressWriter
  /-- `distribution.NewStorDistributor(conf, shards, org, namespace)` -/
  | storDistributor (shards : List String) (org ns : String)
  /-- `encrypt.NewWriter(w, conf)` -/
  | encryptWriter
  deriving DecidableEq, Repr

/-- `p.Config.(T)` for the `Config` type of pipe type `t`: a value of another
type panics. -/
def ConfigValue.assert (v : ConfigValue) (t : PipeType) : Except String Unit :=
  if v = .typed t then .ok () else .error "interface conversion"

section Pipe

variable (construct : Stage → Option GoError)

/-- Call a stage's constructor, which may fail. -/
def Stage.build (st : Stage) : Except GoError Stage :=
  match construct st with
  | some err => .error err
  | none => .ok st

/-- `setConfigType`: marshal `p.Config` and unmarshal it into the `Config` of the
pipe's type; an unknown type panics with `invalid type:` and the type. The six
cases of the source differ only in the `Config` type, here `t`. -/
def Pipe.setConfigType (yaml : Yaml) (p : Pipe) : Except String (Except GoError Pipe) :=
  match yaml.marshal p.config with
  | .error err => .ok (.error err)
  | .ok b =>
    match PipeType.ofStr p.type with
    | none => .error ("invalid type:" ++ p.type)
    | some t =>
      match yaml.unmarshal t b with
      | some err => .ok (.error err)
      | none => .ok (.ok { p with config := .typed t })

/-- `CreateBlockReader`. -/
def Pipe.createBlockReader (p : Pipe) (shards : List String) (org ns : String) :
    Except String (Except GoError Stage) :=
  match PipeType.ofStr p.type with
  | some .compress => (p.config.assert .compress).map fun _ => Stage.build construct .compressReader
  | some .encrypt => (p.config.assert .encrypt).map fun _ => Stage.build construct .encryptReader
  | some .distribution =>
    (p.config.assert .distribution).map fun _ =>
      Stage.build construct (.storRestorer shards org ns)
  | _ => .ok (.error (.new ("invalid type:" ++ p.type)))

/-- `CreateBlockWriter`; the distribution stage does not wrap `w`. -/
def Pipe.createBlockWriter (p : Pipe) (shards : List String) (org ns : String) :
    Except String (Except GoError Stage) :=
  match PipeType.ofStr p.type with
  | some .compress => (p.config.assert .compress).map fun _ => Stage.build construct .compressWriter
  | some .distribution =>
    (p.config.assert .distribution).map fun _ =>
      Stage.build construct (.storDistributor shards org ns)
  | some .encrypt => (p.config.assert .encrypt).map fun _ => Stage.build construct .encryptWriter
  | _ => .ok (.error (.new ("unsupported type:" ++ p.type)))

/-! ## Converting, then building -/

variable {yaml : Yaml} {p p' : Pipe}

/-- A successful `setConfigType` gives the config the type of the pipe's type. -/
theorem setConfigType_eq_ok (h : p.setConfigType yaml = .ok (.ok p')) :
    ∃ t, PipeType.ofStr p.type = some t ∧ p' = { p with config := .typed t } := by
  unfold Pipe.setConfigType at h
  split at h
  · cases h
  · split at h
    · cases h
    · split at h
      · cases h
      · cases h; exact ⟨_, ‹_›, rfl⟩

/-- `setConfigType` panics exactly on a type none of the constants names, once
the config has been marshalled, and its message is `invalid type:` and the type. -/
theorem setConfigType_panics_iff {msg : String} :
    p.setConfigType yaml = .error msg ↔
      (∃ b, yaml.marshal p.config = .ok b) ∧ PipeType.ofStr p.type = none ∧
        msg = "invalid type:" ++ p.type := by
  unfold Pipe.setConfigType
  split <;> (try split) <;> (try split) <;> simp_all [@eq_comm _ msg]

/-- After a successful `setConfigType`, neither `CreateBlockReader` nor
`CreateBlockWriter` panics: each of compress, encrypt and distribution calls its
own package's reader and writer constructors, and the other three types return
their invalid-type errors. -/
theorem setConfigType_then_create (h : p.setConfigType yaml = .ok (.ok p'))
    (shards : List String) (org ns : String) :
    ∃ t, PipeType.ofStr p.type = some t ∧
      (p'.createBlockReader construct shards org ns, p'.createBlockWriter construct shards org ns) =
        match t with
        | .compress => (.ok (Stage.build construct .compressReader),
            .ok (Stage.build construct .compressWriter))
        | .encrypt => (.ok (Stage.build construct .encryptReader),
            .ok (Stage.build construct .encryptWriter))
        | .distribution => (.ok (Stage.build construct (.storRestorer shards org ns)),
            .ok (Stage.build construct (.storDistributor shards org ns)))
        | _ => (.ok (.error (.new ("invalid type:" ++ p.type))),
            .ok (.error (.new ("unsupported type:" ++ p.type)))) := by
  obtain ⟨t, ht, rfl⟩ := setConfigType_eq_ok h
  refine ⟨t, ht, ?_⟩
  cases t <;> simp [Pipe.createBlockReader, Pipe.createBlockWriter, ht, ConfigValue.assert, Except.map]

end Pipe

end ZeroStor
