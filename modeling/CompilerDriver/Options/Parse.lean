import CompilerDriver.Options.Draft

/-!
Reading a command line. Words are taken from left to right. An option that takes a value waits for
the next word unless the value is attached; a waiting option or a group of files is read only when
the next option, a file after an option, or the end is reached. The environment is looked at
afterwards, for absent options only, in the order of declaration.
-/

namespace CompilerDriver.Options

def dash : UInt8 := 0x2D

def equals : UInt8 := 0x3D

/-- What has been taken in but not read yet. -/
inductive Pending where
  | nothing
  | waiting (flag : Flag)
  | holding (flag : Flag) (value : Bytes)
  | files (words : List Bytes)
  deriving Repr, DecidableEq

structure Reader where
  draft : Draft := {}
  pending : Pending := .nothing
  deriving Repr, DecidableEq

namespace Reader

def settle (reader : Reader) : Except UsageError Draft :=
  match reader.pending with
  | .nothing => .ok reader.draft
  | .waiting flag => reader.draft.accept flag none
  | .holding flag value => reader.draft.accept flag (some value)
  | .files words => reader.draft.addFiles words

def take (reader : Reader) (flag : Flag) (value : Option Bytes) : Except UsageError Reader :=
  match reader.settle with
  | .ok draft => (draft.accept flag value).map fun next => { draft := next }
  | .error error => .error error

def await (reader : Reader) (flag : Flag) : Except UsageError Reader :=
  reader.settle.map fun draft => { draft := draft, pending := .waiting flag }

def file (reader : Reader) (word : Bytes) : Except UsageError Reader :=
  match reader.pending with
  | .files words => .ok { reader with pending := .files (words ++ [word]) }
  | _ => reader.settle.map fun draft => { draft := draft, pending := .files [word] }

def plain (reader : Reader) (word : Bytes) : Except UsageError Reader :=
  match reader.pending with
  | .waiting flag => .ok { reader with pending := .holding flag word }
  | _ => reader.file word

def splitValue : Bytes → Bytes × Option Bytes
  | [] => ([], none)
  | byte :: rest =>
      if byte = equals then ([], some rest)
      else
        let (name, value) := splitValue rest
        (byte :: name, value)

def long (reader : Reader) (word : Bytes) : Except UsageError Reader :=
  let (name, value) := splitValue word
  match Flag.ofLong? name with
  | none => .error .unknownArgument
  | some flag =>
      match flag.arity, value with
      | .none, some _ => .error .needlessValue
      | .none, none => reader.take flag none
      | _, some raw => reader.take flag (some raw)
      | _, none => reader.await flag

/-- The value attached to a short option; an equals sign before it is not part of it. -/
def attached : Bytes → Option Bytes
  | [] => none
  | byte :: rest => if byte = equals then some rest else some (byte :: rest)

/-- A cluster of short options, without its dash. The first that takes a value has the rest. -/
def cluster (reader : Reader) : Bytes → Except UsageError Reader
  | [] => .ok reader
  | byte :: rest =>
      match Flag.ofShort? byte with
      | none => .error .unknownArgument
      | some flag =>
          match flag.arity, attached rest with
          | .none, _ =>
              match reader.take flag none with
              | .ok next => next.cluster rest
              | .error error => .error error
          | _, some raw => reader.take flag (some raw)
          | _, none => reader.await flag

def word (reader : Reader) : Bytes → Except UsageError Reader
  | first :: second :: rest =>
      if first = dash then
        if second = dash then reader.long rest else reader.cluster (second :: rest)
      else reader.plain (first :: second :: rest)
  | short => reader.plain short

/-- Words after the end of the options: files, whatever they look like. -/
def trailing (reader : Reader) : List Bytes → Except UsageError Reader
  | [] => .ok reader
  | next :: rest =>
      match reader.file next with
      | .ok reader => reader.trailing rest
      | .error error => .error error

def words (reader : Reader) : List Bytes → Except UsageError Reader
  | [] => .ok reader
  | next :: rest =>
      if next = [dash, dash] then reader.trailing rest
      else
        match reader.word next with
        | .ok reader => reader.words rest
        | .error error => .error error

end Reader

abbrev Environment := List (String × Bytes)

def Draft.fill (environment : Environment) (draft : Draft) (flag : Flag) :
    Except UsageError Draft :=
  if draft.holds flag then .ok draft
  else
    match flag.environmentName?.bind fun name => environment.lookup name with
    | some raw => draft.store flag raw
    | none => .ok draft

def Draft.fillAll (environment : Environment) (draft : Draft) :
    List Flag → Except UsageError Draft
  | [] => .ok draft
  | flag :: rest =>
      match draft.fill environment flag with
      | .ok next => next.fillAll environment rest
      | .error error => .error error

def draft (arguments : List Bytes) : Except UsageError Draft :=
  match Reader.words {} arguments with
  | .ok reader => reader.settle
  | .error error => .error error

def parse (environment : Environment) (arguments : List Bytes) : Except UsageError Options :=
  match draft arguments with
  | .ok given => (given.fillAll environment Flag.all).map Draft.complete
  | .error error => .error error

def logLevel (options : Options) : String :=
  match options.verbosity with
  | 0 => "warn"
  | 1 => "info"
  | 2 => "debug"
  | _ => "trace"

end CompilerDriver.Options
