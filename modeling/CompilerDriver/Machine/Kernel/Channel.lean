import CompilerDriver.Machine.Kernel.Process

/-!
Reading from channels and writing to them. An operation that has to wait, for a pipe to be filled or
to be emptied, gives nothing and is tried again later.
-/

namespace CompilerDriver.Machine.Kernel

abbrev Attempt (α : Type) := Option (Except OsError α × Kernel)

def stream? (kernel : Kernel) (number channel : Nat) : Option (Nat × Stream) :=
  ((kernel.process number).channels.lookup channel).bind fun stream =>
    (kernel.streams.lookup stream).map fun found => (stream, found)

def isOpen (kernel : Kernel) (number channel : Nat) : Bool :=
  ((kernel.process number).channels.lookup channel).isSome

def close (kernel : Kernel) (number channel : Nat) : Kernel :=
  match (kernel.process number).channels.lookup channel with
  | none => kernel
  | some stream =>
      (kernel.modify number fun process =>
        { process with channels := dropKey process.channels channel }).release stream

def bind (kernel : Kernel) (number channel stream : Nat) : Kernel :=
  let old := (kernel.process number).channels.lookup channel
  let bound := kernel.modify number fun process =>
    { process with channels := setKey process.channels channel stream }
  match old with
  | some other => if other = stream then bound else bound.release other
  | none => bound

def duplicate (kernel : Kernel) (number channel other : Nat) : Except OsError Kernel :=
  match (kernel.process number).channels.lookup other with
  | some stream => .ok (kernel.bind number channel stream)
  | none => .error .badChannel

def unused (kernel : Kernel) (number least : Nat) : Nat :=
  let channels := (kernel.process number).channels
  ((List.range (channels.length + 1)).map (least + ·)).find?
    (fun channel => (channels.lookup channel).isNone) |>.getD least

def openOn (kernel : Kernel) (number channel : Nat) (stream : Stream) : Kernel :=
  let named := { kernel with
    streams := (kernel.fresh, stream) :: kernel.streams
    fresh := kernel.fresh + 1 }
  named.bind number channel kernel.fresh

/-- The channels from here on are the shell's own; programs do not get them. -/
def innerChannel : Nat := 10

def openPipe (kernel : Kernel) (number : Nat) : Nat × Nat × Kernel :=
  let pipe := kernel.fresh
  let ready := { kernel with pipes := (pipe, {}) :: kernel.pipes, fresh := pipe + 1 }
  let input := ready.unused number innerChannel
  let half := ready.openOn number input (.reading pipe)
  let output := half.unused number innerChannel
  (input, output, half.openOn number output (.writing pipe))

def closeInner (kernel : Kernel) (number : Nat) : Kernel :=
  (kernel.process number).channels.foldl
    (fun kernel entry => if innerChannel ≤ entry.1 then kernel.close number entry.1 else kernel)
    kernel

def contents (kernel : Kernel) (place : Place) : Bytes :=
  match kernel.tree.get? place with
  | some (.file bytes _) => bytes
  | _ => []

def overwrite (old : Bytes) (offset : Nat) (bytes : Bytes) : Bytes :=
  if offset = old.length then old ++ bytes
  else
    old.take offset ++ List.replicate (offset - old.length) 0 ++ bytes ++
      old.drop (offset + bytes.length)

def stampSpan : Nat := 4000000

def stamp (kernel : Kernel) (place : Place) : Kernel :=
  { kernel with stamps := setKey kernel.stamps place (kernel.clock / stampSpan) }

def setContents (kernel : Kernel) (place : Place) (bytes : Bytes) : Kernel :=
  match kernel.tree.get? place with
  | some (.file _ executable) =>
      { kernel with tree := kernel.tree.put place (.file bytes executable) }.stamp place
  | _ => kernel

def setStream (kernel : Kernel) (number : Nat) (stream : Stream) : Kernel :=
  { kernel with streams := alter kernel.streams number fun _ => stream }

/-- Cuts what may be read at once off the front: up to a count, and with `line` no further than the
end of a line. -/
def portion (line : Bool) (count : Nat) (bytes : Bytes) : Bytes :=
  if line then
    let (front, behind) := (bytes.take count).span (· != 0x0A)
    front ++ behind.take 1
  else bytes.take count

def readWith (line : Bool) (kernel : Kernel) (number channel count : Nat) : Attempt Bytes :=
  match kernel.stream? number channel with
  | none => some (.error .badChannel, kernel)
  | some (stream, found) =>
      match found with
      | .device .null => some (.ok [], kernel)
      | .device _ => some (.ok (List.replicate count 0), kernel)
      | .sink _ | .writing _ => some (.error .badChannel, kernel)
      | .directory _ => some (.error .isDirectory, kernel)
      | .file place offset access =>
          if !access.reads then some (.error .badChannel, kernel)
          else
            let taken := portion line count ((kernel.contents place).drop offset)
            some (.ok taken, kernel.setStream stream (.file place (offset + taken.length) access))
      | .adrift file offset access =>
          if !access.reads then some (.error .badChannel, kernel)
          else
            let taken := portion line count (((kernel.adrift.lookup file).getD []).drop offset)
            some (.ok taken, kernel.setStream stream (.adrift file (offset + taken.length) access))
      | .reading pipe =>
          let held := (kernel.pipes.lookup pipe).getD {}
          if held.size = 0 then if kernel.hasWriter pipe then none else some (.ok [], kernel)
          else
            let (chunk, _) := held.take count
            let (taken, left) := held.take (portion line count chunk).length
            some (.ok taken, { kernel with pipes := alter kernel.pipes pipe fun _ => left })

/-- Reads up to a count of bytes. At the end of what there is to read, it gives none. -/
def read (kernel : Kernel) (number channel count : Nat) : Attempt Bytes :=
  readWith false kernel number channel count

def readLine (kernel : Kernel) (number channel : Nat) : Attempt Bytes :=
  readWith true kernel number channel Pipe.capacity

/-- Writes bytes, or as many as there is room for, and says how many. Nobody can read from a pipe
that is closed at the other end, and who writes to it gets a signal. -/
def write (kernel : Kernel) (number channel : Nat) (bytes : Bytes) : Attempt Nat :=
  match kernel.stream? number channel with
  | none => some (.error .badChannel, kernel)
  | some (stream, found) =>
      match found with
      | .device .full => some (.error .noSpace, kernel)
      | .device _ => some (.ok bytes.length, kernel)
      | .sink chunks => some (.ok bytes.length, kernel.setStream stream (.sink (bytes :: chunks)))
      | .reading _ | .directory _ => some (.error .badChannel, kernel)
      | .file place offset access =>
          if !access.writes then some (.error .badChannel, kernel)
          else
            let old := kernel.contents place
            let start := if access.appends then old.length else offset
            some (.ok bytes.length,
              (kernel.setContents place (overwrite old start bytes)).setStream stream
                (.file place (start + bytes.length) access))
      | .adrift file offset access =>
          if !access.writes then some (.error .badChannel, kernel)
          else
            let old := (kernel.adrift.lookup file).getD []
            let start := if access.appends then old.length else offset
            let next := { kernel with
              adrift := setKey kernel.adrift file (overwrite old start bytes) }
            some (.ok bytes.length,
              next.setStream stream (.adrift file (start + bytes.length) access))
      | .writing pipe =>
          if !kernel.hasReader pipe then
            some (.error .brokenPipe, kernel.send number number Signal.brokenPipe)
          else
            let held := (kernel.pipes.lookup pipe).getD {}
            let room := Pipe.capacity - held.size
            if room = 0 || (room < bytes.length && bytes.length ≤ Pipe.wholeLimit) then none
            else
              let part := bytes.take room
              some (.ok part.length,
                { kernel with pipes := alter kernel.pipes pipe fun held => held.put part })

def collected (kernel : Kernel) (stream : Nat) : Bytes :=
  match kernel.streams.lookup stream with
  | some (.sink chunks) => chunks.reverse.flatten
  | _ => []

end CompilerDriver.Machine.Kernel
