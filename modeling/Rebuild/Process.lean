import Rebuild.Command
import Rebuild.Disk.Edit
import Rebuild.Limit
import Rebuild.Signal
import Rebuild.Text.Bytes

/-!
# Processes

A process sees a disk, an environment and numbered streams, each of which leads to an open file. Several streams, and
those of processes that started each other, may share an open file and with it a position. What processes write for
others to read is kept in buffers.

The processes of a pipeline run one after the other. So one that would never end is cut off when it has written more
than there is room for, and one that reads all of what was cut off is noted to be starved: then there has to be more
room.

A process has a time, that of its disk, which goes on when it waits. It may be stopped at a certain time.
-/

namespace Rebuild

/-- Where the bytes of an open file come from and go to. -/
inductive Channel where
  /-- A node of the disk. -/
  | node (number : Nat)
  | buffer (number : Nat)
  | null
  | full
  | endless (isNoise : Bool)
deriving DecidableEq, Repr

/-- Bytes that processes write for others. -/
structure Buffer where
  bytes : ByteArray
  /-- With how many bytes a buffer is full, if it ever is. -/
  room : Option Nat
  /-- Whether more would have been written if there had been more room. -/
  isCut : Bool

/-- Whether a buffer takes nothing more. -/
def Buffer.isFull (b : Buffer) : Bool :=
  b.isCut || b.room.any (· ≤ b.bytes.size)

/-- An open file: how far it has been read or written, and what may be done with it. -/
structure OpenFile where
  channel : Channel
  position : Nat
  readable : Bool
  writable : Bool
  /-- Whether all that is written goes to the end. -/
  appends : Bool
deriving DecidableEq, Repr

/-- What a file is opened for. -/
inductive Access where
  | read
  /-- To be written anew. -/
  | write
  /-- To be written at its end. -/
  | append
  /-- To be read and written, from its beginning. -/
  | both
deriving DecidableEq, Repr

/-- What a process sees and changes. -/
structure Process where
  disk : Disk
  buffers : Array Buffer
  files : Array OpenFile
  /-- The numbers of the streams, with those of the open files to which they lead. -/
  streams : List (Nat × Nat)
  environment : List (String × String)
  limits : List Limit
  /-- How many bytes are seen of what has no end. -/
  patience : Nat
  /-- The channels that were read to an end that is not theirs. -/
  starved : List Channel
  /-- The time at which the process is stopped. -/
  deadline : Option Time
  isStopped : Bool
  /-- The time up to which the process wanted to wait when it was stopped. -/
  wakes : Time

/-- What is done in a process. -/
abbrev ProcessM := StateM Process

namespace Process

/-! ## Streams and open files -/

/-- The open file to which a stream leads, with its number. -/
def file? (p : Process) (stream : Nat) : Option (Nat × OpenFile) := do
  let number ← p.streams.lookup stream
  let file ← p.files[number]?
  some (number, file)

/-- Lets a stream lead to an open file, or closes it. -/
def direct (p : Process) (stream : Nat) (file : Option Nat) : Process :=
  { p with streams := (file.map (stream, ·)).toList ++ p.streams.filter (·.1 != stream) }

/-- Opens a channel; the open file is the last. -/
def openChannel (p : Process) (channel : Channel) (access : Access) : Nat × Process :=
  (p.files.size, { p with
    files := p.files.push ⟨channel, 0, access == .read || access == .both, access != .read, access == .append⟩ })

/-- Makes a buffer with these bytes, and perhaps room for so many, and opens it; the number of the open file is told. -/
def openBuffer (p : Process) (bytes : ByteArray) (room : Option Nat) : Nat × Process :=
  { p with buffers := p.buffers.push ⟨bytes, room, false⟩ }.openChannel (.buffer p.buffers.size) .both

/-- The bytes that a buffer holds. -/
def bufferBytes (p : Process) (number : Nat) : ByteArray :=
  match p.buffers[number]? with
  | some buffer => buffer.bytes
  | none => .empty

/-- Opens what is at the end of a path, and makes a file there if it is to be written. The number of the open file is
told. -/
def openPath (p : Process) (path : String) (access : Access) (mode : Nat) : Except SystemFault (Nat × Process) := do
  let (number, disk) ←
    if access == .read then
      match p.disk.number? (← p.disk.find path) with
      | some number => .ok (number, p.disk)
      | none => .error .noEntry
    else p.disk.openToWrite path mode
  let p := { p with disk }
  match p.disk.nodes[number]?.map DiskNode.item with
  | some (.device .null) => .ok (p.openChannel .null access)
  | some (.device .full) => .ok (p.openChannel .full access)
  | some (.device (.endless isNoise)) => .ok (p.openChannel (.endless isNoise) access)
  | some (.device (.stream stream)) =>
    match p.file? stream with
    | none => .error .noEntry
    | some (shared, file) =>
      match file.channel with
      | .node number =>
        let p := if access == .write then { p with disk := p.disk.setContent number .empty } else p
        .ok (p.openChannel (.node number) access)
      | _ => .ok (shared, p)
  | _ =>
    let p := if access == .write then { p with disk := p.disk.setContent number .empty } else p
    .ok (p.openChannel (.node number) access)

/-! ## Reading -/

/-- The first bytes of something without an end. -/
def endlessBytes (isNoise : Bool) (size : Nat) : ByteArray :=
  if isNoise then ⟨(Array.range size).map fun i => UInt8.ofNat (i * i + 167 * i + i / 7)⟩ else ⟨Array.replicate size 0⟩

/-- The bytes that a channel holds, of which so many have been read. -/
def content (p : Process) (position : Nat) : Channel → Except SystemFault ByteArray
  | .node number =>
    match p.disk.nodes[number]? with
    | some node => Disk.contentOf node
    | none => .ok .empty
  | .buffer number => .ok (p.bufferBytes number)
  | .null | .full => .ok .empty
  | .endless isNoise => .ok (endlessBytes isNoise (position + p.patience))

/-- The bytes of a stream that have not been read. -/
def unread (p : Process) (stream : Nat) : Except SystemFault ByteArray :=
  match p.file? stream with
  | some (_, file) =>
    if file.readable then (p.content file.position file.channel).map fun bytes => bytes.extract file.position bytes.size
    else .error .badDescriptor
  | none => .error .badDescriptor

/-- Moves on so many bytes in a stream. -/
def skip (p : Process) (stream count : Nat) : Process :=
  match p.file? stream with
  | some (number, file) =>
    { p with files := p.files.setIfInBounds number { file with position := file.position + count } }
  | none => p

/-- Whether the end of what a channel holds is not its end. -/
def isEndless (p : Process) : Channel → Bool
  | .buffer number => p.buffers[number]?.any Buffer.isCut
  | .endless _ => true
  | _ => false

/-- Notes that a channel was read to the end of what it holds. -/
def reachEnd (p : Process) (channel : Channel) : Process :=
  if p.isEndless channel then { p with starved := p.starved.insert channel } else p

/-- Notes that a stream was read to the end of what it holds. -/
def reachEndOf (p : Process) (stream : Nat) : Process :=
  match p.file? stream with
  | some (_, file) => p.reachEnd file.channel
  | none => p

/-- The buffer with limited room to which the output goes, if it goes to one. -/
def outlet? (p : Process) : Option Nat :=
  match p.file? 1 with
  | some (_, file) =>
    match file.channel with
    | .buffer number => if p.buffers[number]?.any (·.room.isSome) then some number else none
    | _ => none
  | none => none

/-- Notes that a buffer would get more if there were more room. -/
def cutBuffer (p : Process) (number : Nat) : Process :=
  { p with buffers := p.buffers.modify number fun b => { b with isCut := true } }

/-! ## Writing -/

/-- Bytes that are written over others from a position on. -/
def overwrite (before : ByteArray) (position : Nat) (bytes : ByteArray) : ByteArray :=
  let start := before.extract 0 position
  let gap : ByteArray := ⟨Array.replicate (position - before.size) 0⟩
  start ++ gap ++ bytes ++ before.extract (position + bytes.size) before.size

/-- How many bytes a file may have, if that is limited. -/
def fileLimit? (p : Process) : Option Nat :=
  (Limit.find? p.limits 'f').bind Limit.soft

/-- Writes bytes to an open file on the disk, as many of them as the file may have. -/
def writeNode (p : Process) (number : Nat) (file : OpenFile) (node : Nat) (bytes : ByteArray) :
    Except SystemFault Unit × Process :=
  match p.content 0 file.channel with
  | .error fault => (.error fault, p)
  | .ok before =>
    let position := if file.appends then before.size else file.position
    let fitting := match p.fileLimit? with
      | some most => bytes.extract 0 (most - position)
      | none => bytes
    let p := if fitting.isEmpty then p else { p with
      disk := p.disk.setContent node (overwrite before position fitting)
      files := p.files.setIfInBounds number { file with position := position + fitting.size } }
    (if fitting.size < bytes.size then .error .tooLarge else .ok (), p)

/-- Writes bytes to the open file with a number. -/
def writeFile (number : Nat) (bytes : ByteArray) : ProcessM (Except SystemFault Unit) := fun p =>
  match p.files[number]? with
  | none => (.ok (), p)
  | some file =>
    match file.channel with
    | .null | .endless _ => (.ok (), p)
    | .full => (.error .noSpace, p)
    | .buffer buffer =>
      if p.buffers[buffer]?.any Buffer.isFull then (.error .brokenPipe, p.cutBuffer buffer)
      else (.ok (), { p with buffers := p.buffers.modify buffer fun b => { b with bytes := b.bytes ++ bytes } })
    | .node node => p.writeNode number file node bytes

/-- Writes bytes to a stream. -/
def write (stream : Nat) (bytes : ByteArray) : ProcessM (Except SystemFault Unit) := fun p =>
  match p.file? stream with
  | none => (.error .badDescriptor, p)
  | some (number, file) =>
    if !file.writable then (.error .badDescriptor, p)
    else if bytes.isEmpty then (.ok (), p)
    else writeFile number bytes p

/-! ## Time -/

/-- Waits for so many nanoseconds, and tells whether the process was stopped before. -/
def pass (nanos : Nat) : ProcessM Bool := fun p =>
  let wakes := p.disk.clock + nanos
  match p.deadline with
  | some deadline =>
    if deadline < wakes then
      (true, { p with disk := { p.disk with clock := max p.disk.clock deadline }, isStopped := true, wakes })
    else (false, { p with disk := { p.disk with clock := wakes } })
  | none => (false, { p with disk := { p.disk with clock := wakes } })

/-- Does something that is stopped at a time, and tells whether it was. -/
def stoppedAt (time : Time) (action : ProcessM α) : ProcessM (α × Bool) := fun p =>
  let isFirst := p.deadline.all (time < ·)
  let (a, after) := action { p with deadline := if isFirst then some time else p.deadline }
  ((a, after.isStopped), { after with deadline := p.deadline, isStopped := after.isStopped && !isFirst })

/-! ## Processes that start each other -/

/-- Goes on after a process that this one started: what that changed outside itself remains. -/
def after (p child : Process) : Process :=
  { child with
    streams := p.streams
    environment := p.environment
    limits := p.limits
    deadline := p.deadline
    starved := p.starved.foldl (fun channels channel => channels.insert channel) child.starved
    disk := { child.disk with cwd := p.disk.cwd, mask := p.disk.mask } }

/-- Runs a process in this one and goes on after it. -/
def inside (action : ProcessM α) : ProcessM α := fun p =>
  let (a, child) := action { p with starved := [] }
  (a, p.after child)

/-- Directs a stream for an action. -/
def withStream (stream : Nat) (file : Option Nat) (action : ProcessM α) : ProcessM α := fun p =>
  let (a, after) := action (p.direct stream file)
  (a, { after with streams := p.streams })

/-- A process at its start: nothing to read, and two buffers to write to. -/
def start (d : Disk) (environment : List (String × String)) : Process where
  disk := d
  buffers := #[⟨.empty, none, false⟩, ⟨.empty, none, false⟩]
  files := #[⟨.null, 0, true, true, false⟩, ⟨.buffer 0, 0, false, true, true⟩, ⟨.buffer 1, 0, false, true, true⟩]
  streams := [(0, 0), (1, 1), (2, 2)]
  environment := environment
  limits := Limit.usual
  patience := 1048576
  starved := []
  deadline := none
  isStopped := false
  wakes := 0

/-! ## What programs do -/

/-- Writes a text to the error stream, as far as that can be written. -/
def sayError (text : String) : ProcessM Unit := do
  let _ ← write 2 (Text.toBytes text)

/-- Writes bytes to the output, and tells whether that was possible. -/
def putBytes (bytes : ByteArray) : ProcessM (Except SystemFault Unit) :=
  write 1 bytes

/-- Reads all that is left of a stream. -/
def takeAll (stream : Nat) : ProcessM (Except SystemFault ByteArray) := fun p =>
  match p.unread stream with
  | .ok bytes => (.ok bytes, (p.skip stream bytes.size).reachEndOf stream)
  | .error fault => (.error fault, p)

/-- Reads all of the file at a path. -/
def takeFile (path : String) : ProcessM (Except SystemFault ByteArray) := fun p =>
  match p.openPath path .read 0 with
  | .error fault => (.error fault, p)
  | .ok (number, p) =>
    match p.files[number]? with
    | none => (.ok .empty, p)
    | some file =>
      match p.content file.position file.channel with
      | .error fault => (.error fault, p)
      | .ok bytes =>
        (.ok (bytes.extract file.position bytes.size),
          { p with files := p.files.setIfInBounds number { file with position := bytes.size } }.reachEnd file.channel)

/-- Changes the disk if that is possible. -/
def edit (change : Disk → Except SystemFault Disk) : ProcessM (Except SystemFault Unit) := fun p =>
  match change p.disk with
  | .ok disk => (.ok (), { p with disk })
  | .error fault => (.error fault, p)

end Process

end Rebuild
