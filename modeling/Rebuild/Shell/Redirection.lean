import Rebuild.Shell.Expansion

/-!
# Redirections

The targets of all redirections of a command are expanded before any of its streams is directed elsewhere; the text of a
here-document is expanded when its stream is. After the command its streams lead to where they led before.
-/

namespace Rebuild.Shell

/-- A redirection with its target expanded. -/
inductive Direction where
  | file (stream : Nat) (access : Access) (overwrite : Bool) (path : String)
  /-- To where another stream leads, or nowhere. -/
  | duplicate (stream : Nat) (source : Option Nat)
  | document (stream : Nat) (text : Word)

namespace Direction

/-- The stream that is directed elsewhere. -/
def stream : Direction → Nat
  | .file stream _ _ _ | .duplicate stream _ | .document stream _ => stream

/-- Whether a file is at a path, which a strict shell does not write anew. -/
def isKept (d : Disk) (path : String) : Bool :=
  match d.get path with
  | .ok ⟨.file _, _, _⟩ | .ok ⟨.program _, _, _⟩ => true
  | _ => false

/-- Directs a stream elsewhere; `keepsFiles` tells that no file may be written anew. -/
def apply (keepsFiles : Bool) (direction : Direction) (p : Process) : Except String Process :=
  match direction with
  | .file stream access overwrite path =>
    if keepsFiles && access == .write && !overwrite && isKept p.disk path then
      .error s!"cannot create {path}: {SystemFault.text .exists}"
    else
      match p.openPath path access 0o666 with
      | .ok (number, p) => .ok (p.direct stream (some number))
      | .error fault =>
        .error (if access == .read then s!"cannot open {path}: {State.readingText fault}"
          else s!"cannot create {path}: {State.makingText fault}")
  | .duplicate stream none => .ok (p.direct stream none)
  | .duplicate stream (some source) =>
    if source == stream then .ok p
    else
      match p.file? source with
      | some (number, _) => .ok (p.direct stream (some number))
      | none => .error s!"{source}: {SystemFault.text .badDescriptor}"
  | .document stream _ => .ok (p.direct stream none)

end Direction

/-- Lets streams lead to where they led before. -/
def restoreStreams (directions : List Direction) (before : Process) (s : State) : State :=
  { s with process := directions.foldl (fun p d => p.direct d.stream (before.streams.lookup d.stream)) s.process }

section Targets

variable (substitute : Substituter)

/-- Expands the text of a here-document, unless something is wrong with it. -/
def documentText? (text : Word) : ShellM (Option String) := fun s =>
  match expandText substitute false text s with
  | (.ok text, s) => (.ok (some text), s)
  | (.error .fault, s) => (.ok none, s)
  | (.error stop, s) => (.error stop, s)

/-- Directs streams elsewhere one after the other, and tells whether all could be. -/
def direct : List Direction → ShellM Bool
  | [] => pure true
  | .document stream text :: directions => do
    match ← documentText? substitute text with
    | some text =>
      modify fun s =>
        let (number, p) := s.process.openBuffer (Text.toBytes text) none
        { s with process := p.direct stream (some number) }
      direct directions
    | none => do
      ShellM.finish 2
      pure false
  | direction :: directions => do
    let s ← get
    match direction.apply (s.has 'C') s.process with
    | .ok process =>
      set { s with process }
      direct directions
    | .error text => do
      ShellM.warn text
      ShellM.finish 2
      pure false

/-- Directs streams elsewhere for an action, which is left out if they cannot be. -/
def directed (directions : List Direction) (action : ShellM Unit) : ShellM Unit := do
  let before := (← get).process
  ShellM.ensuring (do if ← direct substitute directions then action) (restoreStreams directions before)

/-- Complains of a stream that has no number of one digit. -/
def failNumber : ShellM α :=
  ShellM.failReading "Bad fd number"

/-- Expands the target of a redirection. -/
def Redirection.expand : Redirection → ShellM Direction
  | .file stream access overwrite path => do
    pure (.file stream access overwrite (← expandText substitute false path))
  | .duplicate stream source => do
    match (← expandText substitute false source).toList with
    | ['-'] => pure (.duplicate stream none)
    | [c] => if c.isDigit then pure (.duplicate stream (some (c.toNat - '0'.toNat))) else failNumber
    | _ => failNumber
  | .document stream text => pure (.document stream text)

/-- Expands the targets of redirections. -/
def expandTargets : List Redirection → ShellM (List Direction)
  | [] => pure []
  | r :: rs => do
    let first ← r.expand substitute
    let rest ← expandTargets rs
    pure (first :: rest)

end Targets

end Rebuild.Shell
