import GoRebuild.Shell.Syntax
import GoRebuild.Shell.Tools

/-!
# Running scripts

* `ExitStatus` : how a program ends;
* `State`, `Streams` : what a script has done, and where its output goes;
* `Command.run` : what a command does;
* `runScript`, `runTool?` : a script or a tool from start to end.
-/

namespace GoRebuild.Shell

/-- How a program ends. -/
inductive ExitStatus where
  | code (n : Nat)
  | signal (n : Nat)
  deriving DecidableEq, Repr

def ExitStatus.display : ExitStatus → String
  | code n => "exit status: " ++ toString n
  | signal 9 => "signal: 9 (SIGKILL)"
  | signal 15 => "signal: 15 (SIGTERM)"
  | signal n => "signal: " ++ toString n

/-- Where a stream goes. -/
inductive Sink where
  | out | err | nothing | pipe
  | file (name : String)
  deriving DecidableEq, Repr

/-- Where the two output streams go. -/
structure Streams where
  out : Sink := .out
  err : Sink := .err
  deriving DecidableEq, Repr

/-- What a script has done so far. -/
structure State where
  /-- The name of the script and its arguments. -/
  args : List String
  input : String
  folder : Folder
  out : String := ""
  err : String := ""
  /-- What was written to the innermost pipe. -/
  pipe : String := ""
  status : Nat := 0
  /-- Whether the script is over, and how. -/
  ended : Option ExitStatus := none

namespace State

def write (s : State) (sink : Sink) (text : String) : State :=
  match sink with
  | .out => { s with out := s.out ++ text }
  | .err => { s with err := s.err ++ text }
  | .nothing => s
  | .pipe => { s with pipe := s.pipe ++ text }
  | .file name => { s with folder := s.folder.put name ((s.folder.text? name).getD "" ++ text) }

/-- The value of a parameter. -/
def param (s : State) (name : String) : String :=
  if name = "#" then toString (s.args.length - 1)
  else if name = "?" then toString s.status
  else if name = "@" || name = "*" then " ".intercalate s.args.tail
  else if name = "$" then "$"
  else
    match number? name with
    | some n => s.args.getD n ""
    | none => ""

/-- The fields of a word with one more part: those that are complete, and the one that is not. Parameters
outside quotes fall apart at blanks. -/
def expandPart (s : State) (done : List String × Option String) : Part → List String × Option String
  | .plain t => (done.1, some (done.2.getD "" ++ t))
  | .quoted t => (done.1, some (done.2.getD "" ++ t))
  | .param n true => (done.1, some (done.2.getD "" ++ s.param n))
  | .param n false =>
    match ((s.param n).splitOn " ").filter fun w => !w.isEmpty with
    | [] => done
    | w :: ws =>
      let fields := (done.2.getD "" ++ w) :: ws
      (done.1 ++ fields.dropLast, fields.getLast?)

/-- The fields that a word becomes. -/
def expand (s : State) (w : Word) : List String :=
  let r := w.foldl s.expandPart ([], none)
  r.1 ++ r.2.toList

/-- A word as one text. -/
def expandOne (s : State) (w : Word) : String :=
  " ".intercalate (s.expand w)

end State

/-- Opens one redirection. -/
def Streams.redirect (r : Streams × State) : Redirect → Streams × State
  | .copy 1 2 => ({ r.1 with out := r.1.err }, r.2)
  | .copy 2 1 => ({ r.1 with err := r.1.out }, r.2)
  | .copy _ _ => r
  | .read w => (r.1, { r.2 with input := (r.2.folder.text? (r.2.expandOne w)).getD "" })
  | .write stream append w =>
    let name := r.2.expandOne w
    let (sink, state) :=
      if name = "/dev/null" then (Sink.nothing, r.2)
      else if append then (Sink.file name, r.2)
      else (Sink.file name, { r.2 with folder := r.2.folder.put name "" })
    (if stream = 2 then { r.1 with err := sink } else { r.1 with out := sink }, state)

/-- The signals by name. -/
def signal? (s : String) : Option Nat :=
  [("-9", 9), ("-KILL", 9), ("-15", 15), ("-TERM", 15)].lookup s

/-- What a simple command does. -/
def State.call (s : State) (streams : Streams) : List String → State
  | [] => { s with status := 0 }
  | "exit" :: rest =>
    let n := (rest.head?.bind number?).getD s.status
    { s with status := n % 256, ended := some (.code (n % 256)) }
  | ["kill", sig, "$"] =>
    match signal? sig with
    | some n => { s with ended := some (.signal n) }
    | none => { s with status := 1 }
  | name :: args =>
    match tool? name with
    | some tool =>
      let p := tool args s.input s.folder
      let s := (s.write streams.out p.out).write streams.err p.err
      { s with status := p.status, input := p.input }
    | none =>
      let s := s.write streams.err (s.args.headD "sh" ++ ": 1: " ++ name ++ ": not found\n")
      { s with status := 127 }

/-- What a command does. Nothing is done any more once the script is over; an end inside a pipe ends that
part of it only. -/
def Command.run (streams : Streams) (s : State) (c : Command) : State :=
  if s.ended.isSome then s
  else
    match c with
    | .nothing => s
    | .simple words => s.call streams (words.flatMap s.expand)
    | .redirected c rs =>
      let (inner, t) := rs.foldl Streams.redirect (streams, s)
      let t' := c.run inner t
      if rs.any (fun r => match r with | .read _ => true | _ => false) then
        { t' with input := s.input }
      else t'
    | .pipe a b =>
      let t := a.run { streams with out := .pipe } { s with pipe := "" }
      let u := b.run streams { t with input := t.pipe, pipe := s.pipe, ended := none, status := 0 }
      let status := match u.ended with
        | some (.code n) => n
        | _ => u.status
      { u with input := t.input, ended := none, status := status }
    | .both a b =>
      let t := a.run streams s
      if t.status = 0 then b.run streams t else t
    | .either a b =>
      let t := a.run streams s
      if t.status = 0 then t else b.run streams t
    | .negated a =>
      let t := a.run streams s
      { t with status := if t.status = 0 then 1 else 0 }
    | .inOrder a b => b.run streams (a.run streams s)
    | .choose cond yes no =>
      let t := cond.run streams s
      if t.status = 0 then yes.run streams { t with status := 0 }
      else no.run streams { t with status := 0 }

/-- What a program has done in the end. -/
structure Finished where
  status : ExitStatus
  out : String
  err : String
  folder : Folder

/-- Runs a script under a name with arguments. -/
def runScript (name script : String) (args : List String) (input : String) (folder : Folder) :
    Finished :=
  match parse? script with
  | some c =>
    let s := c.run {} { args := name :: args, input := input, folder := folder }
    ⟨s.ended.getD (.code s.status), s.out, s.err, s.folder⟩
  | none => ⟨.code 2, "", name ++ ": 1: Syntax error\n", folder⟩

/-- Runs a tool by its name, if there is one. The shell itself is one that runs the script in a file. -/
def runTool? (name : String) (args : List String) (input : String) (folder : Folder) :
    Option Finished :=
  if name = "sh" then
    match args with
    | [] => some (runScript "sh" input [] "" folder)
    | file :: args =>
      match folder.text? file with
      | some script => some (runScript file script args input folder)
      | none => some ⟨.code 2, "", "sh: 0: cannot open " ++ file ++ ": No such file\n", folder⟩
  else
    (tool? name).map fun tool =>
      let p := tool args input folder
      ⟨.code p.status, p.out, p.err, folder⟩

end GoRebuild.Shell
