import GoRebuild.Cli.System

/-!
# A directory in memory

* `Workspace` : the files below a directory, and standard input;
* `Workspace.read`, `Workspace.write` : files by their paths;
* `Workspace.findTool` : programs, which are scripts in the directory or tools of the shell;
* `Workspace.system` : all of it as a `System`.

Only a text that starts with `#!` can be run.
-/

namespace GoRebuild
open Shell (Folder Finished)

/-- The files below a directory by their paths, and standard input. -/
structure Workspace where
  files : Folder
  stdin : String := ""

namespace Workspace

def parts (path : String) : List String :=
  (path.splitOn "/").filter fun p => !p.isEmpty

/-- Whether files stand below a path. -/
def isDirectory (w : Workspace) (path : List String) : Bool :=
  path.isEmpty || w.files.any fun f =>
    let ps := parts f.1
    path.isPrefixOf ps && path.length < ps.length

/-- The file at a path. -/
def file? (w : Workspace) (path : List String) : Option String :=
  (w.files.find? fun f => parts f.1 = path).map (·.2)

/-- Goes along a path; every part but the last must be a directory. -/
def walk (w : Workspace) (at' : List String) : List String → Except FileError (List String)
  | [] => .ok at'
  | p :: ps =>
    if !w.isDirectory at' then
      .error (if (w.file? at').isSome then .notDirectory else .notFound)
    else if p = "." then w.walk at' ps
    else if p = ".." then w.walk at'.dropLast ps
    else w.walk (at' ++ [p]) ps

/-- The path without detours. A slash at its end asks for a directory. -/
def locate (w : Workspace) (path : String) : Except FileError (List String) :=
  if path.isEmpty || path.startsWith "/" then .error .notFound
  else w.walk [] (parts path ++ if path.endsWith "/" then ["."] else [])

def read (w : Workspace) (path : String) : Except FileError String :=
  if path = "/dev/null" then .ok ""
  else do
    let p ← w.locate path
    if w.isDirectory p then throw .isDirectory
    match w.file? p with
    | some text => return text
    | none => throw .notFound

/-- The directory with a file. -/
def write (w : Workspace) (path text : String) : Except FileError Workspace :=
  if path = "/dev/null" then .ok w
  else do
    let p ← w.locate path
    if w.isDirectory p || path.endsWith "/" then throw .isDirectory
    if !w.isDirectory p.dropLast then
      throw (if (w.file? p.dropLast).isSome then .notDirectory else .notFound)
    match w.files.find? fun f => parts f.1 = p with
    | some (name, _) => return { w with files := w.files.put name text }
    | none => return { w with files := w.files ++ [("/".intercalate p, text)] }

/-! ## Programs -/

/-- A program that can be run. -/
inductive Program where
  | script (name text : String)
  | tool (name : String)

/-- The program of a name: a path, or a tool of the shell. -/
def findTool (w : Workspace) (name : String) : Option Program :=
  let known (tool : String) : Option Program :=
    if tool = "sh" || (Shell.tool? tool).isSome then some (.tool tool) else none
  if !name.contains '/' then known name
  else if name.startsWith "/" then
    match parts name with
    | ["bin", tool] | ["usr", "bin", tool] => known tool
    | _ => none
  else
    match w.read name with
    | .ok text => if text.startsWith "#!" then some (.script name text) else none
    | .error _ => none

/-- Runs the program of a name. -/
def run (w : Workspace) (name : String) (args : List String) (input : String) (folder : Folder) :
    Finished :=
  let missing : Finished := ⟨.code 127, "", name ++ ": not found\n", folder⟩
  match w.findTool name with
  | some (.script name text) => Shell.runScript name text args input folder
  | some (.tool tool) => (Shell.runTool? tool args input folder).getD missing
  | none => missing

/-- Files, standard input and programs of a directory in memory. -/
def system (parser : SourceParser) : System (StateM Workspace) where
  parser := parser
  read path := do return (← get).read path
  write path text := do
    match (← get).write path text with
    | .ok w =>
      set w
      return .ok ()
    | .error e => return .error e
  stdin := do return (← get).stdin
  configHome := pure (some "xdg")
  has name := do return ((← get).findTool name).isSome
  runIn name args folder := do return (← get).run name args "" folder
  filter name input := do
    let w ← get
    let done := w.run name [] input w.files
    set { w with files := done.folder }
    return done

end Workspace

end GoRebuild
