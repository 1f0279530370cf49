import GoRebuild.Lexical.Number
import GoRebuild.Verify.Compare

/-!
# The tools that scripts call

* `Folder` : files by their names;
* `Tool` : what a tool gets and gives;
* `echo`, `printf`, `cat`, `head`, `tr`, `test` : the tools;
* `tool?` : a tool by its name.
-/

namespace GoRebuild.Shell

/-- Files by their names. -/
abbrev Folder := List (String × String)

namespace Folder

/-- A name without the mark of the folder itself in front. -/
def clean (name : String) : String :=
  match name.toList with
  | '.' :: '/' :: cs => String.ofList cs
  | _ => name

def text? (f : Folder) (name : String) : Option String :=
  if name = "/dev/null" then some "" else f.lookup (clean name)

/-- The folder with a file. -/
def put (f : Folder) (name text : String) : Folder :=
  let name := clean name
  if (f.lookup name).isSome then f.map fun e => if e.1 = name then (name, text) else e
  else f ++ [(name, text)]

end Folder

/-- What a tool gives: its status, what it prints, what it complains, and the input that it leaves. -/
structure Printed where
  status : Nat := 0
  out : String := ""
  err : String := ""
  input : String

/-- A tool, from its arguments, its input and the files around it. -/
abbrev Tool := List String → String → Folder → Printed

/-! ## Printing -/

/-- What a text prints where backslashes are escapes; also whether printing ends there. -/
def unescape : List Char → List Char × Bool
  | [] => ([], false)
  | '\\' :: c :: cs =>
    if c = 'c' then ([], true)
    else
      let r := unescape cs
      let one (d : Char) := (d :: r.1, r.2)
      if c = 'n' then one '\n'
      else if c = 't' then one '\t'
      else if c = 'r' then one '\r'
      else if c = 'a' then one (Char.ofNat 7)
      else if c = 'b' then one (Char.ofNat 8)
      else if c = 'f' then one (Char.ofNat 12)
      else if c = 'v' then one (Char.ofNat 11)
      else if c = '\\' then one '\\'
      else ('\\' :: c :: r.1, r.2)
  | c :: cs =>
    let r := unescape cs
    (c :: r.1, r.2)

/-- Prints its arguments on a line. -/
def echo : Tool := fun args input _ =>
  let (line, args) := match args with
    | "-n" :: rest => ("", rest)
    | _ => ("\n", args)
  let r := unescape (" ".intercalate args).toList
  ⟨0, String.ofList r.1 ++ (if r.2 then "" else line), "", input⟩

/-- One round of a format over arguments; gives the arguments that are left. -/
def formatOnce : List Char → List String → List Char × List String
  | [], args => ([], args)
  | '%' :: '%' :: cs, args =>
    let r := formatOnce cs args
    ('%' :: r.1, r.2)
  | '%' :: 's' :: cs, args =>
    let r := formatOnce cs args.tail
    ((args.headD "").toList ++ r.1, r.2)
  | '%' :: 'd' :: cs, args =>
    let r := formatOnce cs args.tail
    ((args.headD "0").toList ++ r.1, r.2)
  | '\\' :: c :: cs, args =>
    let r := formatOnce cs args
    ((unescape ['\\', c]).1 ++ r.1, r.2)
  | c :: cs, args =>
    let r := formatOnce cs args
    (c :: r.1, r.2)

/-- A format over all arguments, again and again while it takes some. -/
def formatAll (format : List Char) : Nat → List String → List Char
  | 0, _ => []
  | n + 1, args =>
    let r := formatOnce format args
    if r.2.isEmpty || r.2.length = args.length then r.1 else r.1 ++ formatAll format n r.2

def printf : Tool := fun args input _ =>
  match args with
  | [] => ⟨2, "", "printf: usage: printf format [arg ...]\n", input⟩
  | format :: rest =>
    ⟨0, String.ofList (formatAll format.toList (rest.length + 1) rest), "", input⟩

/-! ## Copying -/

/-- Prints files, or the input. -/
def catFiles (folder : Folder) : List String → Printed → Printed
  | [], p => p
  | name :: names, p =>
    if name = "-" then catFiles folder names { p with out := p.out ++ p.input, input := "" }
    else
      match folder.text? name with
      | some text => catFiles folder names { p with out := p.out ++ text }
      | none =>
        catFiles folder names
          { p with status := 1, err := p.err ++ "cat: " ++ name ++ ": No such file or directory\n" }

/-- Prints files one after the other, or the input. -/
def cat : Tool := fun args input folder =>
  catFiles folder (if args.isEmpty then ["-"] else args) { input := input }

/-- The first lines of a text, their ends with them. -/
def firstLines : Nat → List Char → List Char
  | 0, _ => []
  | _, [] => []
  | n + 1, c :: cs => c :: firstLines (if c = '\n' then n else n + 1) cs

/-- A number in decimal. -/
def number? (s : String) : Option Nat :=
  if s.isEmpty || !s.toList.all Char.isDigit then none
  else some (s.toList.foldl (fun n d => n * 10 + (d.toNat - 48)) 0)

/-- Prints the first lines of the input. -/
def head : Tool := fun args input _ =>
  let count := match args with
    | ["-n", n] => (number? n).getD 10
    | [arg] => (number? (String.ofList (arg.toList.drop 1))).getD 10
    | _ => 10
  ⟨0, String.ofList (firstLines count input.toList), "", ""⟩

/-! ## Replacing characters -/

/-- The characters from one to another. -/
def charRange (low high : Char) : List Char :=
  (List.range (high.toNat + 1 - low.toNat)).map fun i => Char.ofNat (low.toNat + i)

/-- The characters that a set is written for: ranges and escapes. -/
def setChars : List Char → List Char
  | [] => []
  | a :: '-' :: b :: cs => charRange a b ++ setChars cs
  | c :: cs => c :: setChars cs

/-- A set of characters, classes and escapes included. -/
def charSet (s : String) : List Char :=
  if s = "[:upper:]" then charRange 'A' 'Z'
  else if s = "[:lower:]" then charRange 'a' 'z'
  else if s = "[:digit:]" then charRange '0' '9'
  else if s = "[:space:]" then [' ', '\t', '\n', Char.ofNat 11, Char.ofNat 12, '\r']
  else setChars (unescape s.toList).1

/-- What a character becomes: its partner in the second set, of which the last character repeats. -/
def translate (from' to' : List Char) (c : Char) : Char :=
  match from'.idxOf? c with
  | some i => (to'[i]?).getD (to'.getLastD c)
  | none => c

/-- Replaces or deletes characters of the input. -/
def tr : Tool := fun args input _ =>
  match args with
  | ["-d", set] =>
    ⟨0, String.ofList (input.toList.filter fun c => !(charSet set).contains c), "", ""⟩
  | [a, b] => ⟨0, String.ofList (input.toList.map (translate (charSet a) (charSet b))), "", ""⟩
  | _ => ⟨1, "", "tr: missing operand\n", input⟩

/-! ## Conditions -/

/-- Whether a condition holds, `none` where it is none. -/
def holds? (folder : Folder) : List String → Option Bool
  | [] => some false
  | [s] => some (!s.isEmpty)
  | "!" :: rest => (holds? folder rest).map (!·)
  | ["-z", s] => some s.isEmpty
  | ["-n", s] => some (!s.isEmpty)
  | ["-f", s] => some (folder.text? s).isSome
  | ["-e", s] => some (folder.text? s).isSome
  | [a, "=", b] => some (a = b)
  | [a, "!=", b] => some (a ≠ b)
  | [a, "-eq", b] => do return (← number? a) = (← number? b)
  | [a, "-ne", b] => do return (← number? a) ≠ (← number? b)
  | [a, "-lt", b] => do return (← number? a) < (← number? b)
  | [a, "-le", b] => do return (← number? a) ≤ (← number? b)
  | [a, "-gt", b] => do return (← number? a) > (← number? b)
  | [a, "-ge", b] => do return (← number? a) ≥ (← number? b)
  | _ => none

def test : Tool := fun args input folder =>
  match holds? folder args with
  | some true => ⟨0, "", "", input⟩
  | some false => ⟨1, "", "", input⟩
  | none => ⟨2, "", "test: bad condition\n", input⟩

/-- Tests a condition that a bracket closes. -/
def bracket : Tool := fun args input folder =>
  if args.getLast? = some "]" then test args.dropLast input folder
  else ⟨2, "", "[: missing ]\n", input⟩

/-! ## Names -/

/-- A tool by its name. -/
def tool? : String → Option Tool
  | "echo" => some echo
  | "printf" => some printf
  | "cat" => some cat
  | "head" => some head
  | "tr" => some tr
  | "test" => some test
  | "[" => some bracket
  | "true" => some fun _ input _ => ⟨0, "", "", input⟩
  | ":" => some fun _ input _ => ⟨0, "", "", input⟩
  | "false" => some fun _ input _ => ⟨1, "", "", input⟩
  | _ => none

end GoRebuild.Shell
