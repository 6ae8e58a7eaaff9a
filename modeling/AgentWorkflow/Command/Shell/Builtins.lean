/-
Commands that a shell runs itself.

* `Shell.testResult` — the conditions of `test`.
* `Shell.echo`, `Shell.changeDirectory`, `Shell.readInto`, `Shell.export`, `Shell.unset`,
  `Shell.setOptions`, `Shell.shift`, `Shell.kill` — what they do.
* `Shell.builtin?` — the builtin of a name, of those that run no script.
-/
import AgentWorkflow.Command.Programs
import AgentWorkflow.Command.Shell.Basic

namespace AgentWorkflow.Shell

/-! ### Conditions -/

/-- A whole number, or the complaint that a text spells none. -/
def wholeNumber (s : String) : Except String Int :=
  let digits := match (Text.trim s).toList with
    | '-' :: rest => rest
    | '+' :: rest => rest
    | cs => cs
  match Text.digits? digits with
  | some _ => .ok (Printf.wholeOf (Text.trim s))
  | none => .error ("Illegal number: " ++ s)

def compareWhole (operator : String) (a b : Int) : Option Bool :=
  match operator with
  | "-eq" => some (a == b)
  | "-ne" => some (a != b)
  | "-lt" => some (decide (a < b))
  | "-le" => some (decide (a ≤ b))
  | "-gt" => some (decide (b < a))
  | "-ge" => some (decide (b ≤ a))
  | _ => none

/-- A condition of one operator and its operand. -/
def unary? (disk : Disk) (operator operand : String) : Option Bool :=
  match operator with
  | "-f" => some (disk.isFile operand)
  | "-d" => some (disk.isDirectory operand)
  | "-e" => some (disk.find operand).toOption.isSome
  | "-r" => some (disk.find operand).toOption.isSome
  | "-w" => some (disk.find operand).toOption.isSome
  | "-x" => some (disk.isDirectory operand)
  | "-s" =>
    match disk.read operand with
    | .ok bytes => some (!bytes.isEmpty)
    | .error _ => some (disk.isDirectory operand)
  | "-L" => some false
  | "-h" => some false
  | "-n" => some (!operand.isEmpty)
  | "-z" => some operand.isEmpty
  | _ => none

/-- A condition of an operator between two operands. -/
def binary? (a operator b : String) : Except String (Option Bool) :=
  match operator with
  | "=" => .ok (some (a == b))
  | "!=" => .ok (some (a != b))
  | "<" => .ok (some (decide (a < b)))
  | ">" => .ok (some (decide (b < a)))
  | _ =>
    if (compareWhole operator 0 0).isSome then do
      let x ← wholeNumber a
      let y ← wholeNumber b
      pure (compareWhole operator x y)
    else .ok none

/-- Whether a condition holds, or what is wrong with it. -/
def testResult (disk : Disk) : Nat → List String → Except String Bool
  | 0, _ => .ok false
  | _ + 1, [] => .ok false
  | _ + 1, [s] => .ok (!s.isEmpty)
  | fuel + 1, args =>
    match args with
    | [a, "-a", b] => .ok (!a.isEmpty && !b.isEmpty)
    | [a, "-o", b] => .ok (!a.isEmpty || !b.isEmpty)
    | [a, operator, b] => do
      match ← binary? a operator b with
      | some result => pure result
      | none =>
        if a = "!" then (testResult disk fuel [operator, b]).map not
        else .error (operator ++ ": unexpected operator")
    | "!" :: rest => (testResult disk fuel rest).map not
    | [operator, operand] =>
      match unary? disk operator operand with
      | some result => .ok result
      | none => .error (operator ++ ": unexpected operator")
    | args =>
      match args.splitOnP fun a => a = "-o" with
      | [] => .ok false
      | [_] =>
        match args.splitOnP fun a => a = "-a" with
        | [] => .ok false
        | [_] => .error ((args[1]?).getD "" ++ ": unexpected operator")
        | parts => (parts.mapM (testResult disk fuel)).map fun rs => rs.all id
      | parts => (parts.mapM (testResult disk fuel)).map fun rs => rs.any id

/-- Runs `test`, by the name it was called by. -/
def test (name : String) (args : List String) (sh : Shell) : Shell :=
  match testResult sh.task.disk (args.length + 1) args with
  | .ok holds => sh.setCode (if holds then 0 else 1)
  | .error fault => (sh.complain (name ++ ": " ++ fault)).setCode 2

/-- Runs `test` by its other name, which needs a closing bracket. -/
def testBracket (args : List String) (sh : Shell) : Shell :=
  if args.getLast? = some "]" then test "[" args.dropLast sh
  else (sh.complain "[: missing ]").setCode 2

/-! ### Output and input -/

/-- The shell's own way of writing its arguments: escapes are replaced. -/
def echo (args : List String) (sh : Shell) : Shell :=
  let (words, feed) := match args with
    | "-n" :: rest => (rest, "")
    | rest => (rest, "\n")
  let s := Text.join " " words
  let (bytes, goes) := Printf.unescape (s.length + 1) s.toList
  (sh.setTask ((sh.task.put bytes).putText (if goes then feed else ""))).setCode 0

/-- A line of input, what follows it, and whether a line feed ended it. -/
def takeLine (bytes : List UInt8) : List UInt8 × List UInt8 × Bool :=
  let line := bytes.takeWhile (· ≠ 10)
  (line, bytes.drop (line.length + 1), line.length < bytes.length)

/-- Drops the backslashes that take the meaning of what follows. -/
def dropBackslashes : List Char → List Char
  | [] => []
  | '\\' :: c :: rest => c :: dropBackslashes rest
  | '\\' :: [] => []
  | c :: rest => c :: dropBackslashes rest

/-- The values of names for the words of a line; the last name takes all that is left. -/
def shareOut : List String → List Char → List (String × String)
  | [], _ => []
  | [name], cs => [(name, String.ofList (Text.trimChars cs))]
  | name :: rest, cs =>
    let cs := cs.dropWhile Text.isBlank
    let word := cs.takeWhile fun c => !Text.isBlank c
    (name, String.ofList word) :: shareOut rest (cs.drop word.length)

/-- Reads a line into variables. -/
def readInto (args : List String) (sh : Shell) : Shell :=
  let raw := args.head? = some "-r"
  let names := args.filter (· ≠ "-r")
  let (line, rest, ended) := takeLine sh.task.input
  let text := (Text.decodeLossy line).toList
  let text := if raw then text else dropBackslashes text
  let sh := sh.setTask { sh.task with input := rest }
  let sh := (shareOut (if names.isEmpty then ["REPLY"] else names) text).foldl
    (fun sh b => sh.bind b.1 b.2) sh
  sh.setCode (if ended then 0 else 1)

/-! ### Variables and arguments -/

/-- Sets and marks variables, each written `name` or `name=value`. -/
def mark (exported : Bool) (args : List String) (sh : Shell) : Shell :=
  (args.foldl (fun sh arg =>
    let name := arg.toList.takeWhile (· ≠ '=')
    let sh := match arg.toList.drop name.length with
      | '=' :: value => sh.bind (String.ofList name) (String.ofList value)
      | _ => sh
    if exported then sh.expose (String.ofList name) else sh) sh).setCode 0

def unset (args : List String) (sh : Shell) : Shell :=
  (args.foldl (fun sh name =>
    { sh with bindings := Table.erase sh.bindings name
              functions := Table.erase sh.functions name }) sh).setCode 0

/-- Sets options, and the arguments after them. -/
def setOptions (sh : Shell) : List String → Shell
  | [] => sh.setCode 0
  | "--" :: rest => { sh with arguments := rest, code := 0 }
  | "-o" :: _ :: rest => setOptions sh rest
  | arg :: rest =>
    match arg.toList with
    | '-' :: letters => setOptions { sh with strict := sh.strict || letters.contains 'e' } rest
    | '+' :: letters => setOptions { sh with strict := sh.strict && !letters.contains 'e' } rest
    | _ => { sh with arguments := arg :: rest, code := 0 }

/-- Drops arguments from the front. -/
def shift (args : List String) (sh : Shell) : Flow × Shell :=
  let n := (Text.digits? (args.headD "1").toList).getD 1
  if sh.arguments.length < n then
    (.stop (.exited 2), (sh.complain "shift: can't shift that many").setCode 2)
  else (.next, { sh with arguments := sh.arguments.drop n, code := 0 })

/-! ### Files and processes -/

/-- Changes the working directory. -/
def changeDirectory (args : List String) (sh : Shell) : Shell :=
  let path := args.headD "/"
  match sh.task.disk.find path with
  | .ok (place, .directory) =>
    { sh with
      task := { sh.task with disk := { sh.task.disk with workingDirectory := place } }
      code := 0 }
  | _ => (sh.complain ("cd: can't cd to " ++ path)).setCode 2

/-- The signals by name that end a program. -/
def signals : List (String × Nat) := [
  ("HUP", 1), ("INT", 2), ("QUIT", 3), ("ILL", 4), ("TRAP", 5), ("ABRT", 6), ("BUS", 7),
  ("FPE", 8), ("KILL", 9), ("USR1", 10), ("SEGV", 11), ("USR2", 12), ("PIPE", 13), ("ALRM", 14),
  ("TERM", 15)]

/-- The number of a signal that is given by its name or its number. -/
def signalNumber? (s : String) : Option Nat :=
  let name := (Text.dropHead? "SIG" s).getD s
  match Text.digits? name.toList with
  | some n => some n
  | none => signals.lookup name

/-- The signal and the number of the program that it is sent to. -/
def killArguments : List String → Option (Nat × String)
  | ["-s", s, n] => (signalNumber? s).map fun signal => (signal, n)
  | [s, n] =>
    match s.toList with
    | '-' :: name => (signalNumber? (String.ofList name)).map fun signal => (signal, n)
    | _ => none
  | [n] => some (15, n)
  | _ => none

/-- Sends a signal; a shell that sends one to itself ends. -/
def kill (args : List String) (sh : Shell) : Flow × Shell :=
  match killArguments args with
  | some (signal, number) =>
    if number ≠ ownNumber then (.next, (sh.complain "kill: No such process").setCode 1)
    else if signals.any fun s => s.2 = signal then (.stop (.signaled signal), sh)
    else (.next, sh.setCode 0)
  | none => (.next, (sh.complain "kill: No such process").setCode 1)

/-- Waits for the commands for which nobody has waited. -/
def wait (sh : Shell) : Flow × Shell :=
  let (inTime, task) := sh.task.sleep (sh.busyUntil - sh.task.elapsed)
  (if inTime then .next else .stop .expired, (sh.setTask task).setCode 0)

/-- The number that an argument of `exit` spells, or the last exit code. -/
def exitCode (sh : Shell) (args : List String) : Nat :=
  match args with
  | [] => sh.code
  | n :: _ => ((Text.digits? n.toList).getD 2) % 256

/-! ### All of them -/

/-- Builtins without effect on what runs here. -/
def idle : List String := [":", "umask", "ulimit", "hash", "times", "alias", "unalias", "jobs"]

/-- The names of all builtins. -/
def builtinNames : List String :=
  idle ++ [".", "[", "break", "cd", "command", "continue", "echo", "eval", "exec", "exit",
    "export", "false", "kill", "local", "printf", "pwd", "read", "readonly", "return", "set",
    "shift", "test", "trap", "true", "type", "unset", "wait"]

/-- Builtins for which variables that are set before them stay set. -/
def specialNames : List String :=
  [":", ".", "break", "continue", "eval", "exec", "exit", "export", "readonly", "return", "set",
    "shift", "times", "trap", "unset"]

/-- The count that an argument of `break` and its like spells. -/
def loopCount (args : List String) : Nat :=
  max 1 ((Text.digits? (args.headD "1").toList).getD 1)

/-- The builtin of a name, of those that run no script. -/
def builtin? (name : String) (args : List String) : Option (Shell → Flow × Shell) :=
  let plain (f : Shell → Shell) : Option (Shell → Flow × Shell) := some fun sh => (.next, f sh)
  match name with
  | "echo" => plain (echo args)
  | "test" => plain (test "test" args)
  | "[" => plain (testBracket args)
  | "cd" => plain (changeDirectory args)
  | "read" => plain (readInto args)
  | "export" => plain (mark true args)
  | "readonly" => plain (mark false args)
  | "local" => plain (mark false args)
  | "unset" => plain (unset args)
  | "set" => plain fun sh => sh.setOptions args
  | "shift" => some (shift args)
  | "kill" => some (kill args)
  | "wait" => some wait
  | "exit" => some fun sh => (.stop (.exited (sh.exitCode args)), sh)
  | "return" => some fun sh => (.back, sh.setCode (sh.exitCode args))
  | "break" => some fun sh => (.leave (loopCount args), sh.setCode 0)
  | "continue" => some fun sh => (.again (loopCount args), sh.setCode 0)
  | "trap" => plain fun sh =>
    match args with
    | [action, signal] =>
      if signal = "EXIT" || signal = "0" then { sh with farewell := some action, code := 0 }
      else sh.setCode 0
    | _ => sh.setCode 0
  | _ => if idle.contains name then plain fun sh => sh.setCode 0 else none

end AgentWorkflow.Shell
