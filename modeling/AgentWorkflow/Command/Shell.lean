/-
Running shell scripts.

* `Shell.run` — runs a script.
* `Shell.runText` — runs the script that a text spells.
* `Shell.program` — the shell as a program: `sh -c script name arguments`, a script in a
  file, or one in the input.

Design notes: the fuel counts how deep scripts are nested, by substitution, by functions or
by a shell that a script calls.  A loop goes round at most `turnLimit` times; one that would
go on uses up the time that is allowed.  A command for which nobody waits is run at once,
and only when it ends is kept.
-/
import AgentWorkflow.Command.Arithmetic
import AgentWorkflow.Command.Script.Reader
import AgentWorkflow.Command.Shell.Builtins

namespace AgentWorkflow.Shell

open Script (Word Piece Redirection Treatment)

/-- How often a loop goes round at most. -/
def turnLimit : Nat := 20000

/-! ### Redirections -/

/-- Where the streams of a command go. -/
inductive Outlet where
  | stream (s : OutStream)
  | file (path : String)
  deriving DecidableEq

structure Outlets where
  output : Outlet
  errors : Outlet

def Outlets.get (o : Outlets) : Nat → Outlet
  | 2 => o.errors
  | _ => o.output

def Outlets.set (o : Outlets) (stream : Nat) (outlet : Outlet) : Outlets :=
  if stream = 2 then { o with errors := outlet } else { o with output := outlet }

/-- Adds bytes at the end of a file. -/
def appendFile (disk : Disk) (path : String) (bytes : List UInt8) : Disk :=
  if path = "/dev/null" then disk
  else
    match disk.write path ((disk.read path).toOption.getD [] ++ bytes) with
    | .ok d => d
    | .error _ => disk

/-- Leads what a command wrote to where it goes. -/
def deliver (o : Outlets) (t : Task) (writes : List (OutStream × List UInt8)) : Task :=
  writes.reverse.foldl (fun t w =>
    match (if w.1 = .errors then o.errors else o.output) with
    | .stream s => t.write s w.2
    | .file path => { t with disk := appendFile t.disk path w.2 }) t

/-- Prepares a redirection to a file. -/
def openFile (sh : Shell) (append : Bool) (path : String) : Option Shell × Shell :=
  if path = "/dev/null" then (some sh, sh)
  else
    let start := if append then (sh.task.disk.read path).toOption.getD [] else []
    match sh.task.disk.write path start with
    | .ok disk => (some (sh.setTask { sh.task with disk }), sh)
    | .error e =>
      (none, (sh.complain ("cannot create " ++ path ++ ": " ++
        (if e = .notFound then "Directory nonexistent" else e.text))).setCode 2)

/-- Leads the input from a file. -/
def openInput (sh : Shell) (path : String) : Option Shell × Shell :=
  match sh.task.disk.find path, sh.task.readFile path with
  | .ok (_, .directory), _ => (some (sh.setTask { sh.task with input := [] }), sh)
  | _, .ok bytes =>
    (some (sh.setTask { sh.task with input := bytes, fromFile := path ≠ "/dev/null" }), sh)
  | _, .error e =>
    (none, (sh.complain ("cannot open " ++ path ++ ": " ++
      (if e = .notFound then "No such file" else e.text))).setCode 2)

/-! ### Programs -/

/-- What follows from how a program ended. -/
def after (sh : Shell) : Status → Flow × Shell
  | .exited code => (.next, sh.setCode code)
  | .signaled signal => (.next, sh.setCode (128 + signal))
  | .expired => (.stop .expired, sh)

/-- How the shell names the end of a program by a signal. -/
def signalName (signal : Nat) : String :=
  match signal with
  | 1 => "Hangup"
  | 3 => "Quit"
  | 6 => "Aborted"
  | 9 => "Killed"
  | 10 => "User defined signal 1"
  | 11 => "Segmentation fault"
  | 12 => "User defined signal 2"
  | 14 => "Alarm clock"
  | 15 => "Terminated"
  | _ => "Signal " ++ toString signal

/-- Complains that a program is not there, or that what is there cannot be run. -/
def missing (sh : Shell) (name : String) : Flow × Shell :=
  if name.toList.contains '/' && (sh.task.disk.find name).toOption.isSome then
    (.next, (sh.complain (name ++ ": Permission denied")).setCode 126)
  else (.next, (sh.complain (name ++ ": not found")).setCode 127)

/-- Runs a program that is found by its name. -/
def call (sh : Shell) (name : String) (args : List String) : Flow × Shell :=
  match Programs.find? name with
  | some p =>
    let (status, task) := p args sh.task
    after (sh.setTask task) status
  | none => sh.missing name

/-- What `type` and `command -v` say of a name, if it means anything. -/
def whatIs (sh : Shell) (brief : Bool) (name : String) : Option String :=
  if (Table.get? sh.functions name).isSome then
    some (if brief then name else name ++ " is a shell function")
  else if builtinNames.contains name then
    some (if brief then name
      else if specialNames.contains name then name ++ " is a special shell builtin"
      else name ++ " is a shell builtin")
  else if Programs.isShell name || (Programs.find? name).isSome then
    let path := if name.toList.contains '/' then name else "/usr/bin/" ++ name
    some (if brief then path else name ++ " is " ++ path)
  else none

/-- Says what names mean. -/
def explain (sh : Shell) (brief : Bool) (names : List String) : Shell :=
  names.foldl (fun sh name =>
    match sh.whatIs brief name with
    | some text => sh.setTask (sh.task.putText (text ++ "\n"))
    | none =>
      let sh := sh.setCode 127
      if brief then sh else sh.setTask (sh.task.putText (name ++ ": not found\n")))
    (sh.setCode 0)

/-! ### Ends -/

/-- Where a part of a script ended that was run apart: of what it changed only the task
stays, without the working directory. -/
def rejoin (sh inner : Shell) (flow : Flow) : Flow × Shell :=
  let disk := { inner.task.disk with workingDirectory := sh.task.disk.workingDirectory }
  let back := { sh with task := { inner.task with disk }, code := inner.code }
  match flow with
  | .stop (.exited code) => (.next, back.setCode code)
  | .stop status => (.stop status, back)
  | _ => (.next, back)

/-- Ends a strict script after a command that failed. -/
def settle (r : Flow × Shell) : Flow × Shell :=
  match r with
  | (.next, sh) =>
    if sh.strict && !sh.tested && sh.code ≠ 0 then (.stop (.exited sh.code), sh) else (.next, sh)
  | r => r

/-- The options of a shell that is started: whether it is strict, whether a script follows,
and the other arguments. -/
def options : List String → Bool × Bool × List String
  | [] => (false, false, [])
  | arg :: rest =>
    match arg.toList with
    | '-' :: letter :: letters =>
      let (strict, given, rest) := options rest
      ((letter :: letters).contains 'e' || strict, (letter :: letters).contains 'c' || given, rest)
    | _ => (false, false, arg :: rest)

/-- What a shell that is started is to run. -/
inductive Order where
  | text (name script : String) (arguments : List String)
  | unreadable (path : String) (e : OsError)

/-- The script among the arguments of a shell, in a file, or in the input. -/
def order (called : String) (given : Bool) (args : List String) (t : Task) : Order × Task :=
  match given, args with
  | true, script :: name :: rest => (.text name script rest, t)
  | true, script :: [] => (.text called script [], t)
  | true, [] => (.text called "" [], t)
  | false, path :: rest =>
    match t.readFile path with
    | .ok bytes => (.text path (Text.decodeLossy bytes) rest, t)
    | .error e => (.unreadable path e, t)
  | false, [] =>
    let (bytes, t) := t.readInput
    (.text called (Text.decodeLossy bytes) [], t)

/-- Complains that the file of a script cannot be read. -/
def unreadable (called path : String) (e : OsError) (t : Task) : Task :=
  t.complain (called ++ ": 0: cannot open " ++ path ++ ": " ++
    (if e = .notFound then "No such file" else e.text))

/-! ### Scripts -/

mutual

/-- The value of a piece of a word. -/
def pieceValue : Nat → Shell → Piece → List Part × Shell
  | _, sh, .bare s => ([(s, .bare)], sh)
  | _, sh, .quoted s => ([(s, .quoted)], sh)
  | fuel, sh, .parameter name how word quoted =>
    let value? := sh.lookup? name
    let value := value?.getD ""
    let plain : List Part :=
      if name = "@" || name = "*" then sh.argumentParts (name = "*") quoted
      else [(value, manner quoted)]
    let lacks (emptyToo : Bool) : Bool := value?.isNone || (emptyToo && value.isEmpty)
    match how with
    | .plain => (plain, sh)
    | .count => ([(toString value.utf8ByteSize, manner quoted)], sh)
    | .unknown => ([], sh.failWith "Bad substitution")
    | .orElse emptyToo =>
      if lacks emptyToo then
        let (parts, sh) := wordParts fuel sh word
        (loosen parts, sh)
      else (plain, sh)
    | .instead emptyToo =>
      if lacks emptyToo then ([], sh)
      else
        let (parts, sh) := wordParts fuel sh word
        (loosen parts, sh)
    | .orSet emptyToo =>
      if lacks emptyToo then
        let (parts, sh) := wordParts fuel sh word
        ([(textOf parts, manner quoted)], sh.bind name (textOf parts))
      else (plain, sh)
    | .orFail emptyToo =>
      if lacks emptyToo then
        let (parts, sh) := wordParts fuel sh word
        let message := if word.isEmpty then "parameter not set" else textOf parts
        ([], sh.failWith (name ++ ": " ++ message))
      else (plain, sh)
    | .dropEnd longest =>
      let (parts, sh) := wordParts fuel sh word
      ([(String.ofList ((pattern parts).cutEnd longest value.toList), manner quoted)], sh)
    | .dropStart longest =>
      let (parts, sh) := wordParts fuel sh word
      ([(String.ofList ((pattern parts).cutStart longest value.toList), manner quoted)], sh)
  | fuel, sh, .arithmetic expression quoted =>
    let (parts, sh) := wordParts fuel sh expression
    match Arithmetic.evaluate sh.valueOf (textOf parts) with
    | .ok value => ([(toString value, manner quoted)], sh)
    | .error message => ([], sh.failWith message)
  | 0, sh, .output _ quoted => ([("", manner quoted)], sh)
  | fuel + 1, sh, .output script quoted =>
    let (flow, inner) := runText fuel (sh.setTask { sh.task with writes := [] }) script
    let text := Text.decodeLossy (inner.task.chunks .output).flatten
    let trimmed := String.ofList (text.toList.reverse.dropWhile (· = '\n')).reverse
    let errors := inner.task.writes.filter fun w => w.1 = .errors
    let (_, back) := sh.rejoin inner flow
    ([(trimmed, manner quoted)],
      back.setTask { back.task with writes := errors ++ sh.task.writes })
termination_by fuel _ p => (fuel, 0, sizeOf p, 0)

/-- The values of the pieces of a word. -/
def wordParts : Nat → Shell → Word → List Part × Shell
  | _, sh, [] => ([], sh)
  | fuel, sh, piece :: rest =>
    let (parts, sh) := pieceValue fuel sh piece
    let (more, sh) := wordParts fuel sh rest
    (parts ++ more, sh)
termination_by fuel _ w => (fuel, 0, sizeOf w, 0)

/-- Runs the script that a text spells. -/
def runText : Nat → Shell → String → Flow × Shell
  | 0, sh, _ => (.next, sh)
  | fuel + 1, sh, text => run fuel sh (Script.ofText text)
termination_by fuel _ _ => (fuel, 1, 0, 0)

/-- The text of a word that is not parted. -/
def wordText (fuel : Nat) (sh : Shell) (w : Word) : String × Shell :=
  let (parts, sh) := wordParts fuel sh w
  (textOf parts, sh)
termination_by (fuel, 1, 0, 0)

/-- The arguments that words stand for. -/
def expand : Nat → Shell → List Word → List String × Shell
  | _, sh, [] => ([], sh)
  | fuel, sh, w :: rest =>
    let (parts, sh) := wordParts fuel sh w
    let (more, sh') := expand fuel sh rest
    (sh.fields parts ++ more, sh')
termination_by fuel _ ws => (fuel, 1, ws.length, 0)

/-- Prepares the redirections of a command; `none` when one cannot be made. -/
def redirect : Nat → Shell → Outlets → List Redirection → Option Outlets × Shell
  | _, sh, o, [] => (some o, sh)
  | fuel, sh, o, .toStream stream target :: rest =>
    redirect fuel sh (o.set stream (o.get target)) rest
  | fuel, sh, o, .fromText w :: rest =>
    let (text, sh) := wordText fuel sh w
    redirect fuel (sh.setTask { sh.task with input := Text.encode text, fromFile := false }) o rest
  | fuel, sh, o, .fromFile w :: rest =>
    let (path, sh) := wordText fuel sh w
    match sh.openInput path with
    | (some sh, _) => redirect fuel sh o rest
    | (none, sh) => (none, sh)
  | fuel, sh, o, .toFile stream append w :: rest =>
    let (path, sh) := wordText fuel sh w
    match sh.openFile append path with
    | (some sh, _) => redirect fuel sh (o.set stream (.file path)) rest
    | (none, sh) => (none, sh)
termination_by fuel _ _ rs => (fuel, 2, rs.length, 0)

/-- Sets the variables of a command. -/
def assign : Nat → Shell → List (String × Word) → Shell
  | _, sh, [] => sh
  | fuel, sh, (name, w) :: rest =>
    let (value, sh) := wordText fuel sh w
    assign fuel (sh.bind name value) rest
termination_by fuel _ ss => (fuel, 2, ss.length, 0)

/-- Runs a shell that a script starts, or one from outside. -/
def runOrder : Nat → Shell → Order → Flow × Shell
  | _, sh, .unreadable path e =>
    (.stop (.exited 2), (sh.setTask (unreadable sh.name path e sh.task)).setCode 2)
  | fuel, sh, .text name script arguments =>
    let (flow, inner) := runText fuel { sh with name, arguments } script
    match inner.farewell, flow with
    | none, _ => (flow, inner)
    | _, .stop (.signaled _) => (flow, inner)
    | _, .stop .expired => (flow, inner)
    | some action, _ =>
      let code := match flow with
        | .stop (.exited code) => code
        | _ => inner.code
      match runText fuel { inner with farewell := none, code } action with
      | (.stop status, done) => (.stop status, done)
      | (_, done) => (.stop (.exited code), done)
termination_by fuel _ _ => (fuel, 3, 0, 0)

/-- Runs a command by its words. -/
def runWords : Nat → Shell → List String → Flow × Shell
  | _, sh, [] => (.next, sh)
  | 0, sh, name :: args =>
    match builtin? name args with
    | some f => f sh
    | none => sh.call name args
  | fuel + 1, sh, name :: args =>
    match Table.get? sh.functions name with
    | some body =>
      let (flow, done) := run fuel { sh with arguments := args } body
      let done := { done with arguments := sh.arguments }
      match flow with
      | .stop status => (.stop status, done)
      | _ => (.next, done)
    | none =>
      match builtin? name args, name, args with
      | some f, _, _ => f sh
      | none, "eval", args => runText fuel sh (Text.join " " args)
      | none, ".", path :: _ =>
        match sh.task.readFile path with
        | .ok bytes =>
          match runText fuel sh (Text.decodeLossy bytes) with
          | (.back, sh) => (.next, sh)
          | other => other
        | .error _ =>
          (.stop (.exited 2), sh.complain (".: cannot open " ++ path ++ ": No such file"))
      | none, "type", names => (.next, sh.explain false names)
      | none, "command", "-v" :: names => (.next, sh.explain true names)
      | none, "command", names => runWords fuel { sh with functions := [] } names
      | none, "exec", [] => (.next, sh.setCode 0)
      | none, "exec", name :: args =>
        if (sh.whatIs true name).isNone && !name.toList.contains '/' then
          (.stop (.exited 127), (sh.complain ("exec: " ++ name ++ ": not found")).setCode 127)
        else
          match runWords fuel sh (name :: args) with
          | (.next, sh) => (.stop (.exited sh.code), sh)
          | stopped => stopped
      | none, name, args =>
        if Programs.isShell name then
          let (strict, given, rest) := options args
          let (what, task) := order name given rest sh.task
          let inner : Shell :=
            { start name task [] with bindings := sh.exported, strict, busyUntil := sh.busyUntil }
          let (flow, inner) := runOrder fuel inner what
          match flow with
          | .stop (.signaled signal) =>
            let (_, back) := sh.rejoin inner (.stop (.exited (128 + signal)))
            (.next, back.setTask (back.task.complain (signalName signal)))
          | flow => sh.rejoin inner flow
        else sh.call name args
termination_by fuel _ _ => (fuel, 4, 0, 0)

/-- Runs something with its redirections in place. -/
def redirected (fuel : Nat) (sh : Shell) (rs : List Redirection)
    (body : Shell → Flow × Shell) : Flow × Shell :=
  if rs.isEmpty then body sh
  else
    let before := sh.task
    let (outlets?, sh) := redirect fuel sh ⟨.stream .output, .stream .errors⟩ rs
    match outlets? with
    | none => (.next, { sh with task := { sh.task with input := before.input } })
    | some outlets =>
      let (flow, done) := body (sh.setTask { sh.task with writes := [] })
      let task := deliver outlets { done.task with writes := before.writes } done.task.writes
      let inputs := rs.any fun r => match r with
        | .fromFile _ => true
        | .fromText _ => true
        | _ => false
      let task := if inputs then { task with input := before.input, fromFile := before.fromFile }
        else task
      (flow, done.setTask task)
termination_by (fuel, 5, 0, 0)

/-- Goes round a loop, at most `turns` times. -/
def repeatBody : Nat → Shell → Script → Script → Bool → Nat → Flow × Shell
  | _, sh, _, _, _, 0 => (.stop .expired, sh)
  | fuel, sh, test, body, goesOn, turns + 1 =>
    match run fuel { sh with tested := true } test with
    | (.next, tried) =>
      let code := sh.code
      let sh := { tried with tested := sh.tested }
      if (tried.code == 0) != goesOn then (.next, sh.setCode code)
      else
        match run fuel sh body with
        | (.next, sh) => repeatBody fuel sh test body goesOn turns
        | (.again 1, sh) => repeatBody fuel sh test body goesOn turns
        | (.leave 1, sh) => (.next, sh)
        | (.again n, sh) => (.again (n - 1), sh)
        | (.leave n, sh) => (.leave (n - 1), sh)
        | other => other
    | (flow, tried) => (flow, { tried with tested := sh.tested })
termination_by fuel _ test body _ turns => (fuel, 6, 1 + sizeOf test + sizeOf body, turns)

/-- Goes round a loop once for each value. -/
def eachValue : Nat → Shell → String → Script → List String → Flow × Shell
  | _, sh, _, _, [] => (.next, sh)
  | fuel, sh, name, body, value :: rest =>
    match run fuel (sh.bind name value) body with
    | (.next, sh) => eachValue fuel sh name body rest
    | (.again 1, sh) => eachValue fuel sh name body rest
    | (.leave 1, sh) => (.next, sh)
    | (.again n, sh) => (.again (n - 1), sh)
    | (.leave n, sh) => (.leave (n - 1), sh)
    | other => other
termination_by fuel _ _ body values => (fuel, 6, sizeOf body, values.length + 1)

/-- Whether a text fits one of some patterns. -/
def fitsAny : Nat → Shell → List Char → List Word → Bool × Shell
  | _, sh, _, [] => (false, sh)
  | fuel, sh, text, w :: rest =>
    let (parts, sh) := wordParts fuel sh w
    if (pattern parts).fits text then (true, sh) else fitsAny fuel sh text rest
termination_by fuel _ _ ws => (fuel, 1, ws.length, 0)

/-- Runs the first arm of which a pattern fits. -/
def runArms : Nat → Shell → List Char → List (List Word × Script) → Flow × Shell
  | _, sh, _, [] => (.next, sh.setCode 0)
  | fuel, sh, text, (ps, body) :: rest =>
    let (found, sh) := fitsAny fuel sh text ps
    if found then run fuel sh body else runArms fuel sh text rest
termination_by fuel _ _ arms => (fuel, 6, sizeOf arms, 0)

def run : Nat → Shell → Script → Flow × Shell
  | _, sh, .nothing => (.next, sh)
  | fuel, sh, .command c =>
    let (words, sh') := expand fuel { sh with line := c.line } c.words
    let assigned := assign fuel (if words.isEmpty then sh'.setCode 0 else sh') c.settings
    if assigned.failed then (.stop (.exited 2), assigned)
    else
      let keeps := words.isEmpty || specialNames.contains (words.headD "")
      let passing : Shell :=
        if keeps then assigned else c.settings.foldl (fun sh s => sh.expose s.1) assigned
      let (flow, done) := redirected fuel passing c.redirections fun sh =>
        if sh.failed then (.stop (.exited 2), sh) else runWords fuel sh words
      settle (flow, if keeps || c.settings.isEmpty then done
        else { done with bindings := sh'.bindings })
  | fuel, sh, .group body apart rs =>
    let (flow, done) := redirected fuel sh rs fun sh => run fuel sh body
    if apart then settle (sh.rejoin done flow) else (flow, done)
  | fuel, sh, .pipe first second =>
    let before := sh.task.writes
    let (flow, left) := run fuel (sh.setTask { sh.task with writes := [] }) first
    match flow with
    | .stop (.signaled signal) => (.stop (.signaled signal), sh.setTask left.task)
    | .stop .expired => (.stop .expired, sh.setTask { left.task with writes := before })
    | _ =>
      let errors := left.task.writes.filter fun w => w.1 = .errors
      let task := { left.task with
        disk := { left.task.disk with workingDirectory := sh.task.disk.workingDirectory }
        input := (left.task.chunks .output).flatten
        fromFile := false
        writes := errors ++ before }
      let (flow, right) := run fuel (sh.setTask task) second
      let (flow, back) := sh.rejoin right flow
      settle (flow, back.setTask { back.task with
        input := left.task.input, fromFile := sh.task.fromFile })
  | fuel, sh, .negate body =>
    match run fuel { sh with tested := true } body with
    | (.next, done) =>
      (.next, { done with code := if done.code = 0 then 1 else 0, tested := sh.tested })
    | (flow, done) => (flow, { done with tested := sh.tested })
  | fuel, sh, .both first second =>
    match run fuel { sh with tested := true } first with
    | (.next, done) =>
      let done := { done with tested := sh.tested }
      if done.code = 0 then run fuel done second else (.next, done)
    | (flow, done) => (flow, { done with tested := sh.tested })
  | fuel, sh, .either first second =>
    match run fuel { sh with tested := true } first with
    | (.next, done) =>
      let done := { done with tested := sh.tested }
      if done.code = 0 then (.next, done) else run fuel done second
    | (flow, done) => (flow, { done with tested := sh.tested })
  | fuel, sh, .sequence first second =>
    match run fuel sh first with
    | (.next, sh) => run fuel sh second
    | other => other
  | fuel, sh, .background body =>
    let task := { sh.task with input := [], allowed := sh.task.allowed + turnLimit * 1000 }
    let (flow, done) := run fuel (sh.setTask task) body
    let (_, back) := sh.rejoin done flow
    let busyUntil := max sh.busyUntil done.task.elapsed
    (.next, { back with
      task := { back.task with
        input := sh.task.input, elapsed := sh.task.elapsed, allowed := sh.task.allowed }
      code := 0
      busyUntil })
  | fuel, sh, .choose test thenPart elsePart =>
    match run fuel { sh with tested := true } test with
    | (.next, done) =>
      let chosen := { done with tested := sh.tested }
      if done.code = 0 then run fuel chosen thenPart
      else run fuel (chosen.setCode 0) elsePart
    | (flow, done) => (flow, { done with tested := sh.tested })
  | fuel, sh, .loop test body goesOn => repeatBody fuel (sh.setCode 0) test body goesOn turnLimit
  | fuel, sh, .each name words body =>
    let (values, sh) := match words with
      | some ws => expand fuel sh ws
      | none => (sh.arguments, sh)
    eachValue fuel (sh.setCode 0) name body values
  | fuel, sh, .select w arms =>
    let (text, sh) := wordText fuel sh w
    runArms fuel sh text.toList arms
  | _, sh, .define name body =>
    (.next, { sh with functions := Table.insert sh.functions name body, code := 0 })
  | _, sh, .malformed line fault =>
    (.stop (.exited 2), ({ sh with line }.complain ("Syntax error: " ++ fault)).setCode 2)
termination_by fuel _ s => (fuel, 6, sizeOf s, 0)

end

/-- The shell as a program, by the name it is called by. -/
def program (called : String) : Program := fun args t =>
  let (strict, given, rest) := options args
  let (what, t) := order called given rest t
  let fuel := match what with
    | .text _ script _ => script.length + 100
    | .unreadable _ _ => 1
  match runOrder fuel { start called t [] with strict } what with
  | (.stop status, sh) => (status, sh.task)
  | (_, sh) => (.exited sh.code, sh.task)

end AgentWorkflow.Shell
