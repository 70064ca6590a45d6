import BackboneLab.Decimal.Natural
import BackboneLab.Decimal.Reading
import BackboneLab.Files.Store
import BackboneLab.Machine.ShellText

/-!
# Processes

A machine with files and a clock, on which a few programs run: `true`, `false`, `touch`, `sleep`, `env`
and the shell. A process consists of the statements that are still to be carried out, and it may have to
wait for the clock first. `Process.goOn` carries it on until it waits or ends.
-/

namespace BackboneLab

/-- How a process ended. -/
inductive ProcessEnd
  | exited (status : Nat)
  | killed (signal : Nat)
deriving DecidableEq, Inhabited

namespace ProcessEnd

/-- The name of a signal, and whether it leaves an image of the process behind. -/
def signalName : Nat → String
  | 1 => " (SIGHUP)"
  | 2 => " (SIGINT)"
  | 9 => " (SIGKILL)"
  | 13 => " (SIGPIPE)"
  | 15 => " (SIGTERM)"
  | _ => ""

/-- The end in words. -/
def text : ProcessEnd → String
  | .exited status => "exit status: " ++ decimal status
  | .killed signal => "signal: " ++ decimal signal ++ signalName signal

/-- Whether the process did what it should. -/
def isSuccess (e : ProcessEnd) : Bool := e == .exited 0

end ProcessEnd

/-- A shell in the middle of its statements. -/
structure Shell where
  todo : List ShellText.Statement
  /-- The script's own name and its arguments. -/
  arguments : List String
  environment : List (String × String)
  /-- How the last statement ended. -/
  last : Nat
deriving Inhabited

/-- A process. -/
structure Process where
  /-- The shells of the process, the innermost first. -/
  shells : List Shell
  /-- The time until which the process waits. -/
  wake : Nat
  ended : Option ProcessEnd
deriving Inhabited

/-- What a program does when it is started. -/
inductive Launch
  /-- Ends at once. -/
  | ends (status : Nat)
  /-- Waits for so many milliseconds, and then ends well. -/
  | waits (millis : Nat)
  /-- Carries out statements. -/
  | shell (shell : Shell)
  /-- There is no such program. -/
  | missing
deriving Inhabited

namespace Launch

open FileAction (write)

/-- The milliseconds of a number of seconds, which may have a unit. -/
def millis? (word : String) : Option Nat := do
  let cs := word.toList
  let (number, factor) :=
    match cs.getLast? with
    | some 's' => (cs.dropLast, (1 : Float))
    | some 'm' => (cs.dropLast, 60)
    | some 'h' => (cs.dropLast, 3600)
    | _ => (cs, 1)
  let x ← readFloat? number
  return (x * factor * 1000).toUInt64.toNat

/-- Makes sure that a file exists. -/
def touch (path : Path) : FileAction Unit := do
  if !(← get).contains path then write path (.text "")

/-- Makes sure that files exist, and tells whether all of them can be made. -/
def touchAll : List String → StateM Store Bool
  | [] => return true
  | name :: names => do
    let r ← (touch ⟨name⟩).run
    return (← touchAll names) && r.isOk

/-- The shell that runs a script. -/
def ofScript (script : String) (arguments : List String) (environment : List (String × String)) :
    Launch := .shell ⟨ShellText.statements script, arguments, environment, 0⟩

/-- The variable that a word sets. -/
def assignment? (word : String) : Option (String × String) :=
  match Text.splitOn '=' word.toList with
  | name :: value :: rest =>
    if name ≠ [] ∧ name.all ShellText.isNameChar then
      some (String.ofList name, String.ofList (Text.join ['='] (value :: rest)))
    else none
  | _ => none

/-- The name of a program of the machine that is given by its path. -/
def baseName (program : String) : String :=
  let parts := Text.splitOn '/' program.toList
  if parts.dropLast = [[], "bin".toList] ∨ parts.dropLast = [[], "usr".toList, "bin".toList] then
    String.ofList (parts.getLast?.getD [])
  else program

/-- The script that is a program, at its path or among the programs that the files bring along. -/
def script? (s : Store) (program : String) : Option String :=
  s.text? (if program.toList.contains '/' then ⟨program⟩ else ⟨"bin/" ++ program⟩)

/-- Starts a program of the machine. A program of the same name among the files comes first. -/
def ofArgs (fuel : Nat) (environment : List (String × String)) : List String → StateM Store Launch
  | [] => return .missing
  | program :: args => do
    match script? (← get) program with
    | some script => return ofScript script (program :: args) environment
    | none =>
      match fuel, baseName program, args with
      | _, "true", _ => return .ends 0
      | _, "false", _ => return .ends 1
      | _, "touch", names => return .ends (if (← touchAll names) && names ≠ [] then 0 else 1)
      | _, "sleep", words =>
        match words.mapM millis? with
        | some (n :: ns) => return .waits (ns.foldl (· + ·) n)
        | _ => return .ends 1
      | fuel + 1, "env", words =>
        let settings := words.takeWhile fun w => (assignment? w).isSome
        let rest := words.drop settings.length
        if rest.isEmpty then return .ends 0
        match ← ofArgs fuel (settings.filterMap assignment? ++ environment) rest with
        | .missing => return .ends 127
        | l => return l
      | _, "sh", "-c" :: script :: arguments =>
        return ofScript script (if arguments.isEmpty then ["sh"] else arguments) environment
      | _, "sh", path :: arguments =>
        match (← get).text? ⟨path⟩ with
        | some script => return ofScript script (path :: arguments) environment
        | none => return .ends 2
      | _, _, _ => return .missing

end Launch

namespace Shell

open ShellText (Piece Word Statement Condition)

/-- The value of a variable. -/
def value (sh : Shell) (name : List Char) : List Char :=
  match name with
  | ['?'] => natText sh.last
  | ['#'] => natText (sh.arguments.length - 1)
  | ['$'] => "1000".toList
  | ['@'] | ['*'] => Text.join [' '] ((sh.arguments.drop 1).map String.toList)
  | [c] =>
    if c.isDigit then ((sh.arguments[c.toNat - '0'.toNat]?).getD "").toList
    else ((sh.environment.lookup (String.singleton c)).getD "").toList
  | _ => ((sh.environment.lookup (String.ofList name)).getD "").toList

/-- The words that stand for a word with variables. -/
def expand (sh : Shell) (w : Word) : List String :=
  if w.filter (· ≠ .text []) = [.variable ['@']] then sh.arguments.drop 1
  else
    let cs := w.flatMap fun
      | .text t => t
      | .variable name => sh.value name
    if cs.isEmpty ∧ !w.contains (.text []) then [] else [String.ofList cs]

/-- Whether a statement is to be carried out. -/
def isDue (sh : Shell) : Condition → Bool
  | .always => true
  | .afterSuccess => sh.last == 0
  | .afterFailure => sh.last != 0

/-- Whether a condition on files or texts holds. -/
def test (s : Store) : List String → Bool
  | ["-f", path] => (s.text? ⟨path⟩).isSome || (s.file? (.ofPath ⟨path⟩)).isSome
  | ["-d", path] => (s.directory? (.ofPath ⟨path⟩)).isSome
  | ["-e", path] => s.contains ⟨path⟩
  | ["-n", text] => text ≠ ""
  | ["-z", text] => text = ""
  | ["!", a, b] => !(test s [a, b])
  | [a, "=", b] => a = b
  | [a, "!=", b] => a ≠ b
  | [a, "-eq", b] => a = b
  | [text] => text ≠ ""
  | _ => false

/-- Puts a line into a file, or nowhere. -/
def output (target : Option (Bool × String)) (text : String) : StateM Store Nat := do
  match target with
  | none => return 0
  | some (atEnd, path) =>
    if "/dev/".toList.isPrefixOf path.toList then return 0
    let s ← get
    let old := if atEnd then (s.text? ⟨path⟩).getD "" else ""
    let r ← (FileAction.write ⟨path⟩ (.text (old ++ text))).run
    return if r.isOk then 0 else 1

/-- What carrying out a statement leads to. -/
inductive Outcome
  | status (status : Nat)
  | leaves (status : Nat)
  | assigns (name value : String)
  /-- Drops some of the arguments. -/
  | shifts (count : Nat)
  | kills (signal : Nat)
  | launches (launch : Launch) (replacing : Bool)

/-- The signal that a word names. -/
def signal? (word : String) : Option Nat :=
  match word with
  | "-HUP" => some 1
  | "-INT" => some 2
  | "-KILL" => some 9
  | "-TERM" => some 15
  | _ => match word.toList with
    | '-' :: digits => readNat? digits
    | _ => none

/-- Carries out the words of a statement. -/
def carryOut (sh : Shell) (words : List String) (target : Option (Bool × String)) :
    StateM Store Outcome := do
  match words with
  | [] => return .status (← output target "")
  | "exit" :: rest => return .leaves ((rest.head?.bind fun w => readNat? w.toList).getD sh.last % 256)
  | "shift" :: rest => return .shifts ((rest.head?.bind fun w => readNat? w.toList).getD 1)
  | ":" :: _ => return .status (← output target "")
  | "echo" :: rest =>
    let line := String.ofList (Text.join [' '] (rest.map String.toList)) ++ "\n"
    return .status (← output target line)
  | "test" :: rest => return .status (if test (← get) rest then 0 else 1)
  | "[" :: rest => return .status (if test (← get) rest.dropLast then 0 else 1)
  | ["kill", signal, _] => return (signal? signal).elim (.status 1) .kills
  | ["kill", _] => return .kills 15
  | "exec" :: rest => return .launches (← Launch.ofArgs rest.length sh.environment rest) true
  | [word] =>
    match Launch.assignment? word with
    | some (name, value) => return .assigns name value
    | none => return .launches (← Launch.ofArgs 1 sh.environment words) false
  | _ =>
    let _ ← output target ""
    return .launches (← Launch.ofArgs words.length sh.environment words) false

end Shell

namespace Process

/-- How long it takes until a program does anything, in milliseconds. -/
def startTime : Nat := 1

/-- The process of a program that was started at the given time. -/
def ofLaunch? (now : Nat) : Launch → Option Process
  | .ends status => some ⟨[⟨[], [], [], status⟩], now + startTime, none⟩
  | .waits millis => some ⟨[⟨[], [], [], 0⟩], now + startTime + millis, none⟩
  | .shell sh => some ⟨[sh], now + startTime, none⟩
  | .missing => none

/-- The process after its innermost shell ended. -/
def leave (p : Process) (status : Nat) : Process :=
  match p.shells with
  | _ :: sh :: rest => { p with shells := { sh with last := status } :: rest }
  | _ => { p with shells := [], ended := some (.exited status) }

/-- The process after its innermost shell has started a program. -/
def start (p : Process) (sh : Shell) (rest : List Shell) (replacing : Bool) : Launch → Process
  | .ends status =>
    let q := { p with shells := { sh with last := status } :: rest }
    if replacing then q.leave status else q
  | .waits millis =>
    { p with
      shells := { sh with last := 0, todo := if replacing then [] else sh.todo } :: rest,
      wake := p.wake + millis }
  | .shell inner =>
    { p with shells := if replacing then inner :: rest else inner :: sh :: rest }
  | .missing =>
    let q := { p with shells := { sh with last := 127 } :: rest }
    if replacing then q.leave 127 else q

/-- Carries out the next statement. -/
def step (p : Process) : StateM Store Process := do
  match p.shells with
  | [] => return p
  | sh :: rest =>
    match sh.todo with
    | [] => return p.leave sh.last
    | st :: todo =>
      let sh := { sh with todo }
      let p := { p with shells := sh :: rest }
      if !sh.isDue st.condition then return p
      let target := st.output.map fun o => (o.1, (sh.expand o.2).headD "")
      match ← sh.carryOut (st.words.flatMap sh.expand) target with
      | .status n => return { p with shells := { sh with last := n } :: rest }
      | .leaves n => return p.leave n
      | .assigns name value =>
        return { p with
          shells := { sh with environment := (name, value) :: sh.environment, last := 0 } :: rest }
      | .shifts n =>
        let arguments := sh.arguments.take 1 ++ sh.arguments.drop (n + 1)
        return { p with shells := { sh with arguments, last := 0 } :: rest }
      | .kills signal => return { p with shells := [], ended := some (.killed signal) }
      | .launches l replacing => return p.start sh rest replacing l

/-- Carries a process on until it ends or has to wait beyond the given time, in at most so many
steps. -/
def goOn : Nat → Nat → Process → StateM Store Process
  | 0, _, p => return p
  | fuel + 1, now, p => do
    if p.ended.isSome ∨ now < p.wake then return p
    goOn fuel now (← p.step)

end Process

end BackboneLab
