import Dialogue.Console.Performance
import Std.Time.DateTime.Timestamp

/-!
# The program

The command line: answers what commands ask for from the files, the clock and
the terminal at hand.
-/

namespace Dialogue.Program

open Dialogue.Console

/-- The complaint of the system, with its number. -/
def numbered (complaint : String) (code : UInt32) : FileError :=
  .system (complaint ++ " (os error " ++ toString code ++ ")")

/-- A complaint of the system about a file. -/
def fileError : IO.Error → FileError
  | .noFileOrDirectory .. => .notFound
  | .inappropriateType _ code _ => if code = 20 then .notAFolder else .isAFolder
  | .permissionDenied _ code complaint => numbered complaint code
  | .alreadyExists _ code complaint => numbered complaint code
  | .resourceExhausted _ code complaint => numbered complaint code
  | .invalidArgument _ code complaint => numbered complaint code
  | .otherError code complaint => numbered complaint code
  | e => .system (toString e)

/-- Does something with files. -/
def attempt {α : Type} (work : IO α) : IO (Except FileError α) := do
  match ← work.toBaseIO with
  | .ok value => return .ok value
  | .error e => return .error (fileError e)

/-- Answers what is asked of files. -/
def answerFile : (request : FileRequest) → IO request.Answer
  | .read path => do
    match ← attempt (IO.FS.readBinFile path) with
    | .error e => return (.error e : Except FileError String)
    | .ok bytes =>
      match String.fromUTF8? bytes with
      | some text => return (.ok text : Except FileError String)
      | none => return (.error .notText : Except FileError String)
  | .list path => do
    let here ← IO.currentDir
    attempt do return ((← (here / path).readDir).map (·.fileName)).toList
  | .write path text => attempt (IO.FS.writeFile path text)

/-- The time. -/
def now : IO Instant := do
  let time ← Std.Time.Timestamp.now
  return .ofTotal time.toNanosecondsSinceUnixEpoch.toInt

/-- Shows a text at once. -/
def put (text : String) : IO Unit := do
  let output ← IO.getStdout
  output.putStr text
  output.flush

/-- A number drawn by lot. -/
def draw : IO Nat := do
  return (← IO.getRandomBytes 16).toList.foldl (fun n byte => 256 * n + byte.toNat) 0

/-- Answers what a command asks for. -/
def answer : (request : ConsoleRequest) → IO request.Answer
  | .file request => answerFile request
  | .say line => put (line ++ "\n")
  | .clock => now
  | .lot => draw

/-- Runs what a command does. -/
def interpret {α : Type} : Consoling α → IO α
  | .done value => return value
  | .ask request next => do interpret (next (← answer request))

/-- Ends with a complaint. -/
def complain (complaint : Complaint) : IO ExitCode := do
  IO.eprintln complaint.text
  return .failure

/-- Waits until a time. -/
partial def waitUntil (time : Instant) : IO Unit := do
  let left := time.total - (← now).total
  if 0 < left then
    IO.sleep (UInt32.ofNat (min 1000 (left.toNat / 1000000 + 1)))
    waitUntil time

/-- A line of input that is being read. -/
abbrev Reading := Task (Except IO.Error String)

/-- Waits for a line of input; none if an alarm is due before it. -/
partial def waitForLine (reading : Reading) (alarm : Option Instant) :
    IO (Option (Except IO.Error String)) := do
  if ← IO.hasFinished reading then return some reading.get
  else
    match alarm with
    | none => return some (← IO.wait reading)
    | some time =>
      if time.total ≤ (← now).total then return none
      else
        IO.sleep 10
        waitForLine reading alarm

/-- Plays a run to its end.  A line that is being read is not given up for an alarm. -/
partial def playOn (play : Play) (reading : Option Reading) : IO ExitCode := do
  match play.need with
  | .over run =>
    interpret (Consoling.sayAll run.summary)
    return .success
  | .lost complaint => complain complaint
  | .alarm time =>
    waitUntil time
    playOn (← interpret play.ring) reading
  | .reply =>
    put prompt
    let line : Reading ←
      match reading with
      | some line => pure line
      | none => do IO.asTask (← IO.getStdin).getLine .dedicated
    match ← waitForLine line play.nextAlarm? with
    | none => playOn (← interpret play.ring) (some line)
    | some (.error e) => complain ⟨toString e, none⟩
    | some (.ok raw) =>
      match ← interpret (if raw.isEmpty then play.hangUp else play.reply (lineText raw)) with
      | .error complaint => complain complaint
      | .ok play => playOn play none

/-- Performs what the command line asks for. -/
def obey (arguments : List String) : IO ExitCode := do
  match Command.ofArguments arguments with
  | .error ⟨verb, .help⟩ =>
    put (help verb ++ "\n")
    return .success
  | .error ⟨verb, .misuse misuse⟩ =>
    IO.eprintln (misuse.report verb)
    return .misuse
  | .ok command =>
    match ← interpret command.perform with
    | .done => return .success
    | .playing play => playOn play none
    | .failed complaint => complain complaint
    | .crashed =>
      IO.eprintln "the settings leave no room for an engine"
      return .crash

end Dialogue.Program

/-- The program. -/
def main (arguments : List String) : IO UInt32 := do
  return UInt32.ofNat (← Dialogue.Program.obey arguments).number
