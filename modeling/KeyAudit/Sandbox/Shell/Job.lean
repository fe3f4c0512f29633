/-
Jobs: the processes in the background that a shell knows.

A job keeps its number until it is forgotten. The last one that was started is the
current job, and the one before it the previous one.
-/

import KeyAudit.Sandbox.Shell.State

namespace KeyAudit.Sandbox.Shell

/-- The first number that no job has, or that a job has which has been waited for. -/
def freeNumber (jobs : List Job) : Nat → Nat → Nat
  | 0, number => number
  | n + 1, number =>
    if jobs.any fun j => j.number == number && !j.isWaited then freeNumber jobs n (number + 1)
    else number

/-- The number of a new process, and the jobs that keep theirs. -/
def placeIn (jobs : List Job) : Nat × List Job :=
  let number := freeNumber jobs jobs.length 1
  (number, jobs.filter fun j => j.number != number)

/-- The job that a word names. -/
def jobOf (word : Bytes) : Session Job := do
  let jobs := (← get).jobs
  let found (job : Option Job) (complaint : Bytes) : Session Job :=
    match job with
    | some job => return job
    | none => fail complaint
  let missing := "No such job: ".toList ++ word
  match word with
  | ['%'] | ['%', '%'] | ['%', '+'] => found jobs.head? "No current job".toList
  | ['%', '-'] => found (jobs.drop 1).head? "No previous job".toList
  | '%' :: digits =>
    found (if digits.all Char.isDigit then jobs.find? fun j => j.number == ofDigits 10 digits else none)
      missing
  | _ => fail missing

/-- How a job stands, in words. -/
def State.jobText (s : State) (job : Job) : Bytes :=
  match s.ended.lookup job.process with
  | none => "Running".toList
  | some (.exited 0) => "Done".toList
  | some (.exited n) => "Done(".toList ++ ofInt n ++ [')']
  | some (.killed n _) => (signalText n).toList

/-- The width of a line about a job. -/
def jobWidth : Nat := 33

/-- The line about a job; the letter asks for its process too, or for that alone. -/
def State.jobLine (s : State) (mode : Option Char) (job : Job) : Bytes :=
  let process := ofInt job.process
  if mode = some 'p' then process ++ ['\n']
  else
    let isAt (place : Nat) : Bool := (s.jobs[place]?).any fun j => j.number == job.number
    let mark := if isAt 0 then '+' else if isAt 1 then '-' else ' '
    let line := '[' :: ofInt job.number ++ [']', ' ', mark, ' '] ++
      (if mode = some 'l' then process ++ [' '] else []) ++ s.jobText job
    line ++ List.replicate ((jobWidth - line.length).max 1) ' ' ++ ['\n']

/-- Forgets a job if it has ended. -/
def forgetEnded (job : Job) : Session Unit := modify fun s =>
  if (s.ended.lookup job.process).isSome then
    { s with jobs := s.jobs.filter fun j => j.number != job.number }
  else s

end KeyAudit.Sandbox.Shell
