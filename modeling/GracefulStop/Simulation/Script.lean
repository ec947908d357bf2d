import GracefulStop.Run.World

/-!
# Scripted endpoints

An endpoint that answers by a script: the first calls as its lines say, and all later ones in the
same way. A line may take its time.
-/

namespace GracefulStop.Simulation

/-- One line of a script: how a call ends, and how long it takes. -/
structure ScriptLine where
  result : Except QueryError Response
  delay : Duration

/-- What is left of a script. -/
structure Script where
  lines : List ScriptLine
  /-- The line of all calls for which there is no other. -/
  fallback : ScriptLine
  /-- The line of the call that is under way. -/
  current : Option ScriptLine := none

namespace Script

/-- The line of the next call. -/
def next (script : Script) : ScriptLine := script.lines.head?.getD script.fallback

/-- One look at a call. -/
def answer (script : Script) (look : Look) : Progress (Except QueryError Response) × Script :=
  if look.index = 0 then
    let line := script.next
    let script := { script with lines := script.lines.tail, current := some line }
    if line.delay.nanos = 0 then (.done line.result, script) else (.pause line.delay, script)
  else (.done (script.current.getD script.fallback).result, script)

/-- A scripted endpoint as the surroundings of a run, where all else succeeds. -/
def world : World Script where
  launch _ _ script := (.ok (), script)
  connect _ _ script := (.ok (), script)
  record _ _ script := (.ok (), script)
  portInUse _ _ script := (false, script)
  start _ _ script := (.done (.ok ()), script)
  stop _ _ script := (.ok (), script)
  signal _ _ script := (.ok (), script)
  wait _ _ _ script := (.done (.ok (some 0)), script)
  isRunning _ _ script := (true, script)
  query _ _ look script := script.answer look
  draw _ script := (0, script)

end Script

end GracefulStop.Simulation
