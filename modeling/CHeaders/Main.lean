import CHeaders.Demo
import CHeaders.Journal

/-!
# The program

Runs the demonstration in the current directory. The journal goes to the standard error stream; the
surroundings may name its level. A line of the journal starts with the milliseconds since the
program began.
-/

open CHeaders

def main : IO UInt32 := do
  let began ← IO.monoMsNow
  let level ← IO.getEnv Journal.variableName
  match Journal.unset.configure .none level none with
  | .error f =>
    IO.eprintln f.message
    return 1
  | .ok journal =>
    let out := Demo.run
    let elapsed := (← IO.monoMsNow) - began
    let records := out.notices.filterMap fun n =>
      match n with
      | .record r => some r
      | .outdated _ => none
    IO.eprint (journal.writeAll (Decimal.ofNat elapsed) records).1.shown
    match out.result with
    | .error f =>
      IO.eprintln f.message
      return 1
    | .ok demo =>
      IO.FS.writeFile demo.file demo.header.shown
      IO.print demo.printed.shown
      return 0
