import SlotSwap.Program

/-! The command line: the environment is read, the diagnostics are written and the
status is returned. Everything else is `Program.run`. -/
namespace SlotSwap

/-- Runs the program in the environment of its process. -/
def runProcess (arguments : List String) : IO UInt32 := do
  let filter ← IO.getEnv "RUST_LOG"
  let noColour ← IO.getEnv "NO_COLOR"
  let finished := Program.run ⟨arguments, filter, noColour⟩
  (← IO.getStdout).putStr finished.output
  (← IO.getStderr).putStr finished.diagnostics
  return finished.status.toUInt32

end SlotSwap

def main (arguments : List String) : IO UInt32 := SlotSwap.runProcess arguments
