import FenceCheck.Cli.Command
import FenceCheck.Machine.Scene

/-!
The command line. The scene on which the command runs is one line of JSON on the standard input.
-/

namespace FenceCheck

namespace Cli

/-- A text as the stream of errors shows it: half a character has no bytes, but it has an escape. -/
def escapeHalves (text : Text) : Text :=
  text.flatMap fun
    | .char c => [.char c]
    | .surrogate half => Text.ofString "\\u" ++ Text.hexDigits (0xD800 + half.val) 4

def writeErrors (text : Text) : IO Unit := do
  (← IO.getStderr).write ((Utf8.encode (escapeHalves text)).toOption.getD []).toByteArray

/-- Writes what a command printed and gives its exit code. Output with half a character in it cannot be
written: the command ends there, with an internal error. -/
def deliver (asJson : Bool) (exitCode : Int) : Transcript → IO Int
  | [] => return exitCode
  | .launched _ :: rest => deliver asJson exitCode rest
  | .printed .errors text :: rest => do
      writeErrors text
      deliver asJson exitCode rest
  | .printed .output text :: rest =>
      match Utf8.encode text with
      | .ok bytes => do
          (← IO.getStdout).write bytes.toByteArray
          deliver asJson exitCode rest
      | .error fault => do
          let (code, message) := verdict (.unwritable fault)
          writeErrors (Report.errorText asJson message code ++ [.char '\n'])
          return code

/-- Runs the command with these words on a scene and gives its exit code. -/
def runOnScene (words : List Text) (line : Text) : IO UInt32 := do
  match Json.read line with
  | .error fault =>
      writeErrors (fault.message line ++ [.char '\n'])
      return 2
  | .ok description =>
      let scene := Scene.ofJson description
      let completion := run scene.machine scene.screen words
      let asJson := (parse words).toOption.any (·.json)
      let exitCode ← deliver asJson completion.exitCode completion.transcript
      return exitCode.toNat.toUInt32

end Cli

end FenceCheck

def main (words : List String) : IO UInt32 := do
  let line ← (← IO.getStdin).getLine
  FenceCheck.Cli.runOnScene (words.map FenceCheck.Text.ofString) (FenceCheck.Text.ofString line)
