import FenceCheck.Proofs.BlockStart
import FenceCheck.Proofs.HostReading

/-!
What goes wrong with a block is an outcome of the block, but for three things: a line whose number is too
long to be written, an amount of time that no floating-point number holds, and a line of the host that is
JSON and cannot be followed.
-/

namespace FenceCheck

namespace Sandbox

variable {machine : Machine} {config : Config} {block : Block} {directory : Path}
  {found : Option Text} {context : Option Context} {failure : Failure}

/-- What a block does not turn into its outcome, where its directory is known and the bundler was looked
for. -/
inductive Escapes (machine : Machine) (config : Config) (block : Block) (found : Option Text) :
    Failure → Prop where
  | unnamed (long : Integer.isShort block.line = false) :
      Escapes machine config block found (.scalar .hugeInteger)
  | bundlerTime {n : Int} (named : Integer.isShort block.line = true)
      (needed : Bundler.isNeeded config block = true)
      (located : found.isSome = true) (time : config.bundleTimeout = .whole n)
      (long : Binary64.overflow ≤ n.natAbs) : Escapes machine config block found .numberTooLarge
  | hostTime {launches : List Launch} {runnable : Runnable} {n : Int}
      (named : Integer.isShort block.line = true)
      (bundling : Bundler.Course machine config block launches (.ok runnable))
      (time : config.timeout = .whole n) (long : Binary64.overflow ≤ (n + grace).natAbs) :
      Escapes machine config block found .numberTooLarge
  | report {launches : List Launch} {runnable : Runnable} {start : Launch} {code : Int}
      {output errors : Text} {fault : Json.Fault} (named : Integer.isShort block.line = true)
      (bundling : Bundler.Course machine config block launches (.ok runnable))
      (ready : launch machine config block runnable = .ok start)
      (ended : machine.launch start = .exited code output errors)
      (breaks : HostLine.Breaks output fault) :
      Escapes machine config block found (.unreadable [] fault)

end Sandbox

end FenceCheck
