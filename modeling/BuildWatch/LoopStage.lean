/-!
How far an event loop has come. A loop that is told to end first waits for the build that it has
given up.
-/

namespace BuildWatch

inductive LoopStage where
  | running
  | stopping
  | stopped
  deriving DecidableEq, Repr

end BuildWatch
