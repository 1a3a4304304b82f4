/-!
What the program tells its user, as a value. Every entry names the part it comes from; entries for
debugging are shown only on request.
-/

namespace BuildWatch

structure LogEntry where
  channel : String
  message : String
  forDebug : Bool
  deriving DecidableEq, Repr

namespace LogEntry

def info (channel message : String) : LogEntry := ⟨channel, message, false⟩

def debug (channel message : String) : LogEntry := ⟨channel, message, true⟩

def isShown (verbose : Bool) (entry : LogEntry) : Bool :=
  verbose || !entry.forDebug

end LogEntry

end BuildWatch
