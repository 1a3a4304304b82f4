import BuildWatch.Program

/-!
Why the songs could not be compiled.
-/

namespace BuildWatch

inductive MusicError where
  | cancelled
  | start (program : String) (fault : StartFault)
  | exit (status : ExitStatus) (output : String)
  | empty
  deriving DecidableEq, Repr

def MusicError.message : MusicError → String
  | cancelled => "music build cancelled"
  | start program _ => "could not start song compiler `" ++ program ++ "`"
  | exit status output => "song compiler failed (" ++ status.display ++ "): " ++ output
  | empty => "song compiler produced no output"

abbrev SongResult := Except String (Except MusicError ByteArray)

end BuildWatch
