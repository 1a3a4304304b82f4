import BuildWatch.Music.Error
import BuildWatch.Text.Blank
import BuildWatch.Text.Utf8

/-!
Compiling the songs with a program: the song list is its last argument and its output is the music.
-/

namespace BuildWatch

def noSongProgram : StartFault := .noProgram "empty command"

def songCommand (words : List String) (directory songList : Path) : Except StartFault Command :=
  match words with
  | [] => .error noSongProgram
  | program :: arguments => .ok ⟨program, arguments ++ [songList.display], directory⟩

def ProgramRun.songs (run : ProgramRun) : Except MusicError ByteArray :=
  if run.status ≠ .exited 0 then
    .error (.exit run.status (trimBlanks (Utf8.lossy run.errors.data.toList)))
  else if run.output.isEmpty then .error .empty
  else .ok run.output

/-- Compiles the songs by a way to run programs. A program that cannot be started is reported even
to those who have cancelled; otherwise they do not wait for its end. -/
def compileSongs (start : Command → Except StartFault ProgramRun) (words : List String)
    (directory songList : Path) (isCancelled : Bool) : Except MusicError ByteArray :=
  match (songCommand words directory songList).bind start with
  | .error fault => .error (.start (words.headD "") fault)
  | .ok run => if isCancelled then .error .cancelled else run.songs

end BuildWatch
