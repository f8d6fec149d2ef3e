import Concordance.Compiled
import Concordance.Error
import Concordance.Host
import Concordance.Shell
/-!
The documents that an extraction starts from, read from files.
-/
namespace Concordance

open Json

/-- Read a file for a value; `refusal` says that the file itself cannot be read. -/
def Json.Decoder.load (d : Decoder α) (refusal : String) (shell : Shell) (path : String) :
    Except Error α :=
  match shell.readText? path with
  | none => .error (.fileSystem refusal path)
  | some text => Except.within ("Failed to parse " ++ path) ((d.parse text).mapError .json)

def Compiled.Module.load : Shell → String → Except Error Compiled.Module :=
  Compiled.Module.codec.decode.load "Failed to read module manifest"

def Host.load : Shell → String → Except Error Host :=
  Host.codec.decode.load "Failed to read host registry dump"

end Concordance
