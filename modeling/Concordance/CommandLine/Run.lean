import Concordance.CommandLine.Invocation
import Concordance.Settings.Starter
import Concordance.Snapshot.Report
/-!
Carrying out what the arguments ask for. The answer is the lines for the standard output.
-/
namespace Concordance.Invocation

def run (i : Invocation) (shell : Shell) : Except Failure (List String) × Shell :=
  match i.command with
  | .extract job => job.run (.chosen i.config shell) shell
  | .inspect o => (Snapshot.inspect o.file shell, shell)
  | .init force => Settings.Starter.run force shell

def settingsPaths (i : Invocation) (shell : Shell) : List String :=
  match i.config with
  | some path => [path]
  | none =>
    shell.toldDirectory.toOption.toList.flatMap fun directory =>
      (Path.ancestors Settings.mostDirectories directory).map (Path.join · Settings.fileName)

def commandPaths (i : Invocation) (shell : Shell) : List String :=
  match i.command with
  | .extract job =>
    let s := Settings.chosen i.config shell
    let path := (job.destination s.output shell).bind (Snapshot.target shell)
    [job.module, job.host] ++ job.unresolvedReport.toList ++ path.toOption.toList
  | .inspect o => o.file.toList
  | .init _ => shell.toldDirectory.toOption.toList.map (Path.join · Settings.fileName)

end Concordance.Invocation
