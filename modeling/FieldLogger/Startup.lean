import FieldLogger.Log
import FieldLogger.Station.Basic
import FieldLogger.Storage.DirectoryStore

/-!
The start of the program on a disk. The configuration is read from a file in the directory of the program, which
is written with the defaults if there is none. A configuration with problems, or stores that cannot be opened,
end the program with an error; otherwise the station goes into its loop.
-/

namespace FieldLogger.Startup

/-- The file that keeps the configuration. -/
def configFile : String := "config.toml"

/-- A station whose stores are directories. -/
abbrev OnDisk := Station DirectoryStore DirectoryStore

/-- How the program starts. -/
inductive Outcome where
  /-- It ends with these errors, after it printed this; the disk is as it was left. -/
  | ended (errors : List LogRecord) (terminal : String) (disk : Disk)
  /-- The station is about to go round its loop. -/
  | running (config : Config) (station : OnDisk)

/-- The exit code of a program that ended. -/
def exitCode : UInt8 := 1

/-- Where the configuration is, in the directory `home` of the program. -/
def configLocation (home : Location) : Location := home ++ [configFile]

def loadConfig (d : Disk) (home : Location) : Config := Config.load (d.contents? (configLocation home))

/-- Writes a configuration if the disk has none; one that cannot be written is left out. -/
def keepConfig (d : Disk) (home : Location) (c : Config) : Disk :=
  match d.node? (configLocation home), c.render with
  | none, .ok text => d.setNode (configLocation home) (.file (Utf8.encode text))
  | _, _ => d

/-- Boots the station over the directories of a configuration; the external one is opened after the internal
one, on the disk that this leaves. -/
def boot (d : Disk) (config : Config) (equipment : Equipment) : Except (BootFailure DirectoryStore) OnDisk :=
  Station.boot config equipment (.ofDirectory d config.internalDir)
    fun internal => .ofDirectory internal.disk config.externalDir

def run (d : Disk) (home : Location) (equipment : Equipment) : Outcome :=
  let config := loadConfig d home
  let d := keepConfig d home config
  match config.problems with
  | [] =>
    match boot d config equipment with
    | .ok station => .running config station
    | .error f => .ended [.ofMessage ("Erro fatal: " ++ f.error.message)] f.console f.internal.disk
  | problems => .ended (problems.map fun p => .ofMessage ("Configuração inválida: " ++ p.message)) "" d

end FieldLogger.Startup
