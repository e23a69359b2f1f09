import FieldLogger.Storage.Disk
import FieldLogger.Toml.Document

/-!
The configuration of the host: where the stores are, the server, and the length of a tick. It is kept in a TOML
file. A file that cannot be read as one, or has a value of the wrong kind, stands for the defaults; keys that
are missing take their defaults and unknown ones are passed over.
-/

namespace FieldLogger

/-- What the host is configured with. -/
structure Config where
  internalDir : String
  metadataFile : String
  externalDir : String
  serverUrl : String
  timeoutMs : UInt64
  enabled : Bool
  tickMs : UInt64
  deriving DecidableEq, Repr

namespace Config

/-- The configuration of a host that has none of its own. -/
def factory : Config where
  internalDir := "data/internal"
  metadataFile := "metadata.txt"
  externalDir := "data/external"
  serverUrl := "http://127.0.0.1:8080/api/hello"
  timeoutMs := 5000
  enabled := true
  tickMs := 1

/-- Two configurations say the same; directories are compared by their components. -/
def sameAs (a b : Config) : Bool :=
  (Route.parse a.internalDir).sameAs (Route.parse b.internalDir) &&
    (Route.parse a.externalDir).sameAs (Route.parse b.externalDir) &&
    { a with internalDir := "", externalDir := "" } == { b with internalDir := "", externalDir := "" }

/-! ### Problems -/

/-- What is wrong with a configuration. -/
inductive Problem where
  | noMetadataFile
  | sharedDirectory
  | badUrl (url : String)
  | noTimeout
  | badTick (ms : UInt64)
  deriving DecidableEq, Repr

def Problem.message : Problem → String
  | .noMetadataFile => "Arquivo de metadados não pode ser vazio"
  | .sharedDirectory => "Armazenamento interno e externo devem ser diretórios distintos"
  | .badUrl url => "URL do servidor inválida: " ++ url ++ " (apenas http://)"
  | .noTimeout => "Timeout de rede não pode ser 0"
  | .badTick ms => s!"Tick inválido: {ms.toNat} ms (1–1000)"

/-- The scheme that every address starts with. -/
def scheme : List Char := ['h', 't', 't', 'p', ':', '/', '/']

def maxTickMs : UInt64 := 1000

/-- Everything that is wrong with a configuration. -/
def problems (c : Config) : List Problem :=
  (if (Text.trim c.metadataFile.toList).isEmpty then [.noMetadataFile] else []) ++
  (if (Route.parse c.internalDir).sameAs (Route.parse c.externalDir) then [.sharedDirectory] else []) ++
  (if c.enabled ∧ ¬ scheme.isPrefixOf c.serverUrl.toList then [.badUrl c.serverUrl] else []) ++
  (if c.timeoutMs = 0 then [.noTimeout] else []) ++
  (if c.tickMs = 0 ∨ maxTickMs < c.tickMs then [.badTick c.tickMs] else [])

/-! ### Reading -/

/-- The members of a section: by name, or by position where the section is an array. A date has no members, and
any other value is no section. -/
inductive Section where
  | named (entries : Toml.Entries)
  | listed (items : List Toml.Value)

/-- The section of a document under a key. -/
def section? (root : Toml.Entries) (key : String) : Option Section :=
  match root.get? key with
  | none | some (.date _) => some (.named [])
  | some (.table _ entries) => some (.named entries)
  | some (.array items) => some (.listed items)
  | some (.tables rows) => some (.listed (rows.map (.table .header)))
  | some _ => none

/-- The member of that name and position. -/
def Section.member? (s : Section) (name : String) (position : Nat) : Option Toml.Value :=
  match s with
  | .named entries => entries.get? name
  | .listed items => items[position]?

/-- A member read by `read?`, or its default where it is missing. -/
def Section.readMember {α : Type} (s : Section) (name : String) (position : Nat)
    (read? : Toml.Value → Option α) (default : α) : Option α :=
  match s.member? name position with
  | none => some default
  | some v => read? v

def asText? : Toml.Value → Option String
  | .string s => some s
  | _ => none

/-- A number that is not negative. -/
def asNumber? : Toml.Value → Option UInt64
  | .integer i => if i < 0 then none else some (UInt64.ofNat i.toNat)
  | _ => none

def asBool? : Toml.Value → Option Bool
  | .boolean b => some b
  | _ => none

/-- The configuration that a document describes. -/
def ofEntries? (root : Toml.Entries) : Option Config := do
  let storage ← section? root "storage"
  let network ← section? root "network"
  let scheduler ← section? root "scheduler"
  some {
    internalDir := ← storage.readMember "internal_dir" 0 asText? factory.internalDir
    metadataFile := ← storage.readMember "metadata_file" 1 asText? factory.metadataFile
    externalDir := ← storage.readMember "external_dir" 2 asText? factory.externalDir
    serverUrl := ← network.readMember "server_url" 0 asText? factory.serverUrl
    timeoutMs := ← network.readMember "timeout_ms" 1 asNumber? factory.timeoutMs
    enabled := ← network.readMember "enabled" 2 asBool? factory.enabled
    tickMs := ← scheduler.readMember "tick_ms" 0 asNumber? factory.tickMs }

/-- The configuration in a file, if there are such contents. -/
def load (contents : Option Bytes) : Config :=
  (do ofEntries? (← Toml.parse? (← Utf8.decode? (← contents)))).getD factory

/-! ### Writing -/

/-- Why a configuration was not saved. -/
inductive SaveError where
  /-- A number does not fit 64 bits with sign. -/
  | outOfRange
  | io (reason : String)
  deriving DecidableEq, Repr

def SaveError.message : SaveError → String
  | .outOfRange => "Erro ao serializar configuração: out-of-range value for u64 type"
  | .io reason => "Erro ao gravar configuração: " ++ reason

def textValue (s : String) : String := String.ofList (Toml.writeString s.toList)

/-- The file that keeps a configuration. -/
def render (c : Config) : Except SaveError String :=
  if 0x8000000000000000 ≤ c.timeoutMs.toNat ∨ 0x8000000000000000 ≤ c.tickMs.toNat then .error .outOfRange
  else
    .ok <| String.join <| [
      "[storage]",
      "internal_dir = " ++ textValue c.internalDir,
      "metadata_file = " ++ textValue c.metadataFile,
      "external_dir = " ++ textValue c.externalDir,
      "",
      "[network]",
      "server_url = " ++ textValue c.serverUrl,
      s!"timeout_ms = {c.timeoutMs.toNat}",
      s!"enabled = {c.enabled}",
      "",
      "[scheduler]",
      s!"tick_ms = {c.tickMs.toNat}"].map (· ++ "\n")

end Config
end FieldLogger
