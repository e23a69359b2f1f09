import FieldLogger.Calendar.Clock
import FieldLogger.Terminal.Signal

/-!
What the terminal prints. Lines end in a carriage return and a newline.
-/

namespace FieldLogger

/-- The version that the terminal shows. -/
def firmwareVersion : String := "0.3.0"

namespace Screen

/-- Text lines, each with its end. -/
def lines (ls : List String) : String := String.join (ls.map (· ++ "\r\n"))

/-- The line between the parts of a screen. -/
def rule : String := "#############################"

/-- Clears the screen of the operator. -/
def clear : String := "\x1b[2J\x1b[H"

/-- What is shown when the terminal starts. -/
def banner : String := lines [rule, "genLogger versão: " ++ firmwareVersion, rule]

/-- The keys of the first screen. -/
def help : String :=
  lines [rule, "Menu de ajuda:", rule, "I - Informações do dispositivo", "C - Configurar dispositivo", rule]

/-- The keys of the configuration screen with the values being edited. -/
def configHelp (m : Metadata) : String :=
  lines [
    rule,
    "Menu de configuração",
    rule,
    s!"N - Nome do dispositivo ({m.name})",
    "T - Hora e data",
    s!"F - Período de arquivo ({m.filePeriod.label})",
    s!"M - Período de medição ({m.measurement.toNat} min)",
    s!"P - Período de transmissão ({m.transmission.toNat} min)",
    s!"R - Período de relatório ({m.report.toNat} min)",
    "S - Gravar configuração",
    "B - Voltar",
    rule]

def deviceInfo (m : Metadata) (c : Clock) : String :=
  lines [
    rule,
    "Nome do dispositivo: " ++ m.name,
    "Hora: " ++ c.timeText,
    "Data: " ++ c.dateText,
    "Período de arquivo: " ++ m.filePeriod.label,
    s!"Período de medição: {m.measurement.toNat} min",
    s!"Período de transmissão: {m.transmission.toNat} min",
    s!"Período de relatório: {m.report.toNat} min",
    "Versão do firmware: " ++ firmwareVersion,
    "B - Voltar",
    rule]

/-- The question for a new value of a field. -/
def prompt : Field → String
  | .name => "Digite o nome do dispositivo"
  | .timeAndDate => "Digite hora e data no formato HH:MM:SS DD/MM/YYYY"
  | .filePeriod => "Digite o período de arquivo: 0 diário, 1 semanal, 2 mensal, 3 anual, 4 único"
  | .measurement => "Digite o período de medição (minutos)"
  | .transmission => "Digite o período de transmissão (minutos)"
  | .report => "Digite o período de relatório (minutos)"

/-- The notice that a new value was taken. -/
def taken : Field → String
  | .name => "Nome copiado, digite S para salvar"
  | .timeAndDate => "RTC configurado"
  | .filePeriod => "Período de arquivo copiado, digite S para salvar"
  | .measurement => "Período de medição copiado, digite S para salvar"
  | .transmission => "Período de transmissão copiado, digite S para salvar"
  | .report => "Período de relatório copiado, digite S para salvar"

end Screen
end FieldLogger
