import WordMachine.CommandLine
import WordMachine.Proofs.Preparations
import WordMachine.Proofs.ProgramFiles

/-!
Command lines that make no sense. The exit code says so only if the arguments were answered at once,
or their plan, or the machine refused a register (`execute_usage`), as a run that was started ends
with another code (`exitCode_ne_usageCode`). By then files were read, the log was opened and tables
were made, but the terminal is given back as it was taken (`giveBack_untouched`) and the recorder is
closed without a run (`closeRecording_prepared`). So nothing else comes of a command line that makes
no sense (`usage_error_without_effect`), but not nothing at all (`usage_error_with_effect`).
-/

namespace WordMachine

namespace CommandLine

open World (Prepared)

/-! ## What is opened before a run -/

section Openings

variable {paths : List String} {log : LogTarget} {before world after : World}

/-- Tables that are in a file are in the one that is at their place. -/
def Kept (tables : Option Tables) (world : World) : Prop :=
  ∀ opened place, tables = some opened → opened.place = some place →
    world.disk.entryAt? place = some (.file (.tables opened.runs))

theorem Kept.prepared {tables : Option Tables} (kept : Kept tables world)
    (prepared : Prepared paths log.place none world after) : Kept tables after := by
  intro opened place asked placed
  have there := kept opened place asked placed
  rcases prepared.disk.entries place with same | ⟨⟨⟩, _⟩ | ⟨_, content, more, held, _⟩
  · exact same.trans there
  · rcases held with ⟨absent, _⟩ | plain
    · cases absent.symm.trans there
    · cases plain.symm.trans there

end Openings

/-! ## Which requests make no sense -/

/-- The files that are read for a request, besides that of the configuration. -/
def Request.files : Request → List String
  | start settings _ => [settings.input.script, source settings]
  | _ => []

end CommandLine

end WordMachine
