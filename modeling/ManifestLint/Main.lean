import ManifestLint.Command

namespace ManifestLint

def Disk.lookAt (path : String) : IO Disk.Entry := do
  try
    return .file (String.fromUTF8? (← IO.FS.readBinFile path))
  catch
    | .noFileOrDirectory .. => return .missing
    | .inappropriateType _ 20 _ => return .notADirectory
    | _ => return .directory

end ManifestLint

open ManifestLint

def main (args : List String) : IO UInt32 := do
  let configDirectory ← IO.getEnv "PP_LINT_CONFIG_DIR"
  let home ← IO.getEnv "HOME"
  let entries ← (Command.lookedAt configDirectory home args).mapM fun path ↦
    return (path, ← Disk.lookAt path)
  let disk : Disk := fun path ↦ (entries.lookup path).getD .missing
  let outcome := Command.run ⟨configDirectory, home, disk⟩ args
  for event in outcome.events do
    IO.eprintln event.line
  if let some (path, text) := outcome.written then
    IO.FS.writeFile path text
  IO.print outcome.output
  if let some failure := outcome.failure then
    IO.eprintln s!"Error: {failure.message}"
  if outcome = .misused then
    IO.eprint Command.helpText
  return outcome.status
