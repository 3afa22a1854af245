import HeaderRelay.Settings.File

set_option autoImplicit false

namespace HeaderRelay.Main

def path? : List String → Option String
  | "--config-path" :: path :: _ => some path
  | _ :: rest => path? rest
  | [] => none

/-- What is shown for the file at a path, and whether the settings in it are sound. -/
def report (path : String) (content : Option Bytes) : Bool × String :=
  match Settings.load path content with
  | .error defect => (false, defect.message)
  | .ok settings =>
      match settings.check with
      | .error defect => (false, defect.message)
      | .ok () => (true, settings.text)

/-- The content of the file at a path, if it can be read. -/
def content? (path : String) : IO (Option Bytes) := do
  try
    return some (← IO.FS.readBinFile path).toList
  catch _ =>
    return none

end HeaderRelay.Main

open HeaderRelay in
def main (args : List String) : IO UInt32 := do
  match (Main.path? args).or (← IO.getEnv "RELAYER_CONFIG_PATH") with
  | none =>
      IO.eprintln "usage: header-relay --config-path PATH"
      return 2
  | some path =>
      let (sound, text) := Main.report path (← Main.content? path)
      if sound then
        IO.println text
        return 0
      else
        IO.eprintln text
        return 1
