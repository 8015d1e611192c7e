import FirmwareDisk.Survey.Conduct

set_option autoImplicit false

namespace FirmwareDisk.Survey

def Options.paths (options : Options) : List String :=
  options.images ++ options.floppies ++ options.optical.toList

def openingError : IO.Error → String
  | .noFileOrDirectory _ code _ => s!"No such file or directory (os error {code})"
  | cause => cause.toString

/-- The image in a file, if the file can be read. -/
def loadImage (path : String) : IO (String × Except String ImageFile) := do
  try
    return (path, .ok (.ofByteArray path (← IO.FS.readBinFile path)))
  catch cause => return (path, .error (openingError cause))

/-- Makes a survey of files, and returns the status to end with. -/
def survey (options : Options) : IO UInt32 := do
  let images ← options.paths.eraseDups.mapM loadImage
  match run (fun path => (images.lookup path).getD (.error "not read")) options with
  | .error _ =>
    IO.eprintln "a drive number is out of range"
    return 101
  | .ok conclusion =>
    IO.print conclusion.output
    for line in (conclusion.problem.map Problem.lines).getD [] do
      IO.eprintln line
    return UInt32.ofNat conclusion.status

end FirmwareDisk.Survey

def main (arguments : List String) : IO UInt32 :=
  match FirmwareDisk.Survey.Options.ofArguments arguments with
  | .ok options => FirmwareDisk.Survey.survey options
  | .error cause => do
    IO.eprintln s!"error: {cause.message}"
    return 2
