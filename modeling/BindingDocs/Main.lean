import BindingDocs.Program
import Std.Time

/-!
# The command

The program on the real file system.  Log lines go to standard output as they arise, each with the time in
front.
-/

namespace BindingDocs.Main

/-- The number and the text that the system gives for an error. -/
def systemError : IO.Error → Nat × String
  | .alreadyExists _ code text => (code.toNat, text)
  | .otherError code text => (code.toNat, text)
  | .resourceBusy code text => (code.toNat, text)
  | .resourceVanished code text => (code.toNat, text)
  | .unsupportedOperation code text => (code.toNat, text)
  | .hardwareFault code text => (code.toNat, text)
  | .unsatisfiedConstraints code text => (code.toNat, text)
  | .illegalOperation code text => (code.toNat, text)
  | .protocolError code text => (code.toNat, text)
  | .timeExpired code text => (code.toNat, text)
  | .interrupted _ code text => (code.toNat, text)
  | .noFileOrDirectory _ code text => (code.toNat, text)
  | .invalidArgument _ code text => (code.toNat, text)
  | .permissionDenied _ code text => (code.toNat, text)
  | .resourceExhausted _ code text => (code.toNat, text)
  | .inappropriateType _ code text => (code.toNat, text)
  | .noSuchThing _ code text => (code.toNat, text)
  | .unexpectedEof => (0, "unexpected end of file")
  | .userError text => (0, text)

/-- The file error that the system's number stands for.  Some calls give the number with a minus sign, which
reads as a number of 32 bits. -/
def fileError (e : IO.Error) : FileError :=
  let (number, text) := systemError e
  let code := if number < 0x80000000 then number else 0x100000000 - number
  match code with
  | 2 => .notFound
  | 17 => .alreadyExists
  | 20 => .notDirectory
  | 21 => .isDirectory
  | 36 => .nameTooLong
  | code => .other code text.toList

/-- Takes an action on the file that a path name means. -/
def onFile {α : Type} (path : Text) (act : String → IO α) : IO (Except FileError α) := do
  if path.contains '\x00' then return .error .nulInName
  try
    return .ok (← act (String.ofList path))
  catch e => return .error (fileError e)

/-- The time in front of a log line. -/
def logTime : IO String := do
  let now ← Std.Time.Timestamp.now
  return (Std.Time.DateTime.ofTimestamp now .UTC).format "uuuu-MM-dd'T'HH:mm:ss.SSSSSSXXX"

/-- Prints a line of the log; the names of levels are aligned at the right. -/
def printEntry (e : Log.Entry) : IO Unit := do
  let gap := if e.level = .debug then " " else "  "
  IO.println ((← logTime) ++ gap ++ String.ofList e.printed)

/-- The actions on the real file system. -/
def world : World IO where
  makeDirectories path := onFile path fun path => IO.FS.createDirAll path
  read path := onFile path fun path => do return (← IO.FS.readBinFile path).toList
  write path content := onFile path fun path => IO.FS.writeBinFile path ⟨content.toArray⟩
  log := printEntry

/-- The time of pages for which none was given. -/
def pageTime : IO Text := do
  let now ← Std.Time.DateTime.now
  return (now.format "uuuu-MM-dd'T'HH:mm:ssXXX").toList

end BindingDocs.Main

def main (args : List String) : IO UInt32 := do
  let filter? ← IO.getEnv "RUST_LOG"
  let outcome ← BindingDocs.Program.execute BindingDocs.Main.world (args.map String.toList)
    (filter?.map String.toList) (← BindingDocs.Main.pageTime)
  for line in outcome.output do
    IO.println (String.ofList line)
  IO.eprint (String.ofList outcome.errors)
  return outcome.code.toUInt32
