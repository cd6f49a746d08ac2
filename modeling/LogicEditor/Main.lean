import LogicEditor.CommandLine

/-! # The program

Reads the files that the arguments name, and writes the reply. -/

namespace LogicEditor

/-- A system error from its reason and its number, which some calls report as a negative word. -/
def FileError.ofReason (reason : String) (code : UInt32) : FileError :=
  .system reason.capitalize (if code < 0x80000000 then code else -code).toNat

/-- The reason and the number of a failed call. -/
def FileError.ofSystem : IO.Error → FileError
  | .noFileOrDirectory _ code reason | .inappropriateType _ code reason
  | .permissionDenied _ code reason | .invalidArgument _ code reason
  | .resourceExhausted _ code reason | .noSuchThing _ code reason
  | .otherError code reason => .ofReason reason code
  | e => .ofReason (toString e) 0

def readText (path : String) : IO (Except FileError Text) := do
  try
    let bytes ← IO.FS.readBinFile path
    return match String.fromUTF8? bytes with
    | some s => .ok s.toList
    | none => .error .notText
  catch e => return .error (.ofSystem e)

/-- An argument from its bytes. -/
def CommandArgument.ofBytes (bytes : List UInt8) : CommandArgument :=
  match String.fromUTF8? ⟨bytes.toArray⟩ with
  | some s => .text s
  | none => .notText

/-- The arguments as the system keeps them: the bytes of each, ended by a zero byte, those of the
program last. Without access to them they are taken for the texts that were passed. -/
def CommandArgument.ofSystem (args : List String) : IO (List CommandArgument) := do
  try
    let bytes ← IO.FS.readBinFile "/proc/self/cmdline"
    let kept := (bytes.toList.splitOn 0).dropLast
    return (kept.drop (kept.length - args.length)).map .ofBytes
  catch _ => return args.map .text

/-- The texts of the files that the arguments name, by path. -/
def readTexts (args : List CommandArgument) : IO (List (String × Except FileError Text)) :=
  match Invocation.ofArguments args with
  | .ok i => i.files.mapM fun path => return (path, ← readText path)
  | .error _ => return []

end LogicEditor

open LogicEditor

/-- The entry point. -/
def main (args : List String) : IO UInt32 := do
  let args ← CommandArgument.ofSystem args
  let texts ← readTexts args
  let r := reply args fun path => (texts.lookup path).getD (.error .missing)
  IO.print r.stdout
  IO.eprint r.stderr
  return r.code.toUInt32
