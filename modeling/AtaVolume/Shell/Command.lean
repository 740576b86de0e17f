/-
AtaVolume.Shell.Command — the commands of the shell and how they are written.

A line is trimmed and cut into words. The first word names the command, and
its arguments follow; words behind the arguments are ignored, except that
`format` takes nothing but its flags.
-/
import AtaVolume.Text.Blank
import AtaVolume.Text.Numeral

namespace AtaVolume

/-- A command with its arguments. -/
inductive Command
  | help
  | drives
  | format (drive : UInt8) (verify assumeYes : Bool)
  | mount (drive : UInt8)
  | bitmap (drive : UInt8)
  | create (drive : UInt8)
  | remove (drive : UInt8) (inode : UInt32)
  | stat (drive : UInt8) (inode : UInt32)
  | list (drive : UInt8)
  | check (drive : UInt8)
  | scan (drive : UInt8)
  | dump (drive : UInt8) (lba : UInt32)
  | exit
  deriving DecidableEq, Repr

namespace Command

/-- The drive that a command is about. -/
def drive? : Command → Option UInt8
  | .help | .drives | .exit => none
  | .format d .. | .mount d | .bitmap d | .create d | .remove d _ | .stat d _ | .list d
  | .check d | .scan d | .dump d _ => some d

/-- The command may change what is on its drive. -/
def isChange : Command → Bool
  | .format .. | .create _ | .remove .. => true
  | _ => false

/-! ## §1 Arguments -/

/-- A sector number: base 16 behind `0x` or `0X`, decimal otherwise. -/
def readLba : List Char → Option UInt32
  | '0' :: 'x' :: digits => (Text.readUnsigned 16 UInt32.size digits).map UInt32.ofNat
  | '0' :: 'X' :: digits => (Text.readUnsigned 16 UInt32.size digits).map UInt32.ofNat
  | digits => Text.readWord digits

/-- The first argument as a drive number. -/
def driveArgument (args : List (List Char)) : Option UInt8 := args[0]?.bind Text.readByte

/-- A command on a drive. -/
def onDrive (make : UInt8 → Command) (args : List (List Char)) : Option Command :=
  (driveArgument args).map make

/-- A command on a drive and a number. -/
def onDriveAnd (readNumber : List Char → Option UInt32) (make : UInt8 → UInt32 → Command)
    (args : List (List Char)) : Option Command := do
  let drive ← driveArgument args
  let n ← args[1]?.bind readNumber
  return make drive n

/-- The words that turn the check of a new superblock off. -/
def noVerifyWord : List Char := "--no-verify".toList

/-- The words that answer the question before formatting. -/
def yesWords : List (List Char) := ["-y".toList, "--yes".toList]

/-- A `format` command: a drive and nothing but flags behind it. -/
def readFormat (args : List (List Char)) : Option Command := do
  let drive ← driveArgument args
  let flags := args.drop 1
  if flags.all fun w => w = noVerifyWord || yesWords.contains w then
    return .format drive (!flags.contains noVerifyWord) (flags.any yesWords.contains)
  else none

/-! ## §2 Lines -/

/-- The command that the words write. -/
def ofWords : List (List Char) → Option Command
  | [] => none
  | word :: args =>
    match String.ofList word with
    | "help" => some .help
    | "drives" => some .drives
    | "format" => readFormat args
    | "mount" => onDrive .mount args
    | "bitmap" => onDrive .bitmap args
    | "create" => onDrive .create args
    | "rm" => onDriveAnd Text.readWord .remove args
    | "stat" => onDriveAnd Text.readWord .stat args
    | "ls" => onDrive .list args
    | "check" => onDrive .check args
    | "scan" => onDrive .scan args
    | "dump" => onDriveAnd readLba .dump args
    | "exit" => some .exit
    | _ => none

/-- The command that a line writes, if it is one. -/
def parse (text : String) : Option Command := ofWords (Text.words (Text.trim text.toList))

end Command

end AtaVolume
