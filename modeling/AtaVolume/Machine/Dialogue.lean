/-
AtaVolume.Machine.Dialogue — what is said between a user and the shell.

A line is answered in one turn: a blank one with nothing, one that is no
command with a hint, a command with its reply and the error that ended it. The
dialogue ends with `exit`.
-/
import AtaVolume.Machine.Boot

namespace AtaVolume

namespace Dialogue

/-! ## §1 Texts -/

/-- What is said before booting. -/
def opening : String := "[Elixir Booting...]\n"

/-- What is said when the machine is ready. -/
def greeting : String := Shell.lines
  ["✅ Ready!", "Welcome to Elixir v0.1.0", "Type 'help' for available commands.", ""]

/-- What is said when no more lines come. -/
def leaving : String := "Exiting Elixir...\n"

/-- The last word. -/
def farewell : String := "GoodBye!\n"

/-- The hint after a line that is no command. -/
def hint : String :=
  "⚠️  Unknown command or bad arguments. Type 'help' for command list.\n"

/-- An error. -/
def errorText (message : String) : String := s!"❌ Error: {message}\n"

/-- The steps of booting; the progress is not shown. -/
def stepsText (messages : Array BootMessage) : String :=
  Shell.lines (messages.toList.filterMap fun
    | .step text => some text
    | .progress _ => none)

/-- The reply to a command. -/
def replyText (r : Reply) : String :=
  r.text ++ match r.error with
    | some e => errorText e.message
    | none => ""

/-! ## §2 Turns -/

/-- What follows a line: what is said, the machine, and the command that the
line was. -/
structure Turn where
  text : String
  machine : Machine
  command : Option Command := none

/-- Answers a line. -/
def answer (m : Machine) (line : String) : Turn :=
  if (Text.trim line.toList).isEmpty then { text := "", machine := m }
  else
    match Command.parse line with
    | none => { text := hint, machine := m }
    | some command =>
      let (reply, machine) := m.execute command
      { text := replyText reply, machine, command := some command }

/-- The dialogue is over. -/
def Turn.isLast (t : Turn) : Bool := t.command = some .exit

/-- The slot whose image the turn may have changed. -/
def Turn.changed (t : Turn) : Option Slot :=
  (t.command.filter Command.isChange).bind Machine.slotOf

end Dialogue

end AtaVolume
