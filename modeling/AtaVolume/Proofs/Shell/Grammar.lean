/-
AtaVolume.Proofs.Shell.Grammar — which lines are commands.

`Reads` is the grammar: one rule for each kind of command, with the words that it takes and
the numbers that they write. The parser accepts the lines of the grammar and no others, and
gives the command of the rule (`ofWords_eq_some_iff`). Words behind the arguments are
ignored except behind `format`, where they are flags.

A command is written with its name, its numbers in decimal and, for `format`, flags that
say what it is to do, in any order and as often as one likes (`written`). These words are
one of the grammar's ways to write the command (`reads_written`).
-/
import AtaVolume.Shell.Command
import AtaVolume.Proofs.Text.Numeral
import AtaVolume.Proofs.Text.Words

namespace AtaVolume

open Text (Writes Spaced TrimsTo)

namespace Command

/-! ## §1 The grammar -/

/-- The commands that take a drive. -/
def onDrives : List (String × (UInt8 → Command)) :=
  [("mount", .mount), ("bitmap", .bitmap), ("create", .create), ("ls", .list),
    ("check", .check), ("scan", .scan)]

/-- The commands that take a drive and an inode. -/
def onInodes : List (String × (UInt8 → UInt32 → Command)) := [("rm", .remove), ("stat", .stat)]

/-- The word writes a drive number. -/
def WritesDrive (word : List Char) (drive : UInt8) : Prop := Writes 10 (2 ^ 8) word drive.toNat

/-- The word writes an inode number. -/
def WritesInode (word : List Char) (inode : UInt32) : Prop := Writes 10 (2 ^ 32) word inode.toNat

/-- The word writes a sector number: base 16 behind `0x` or `0X`, decimal otherwise. -/
inductive WritesLba : List Char → UInt32 → Prop
  | hex {mark : Char} {digits : List Char} {lba : UInt32} (hmark : mark = 'x' ∨ mark = 'X')
      (hlba : Writes 16 (2 ^ 32) digits lba.toNat) : WritesLba ('0' :: mark :: digits) lba
  | decimal {word : List Char} {lba : UInt32}
      (hplain : ∀ mark digits, word = '0' :: mark :: digits → mark ≠ 'x' ∧ mark ≠ 'X')
      (hlba : Writes 10 (2 ^ 32) word lba.toNat) : WritesLba word lba

/-- The words are flags that say this about the check of the new superblock and about the
question before formatting. -/
structure Flags (flags : List (List Char)) (verify assumeYes : Bool) : Prop where
  known : ∀ flag ∈ flags,
    flag = "--no-verify".toList ∨ flag = "-y".toList ∨ flag = "--yes".toList
  verify : verify = false ↔ "--no-verify".toList ∈ flags
  yes : assumeYes = true ↔ "-y".toList ∈ flags ∨ "--yes".toList ∈ flags

/-- **The grammar**: the words of a line, and the command that they write. -/
inductive Reads : List (List Char) → Command → Prop
  | help {rest} : Reads ("help".toList :: rest) .help
  | drives {rest} : Reads ("drives".toList :: rest) .drives
  | exit {rest} : Reads ("exit".toList :: rest) .exit
  | format {word flags drive verify assumeYes} (hdrive : WritesDrive word drive)
      (hflags : Flags flags verify assumeYes) :
      Reads ("format".toList :: word :: flags) (.format drive verify assumeYes)
  | onDrive {name make word drive rest} (hname : (name, make) ∈ onDrives)
      (hdrive : WritesDrive word drive) : Reads (name.toList :: word :: rest) (make drive)
  | onInode {name make word number drive inode rest} (hname : (name, make) ∈ onInodes)
      (hdrive : WritesDrive word drive) (hinode : WritesInode number inode) :
      Reads (name.toList :: word :: number :: rest) (make drive inode)
  | dump {word number drive lba rest} (hdrive : WritesDrive word drive)
      (hlba : WritesLba number lba) :
      Reads ("dump".toList :: word :: number :: rest) (.dump drive lba)

variable {args ws : List (List Char)} {c : Command} {cs : List Char} {drive : UInt8} {lba : UInt32}

/-! ## §2 Arguments -/

theorem driveArgument_eq_some_iff :
    driveArgument args = some drive ↔ ∃ word rest, args = word :: rest ∧ WritesDrive word drive := by
  cases args with
  | nil => simp [driveArgument]
  | cons word rest => simp [driveArgument, Text.readByte_eq_some_iff, WritesDrive]

/-- Behind a mark there is no decimal number. -/
theorem not_writes_marked {mark : Char} {digits : List Char} {n : Nat}
    (hmark : mark = 'x' ∨ mark = 'X') : ¬ Writes 10 (2 ^ 32) ('0' :: mark :: digits) n := by
  have hno : Text.digitValue? 10 mark = none := by
    obtain rfl | rfl := hmark <;> decide
  have hzero : Text.digitValue? 10 '0' = some 0 := by decide
  rw [← Text.readUnsigned_eq_some_iff (by decide)]
  simp [Text.readUnsigned, Text.readNatural, Text.readDigits, hno, hzero]

theorem readLba_eq_some_iff : readLba cs = some lba ↔ WritesLba cs lba := by
  have hhex : ∀ {mark digits}, mark = 'x' ∨ mark = 'X' →
      ((Text.readUnsigned 16 UInt32.size digits).map UInt32.ofNat = some lba
        ↔ WritesLba ('0' :: mark :: digits) lba) := by
    intro mark digits hmark
    rw [Text.map_readUnsigned_eq_some_iff (by decide)]
    constructor
    · intro hlba
      exact .hex hmark hlba
    · intro h
      cases h with
      | hex _ hlba => exact hlba
      | decimal _ hlba => exact absurd hlba (not_writes_marked hmark)
  unfold readLba
  split
  case h_1 => exact hhex (.inl rfl)
  case h_2 => exact hhex (.inr rfl)
  case h_3 hx hX =>
    rw [Text.readWord_eq_some_iff]
    constructor
    · intro hlba
      refine .decimal ?_ hlba
      rintro mark digits rfl
      exact ⟨fun hmark => hx digits (by rw [hmark]), fun hmark => hX digits (by rw [hmark])⟩
    · intro h
      cases h with
      | hex hmark _ =>
        obtain rfl | rfl := hmark
        · exact absurd rfl (hx _)
        · exact absurd rfl (hX _)
      | decimal _ hlba => exact hlba

theorem onDrive_eq_some_iff {make : UInt8 → Command} :
    onDrive make args = some c
      ↔ ∃ word rest drive, args = word :: rest ∧ WritesDrive word drive ∧ make drive = c := by
  simp only [onDrive, Option.map_eq_some_iff, driveArgument_eq_some_iff]
  constructor
  · rintro ⟨drive, ⟨word, rest, hargs, hdrive⟩, hc⟩
    exact ⟨word, rest, drive, hargs, hdrive, hc⟩
  · rintro ⟨word, rest, drive, hargs, hdrive, hc⟩
    exact ⟨drive, ⟨word, rest, hargs, hdrive⟩, hc⟩

/-- Two arguments are read from the first two words. -/
theorem onDriveAnd_eq_some_iff {readNumber : List Char → Option UInt32}
    {Number : List Char → UInt32 → Prop} (hread : ∀ cs n, readNumber cs = some n ↔ Number cs n)
    {make : UInt8 → UInt32 → Command} :
    onDriveAnd readNumber make args = some c
      ↔ ∃ word number rest drive n, args = word :: number :: rest
        ∧ WritesDrive word drive ∧ Number number n ∧ make drive n = c := by
  simp only [onDriveAnd, Option.bind_eq_bind, Option.bind_eq_some_iff, driveArgument_eq_some_iff,
    Option.pure_def, Option.some.injEq]
  constructor
  · rintro ⟨drive, ⟨word, rest, rfl, hdrive⟩, n, ⟨number, hnumber, hn⟩, hc⟩
    cases rest with
    | nil => simp at hnumber
    | cons number' rest =>
      obtain rfl : number' = number := by simpa using hnumber
      exact ⟨word, number', rest, drive, n, rfl, hdrive, (hread _ _).1 hn, hc⟩
  · rintro ⟨word, number, rest, drive, n, rfl, hdrive, hn, hc⟩
    exact ⟨drive, ⟨word, _, rfl, hdrive⟩, n, ⟨number, by simp, (hread _ _).2 hn⟩, hc⟩

theorem any_yesWords {flags : List (List Char)} :
    flags.any yesWords.contains = true ↔ "-y".toList ∈ flags ∨ "--yes".toList ∈ flags := by
  unfold yesWords
  generalize "-y".toList = y, "--yes".toList = yes
  simp only [List.any_eq_true, List.contains_cons, List.contains_nil, Bool.or_false,
    Bool.or_eq_true, beq_iff_eq]
  constructor
  · rintro ⟨flag, hflag, rfl | rfl⟩
    · exact .inl hflag
    · exact .inr hflag
  · rintro (hflag | hflag)
    · exact ⟨_, hflag, .inl rfl⟩
    · exact ⟨_, hflag, .inr rfl⟩

/-- There is one thing that flags can say. -/
theorem flags_iff {flags : List (List Char)} {verify assumeYes : Bool} :
    Flags flags verify assumeYes
      ↔ (flags.all fun w => w = noVerifyWord || yesWords.contains w) = true
        ∧ (!flags.contains noVerifyWord) = verify ∧ flags.any yesWords.contains = assumeYes := by
  have hknown : (flags.all fun w => w = noVerifyWord || yesWords.contains w) = true
      ↔ ∀ flag ∈ flags,
        flag = "--no-verify".toList ∨ flag = "-y".toList ∨ flag = "--yes".toList := by
    unfold noVerifyWord yesWords
    generalize "--no-verify".toList = noVerify, "-y".toList = y, "--yes".toList = yes
    simp
  have hverify : (!flags.contains noVerifyWord) = verify
      ↔ (verify = false ↔ "--no-verify".toList ∈ flags) := by
    unfold noVerifyWord
    generalize "--no-verify".toList = noVerify
    cases verify <;> simp
  have hyes : flags.any yesWords.contains = assumeYes
      ↔ (assumeYes = true ↔ "-y".toList ∈ flags ∨ "--yes".toList ∈ flags) := by
    rw [← any_yesWords, Bool.eq_iff_iff]
    exact iff_comm
  rw [hknown, hverify, hyes]
  constructor
  · intro h
    exact ⟨h.known, h.verify, h.yes⟩
  · rintro ⟨hknown, hverify, hyes⟩
    exact ⟨hknown, hverify, hyes⟩

theorem readFormat_eq_some_iff :
    readFormat args = some c
      ↔ ∃ word flags drive verify assumeYes, args = word :: flags ∧ WritesDrive word drive
        ∧ Flags flags verify assumeYes ∧ .format drive verify assumeYes = c := by
  simp only [readFormat, Option.bind_eq_bind, Option.bind_eq_some_iff, driveArgument_eq_some_iff]
  constructor
  · rintro ⟨drive, ⟨word, flags, rfl, hdrive⟩, h⟩
    simp only [List.drop_succ_cons, List.drop_zero] at h
    split at h
    case isTrue hall =>
      cases h
      exact ⟨word, flags, drive, _, _, rfl, hdrive, flags_iff.2 ⟨hall, rfl, rfl⟩, rfl⟩
    case isFalse => cases h
  · rintro ⟨word, flags, drive, verify, assumeYes, rfl, hdrive, hflags, rfl⟩
    obtain ⟨hall, rfl, rfl⟩ := flags_iff.1 hflags
    refine ⟨drive, ⟨word, flags, rfl, hdrive⟩, ?_⟩
    simp only [List.drop_succ_cons, List.drop_zero, hall, if_true]
    rfl

/-! ## §3 Lines -/

/-- What the parser accepts is in the grammar. -/
theorem reads_of_ofWords (h : ofWords ws = some c) : Reads ws c := by
  cases ws with
  | nil => cases h
  | cons word args =>
    obtain ⟨name, rfl⟩ : ∃ name : String, word = name.toList := ⟨String.ofList word, by simp⟩
    have hdrives : ∀ {make}, (name, make) ∈ onDrives → onDrive make args = some c →
        Reads (name.toList :: args) c := by
      intro make hname hmake
      obtain ⟨word, rest, drive, rfl, hdrive, rfl⟩ := onDrive_eq_some_iff.1 hmake
      exact .onDrive hname hdrive
    have hinodes : ∀ {make}, (name, make) ∈ onInodes → onDriveAnd Text.readWord make args = some c →
        Reads (name.toList :: args) c := by
      intro make hname hmake
      obtain ⟨word, number, rest, drive, inode, rfl, hdrive, hinode, rfl⟩ :=
        (onDriveAnd_eq_some_iff fun _ _ => Text.readWord_eq_some_iff).1 hmake
      exact .onInode hname hdrive hinode
    simp only [ofWords, String.ofList_toList] at h
    split at h
    case h_1 => cases h; exact .help
    case h_2 => cases h; exact .drives
    case h_3 =>
      obtain ⟨word, flags, drive, verify, assumeYes, rfl, hdrive, hflags, rfl⟩ :=
        readFormat_eq_some_iff.1 h
      exact .format hdrive hflags
    case h_4 => exact hdrives (by simp [onDrives]) h
    case h_5 => exact hdrives (by simp [onDrives]) h
    case h_6 => exact hdrives (by simp [onDrives]) h
    case h_7 => exact hinodes (by simp [onInodes]) h
    case h_8 => exact hinodes (by simp [onInodes]) h
    case h_9 => exact hdrives (by simp [onDrives]) h
    case h_10 => exact hdrives (by simp [onDrives]) h
    case h_11 => exact hdrives (by simp [onDrives]) h
    case h_12 =>
      obtain ⟨word, number, rest, drive, lba, rfl, hdrive, hlba, rfl⟩ :=
        (onDriveAnd_eq_some_iff fun _ _ => readLba_eq_some_iff).1 h
      exact .dump hdrive hlba
    case h_13 => cases h; exact .exit
    case h_14 => cases h

/-- The parser accepts the grammar. -/
theorem Reads.ofWords_eq (h : Reads ws c) : ofWords ws = some c := by
  cases h with
  | help => simp [ofWords]
  | drives => simp [ofWords]
  | exit => simp [ofWords]
  | format hdrive hflags =>
    have hread := readFormat_eq_some_iff.2 ⟨_, _, _, _, _, rfl, hdrive, hflags, rfl⟩
    simpa [ofWords] using hread
  | @onDrive name make word drive rest hname hdrive =>
    have hread : Command.onDrive make (word :: rest) = some (make drive) :=
      onDrive_eq_some_iff.2 ⟨_, _, _, rfl, hdrive, rfl⟩
    simp only [onDrives, List.mem_cons, Prod.mk.injEq, List.not_mem_nil, or_false] at hname
    obtain ⟨rfl, rfl⟩ | ⟨rfl, rfl⟩ | ⟨rfl, rfl⟩ | ⟨rfl, rfl⟩ | ⟨rfl, rfl⟩ | ⟨rfl, rfl⟩ := hname <;>
      simpa [ofWords] using hread
  | @onInode name make word number drive inode rest hname hdrive hinode =>
    have hread : onDriveAnd Text.readWord make (word :: number :: rest) = some (make drive inode) :=
      (onDriveAnd_eq_some_iff fun _ _ => Text.readWord_eq_some_iff).2
        ⟨_, _, _, _, _, rfl, hdrive, hinode, rfl⟩
    simp only [onInodes, List.mem_cons, Prod.mk.injEq, List.not_mem_nil, or_false] at hname
    obtain ⟨rfl, rfl⟩ | ⟨rfl, rfl⟩ := hname <;> simpa [ofWords] using hread
  | @dump word number drive lba rest hdrive hlba =>
    have hread : onDriveAnd readLba .dump (word :: number :: rest) = some (.dump drive lba) :=
      (onDriveAnd_eq_some_iff fun _ _ => readLba_eq_some_iff).2
        ⟨_, _, _, _, _, rfl, hdrive, hlba, rfl⟩
    simpa [ofWords] using hread

/-- **Words are a command exactly if the grammar has them.** -/
theorem ofWords_eq_some_iff : ofWords ws = some c ↔ Reads ws c := by
  constructor
  · exact reads_of_ofWords
  · exact Reads.ofWords_eq

/-! ## §4 Commands as they are written -/

/-- The word that a command starts with. -/
def name : Command → String
  | .help => "help"
  | .drives => "drives"
  | .format .. => "format"
  | .mount _ => "mount"
  | .bitmap _ => "bitmap"
  | .create _ => "create"
  | .remove .. => "rm"
  | .stat .. => "stat"
  | .list _ => "ls"
  | .check _ => "check"
  | .scan _ => "scan"
  | .dump .. => "dump"
  | .exit => "exit"

/-- The numbers that a command carries. -/
def numbers : Command → List Nat
  | .help | .drives | .exit => []
  | .format drive _ _ | .mount drive | .bitmap drive | .create drive | .list drive | .check drive
  | .scan drive => [drive.toNat]
  | .remove drive n | .stat drive n | .dump drive n => [drive.toNat, n.toNat]

/-- The words that a command is written with: its name, its numbers in decimal, and flags. -/
def written (c : Command) (flags : List (List Char)) : List (List Char) :=
  c.name.toList :: c.numbers.map (Nat.toDigits 10) ++ flags

/-- The flags that go with a command, in any order and as often as one likes. -/
def TakesFlags : Command → List (List Char) → Prop
  | .format _ verify assumeYes, flags => Flags flags verify assumeYes
  | _, flags => flags = []

theorem exists_takesFlags (c : Command) : ∃ flags, c.TakesFlags flags := by
  cases c with
  | format drive verify assumeYes =>
    cases verify <;> cases assumeYes
    · exact ⟨["--no-verify".toList], flags_iff.2 (by decide)⟩
    · exact ⟨["--no-verify".toList, "--yes".toList], flags_iff.2 (by decide)⟩
    · exact ⟨[], flags_iff.2 (by decide)⟩
    · exact ⟨["--yes".toList], flags_iff.2 (by decide)⟩
  | _ => exact ⟨[], rfl⟩

/-- **A command's words are in the grammar**, with any flags that go with it. -/
theorem reads_written {flags : List (List Char)} (h : c.TakesFlags flags) :
    Reads (c.written flags) c := by
  have hdrive : ∀ drive : UInt8, WritesDrive (Nat.toDigits 10 drive.toNat) drive :=
    fun drive => Text.writes_toDigits drive.toNat_lt
  have hinode : ∀ inode : UInt32, WritesInode (Nat.toDigits 10 inode.toNat) inode :=
    fun inode => Text.writes_toDigits inode.toNat_lt
  have hdrives : ∀ name make, (name, make) ∈ onDrives → ∀ drive,
      Reads [name.toList, Nat.toDigits 10 drive.toNat] (make drive) :=
    fun _ _ hname drive => .onDrive hname (hdrive drive)
  have hinodes : ∀ name make, (name, make) ∈ onInodes → ∀ drive inode,
      Reads [name.toList, Nat.toDigits 10 drive.toNat, Nat.toDigits 10 inode.toNat]
        (make drive inode) :=
    fun _ _ hname drive inode => .onInode hname (hdrive drive) (hinode inode)
  cases c with
  | format drive verify assumeYes => exact .format (hdrive drive) h
  | help => cases h; exact .help
  | drives => cases h; exact .drives
  | exit => cases h; exact .exit
  | mount drive => cases h; exact hdrives "mount" .mount (by simp [onDrives]) drive
  | bitmap drive => cases h; exact hdrives "bitmap" .bitmap (by simp [onDrives]) drive
  | create drive => cases h; exact hdrives "create" .create (by simp [onDrives]) drive
  | list drive => cases h; exact hdrives "ls" .list (by simp [onDrives]) drive
  | check drive => cases h; exact hdrives "check" .check (by simp [onDrives]) drive
  | scan drive => cases h; exact hdrives "scan" .scan (by simp [onDrives]) drive
  | remove drive inode => cases h; exact hinodes "rm" .remove (by simp [onInodes]) drive inode
  | stat drive inode => cases h; exact hinodes "stat" .stat (by simp [onInodes]) drive inode
  | dump drive lba =>
    cases h
    refine .dump (hdrive drive) (.decimal ?_ (Text.writes_toDigits lba.toNat_lt))
    -- a mark is no digit
    intro mark digits hword
    have hmark : mark.isDigit = true := by
      apply Text.isDigit_of_mem_toDigits
      rw [hword]
      simp
    constructor <;> rintro rfl <;> cases hmark

/-- The words of a command are words: none is empty or has a blank in it. -/
theorem isBlank_written {flags : List (List Char)} (h : c.TakesFlags flags) :
    ∀ word ∈ c.written flags, word ≠ [] ∧ ∀ char ∈ word, Text.isBlank char = false := by
  have hsolid : ∀ word : List Char,
      (!word.isEmpty && word.all fun char => !Text.isBlank char) = true →
      word ≠ [] ∧ ∀ char ∈ word, Text.isBlank char = false := by
    intro word hall
    simpa using hall
  intro word hword
  simp only [written, List.cons_append, List.mem_cons, List.mem_append, List.mem_map] at hword
  obtain rfl | ⟨n, -, rfl⟩ | hflag := hword
  · cases c <;> simp only [name] <;> exact hsolid _ (by decide)
  · refine ⟨Nat.toDigits_ne_nil, ?_⟩
    intro char hchar
    exact Text.isBlank_of_isDigit (Text.isDigit_of_mem_toDigits char hchar)
  · cases c with
    | format drive verify assumeYes =>
      obtain rfl | rfl | rfl := h.known word hflag <;> exact hsolid _ (by decide)
    | _ => cases h; simp at hflag

/-- **Which lines are commands.** A line is one exactly if the grammar has its words: those
that stand between ASCII blanks after all blanks are taken from both ends. Every command
can be written, with each choice of flags that goes with it, and however its words are
spaced, the line reads as this command. -/
theorem parse_grammar :
    (∀ line c, parse line = some c
      ↔ ∃ text ws, TrimsTo line.toList text ∧ Spaced ws text ∧ Reads ws c)
    ∧ (∀ c : Command, ∃ flags, c.TakesFlags flags)
    ∧ ∀ (c : Command) flags, c.TakesFlags flags → (∃ text, Spaced (c.written flags) text)
      ∧ ∀ line, Spaced (c.written flags) line.toList → parse line = some c := by
  refine ⟨?_, exists_takesFlags, ?_⟩
  · intro line c
    rw [parse, ofWords_eq_some_iff]
    constructor
    · intro h
      exact ⟨_, _, Text.trimsTo_trim _, Text.spaced_words _, h⟩
    · rintro ⟨text, ws, htext, hws, h⟩
      rw [Text.trimsTo_iff.1 htext, Text.words_eq_iff.2 hws]
      exact h
  · intro c flags hflags
    have hwords := isBlank_written hflags
    refine ⟨⟨_, Spaced.spaces hwords⟩, ?_⟩
    intro line hline
    rw [parse, hline.words_trim fun word hword => (hwords word hword).2, ofWords_eq_some_iff]
    exact reads_written hflags

theorem parse_grammar_format :
    TakesFlags (.format 3 false true) ["-y".toList, "--no-verify".toList, "--yes".toList]
      ∧ Spaced (written (.format 3 false true) ["-y".toList, "--no-verify".toList, "--yes".toList])
        "\t format 3\n-y  --no-verify --yes ".toList
      ∧ parse "\t format 3\n-y  --no-verify --yes " = some (.format 3 false true) := by
  have hflags :
      TakesFlags (.format 3 false true) ["-y".toList, "--no-verify".toList, "--yes".toList] :=
    flags_iff.2 (by decide)
  have hline : Spaced
      (written (.format 3 false true) ["-y".toList, "--no-verify".toList, "--yes".toList])
      "\t format 3\n-y  --no-verify --yes ".toList :=
    Text.words_eq_iff.1 (by decide)
  exact ⟨hflags, hline, (parse_grammar.2.2 _ _ hflags).2 _ hline⟩

end Command

end AtaVolume
