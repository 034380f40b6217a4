/-!
# Text without control sequences

A terminal takes an escape character and some of the characters behind it for a command. What is
left for the reader when such sequences and all control characters are removed is computed here;
white space stays. Sequences are told apart only as far as it matters where they end. White space
inside a command is shown without ending it, and so is all that follows up to the next control
character; there the command goes on.
-/

namespace CaseRouting.Text

/-- How far a control sequence has come. -/
inductive ControlSequence where
  /-- There is none. -/
  | absent
  /-- Behind the escape character. -/
  | escape
  /-- A command of which the last character is outstanding. -/
  | selection
  /-- A command with parameters, which a letter ends. -/
  | control
  /-- At the beginning of the head of a string for a device. -/
  | deviceHead
  /-- In the parameters of the head. -/
  | deviceParameters
  /-- Behind the parameters of the head. -/
  | deviceIntermediate
  /-- In a string that only the terminator ends. -/
  | string
  /-- In a command for the operating system, which a bell ends. -/
  | command
  deriving DecidableEq, Repr

/-- A code point lies in a closed range, both ends of which belong to it. -/
def isWithin (c : Char) (first last : Nat) : Bool := first ≤ c.toNat && c.toNat ≤ last

/-- White space among the control characters, which is kept although the other controls are not. -/
def isSpaceControl (c : Char) : Bool := c = '\t' || c = '\n' || c = '\x0c' || c = '\r'

/-- A character that is shown outside of sequences. -/
def isShown (c : Char) : Bool := isSpaceControl c || (0x20 ≤ c.toNat && c.toNat ≠ 0x7F)

/-- Whether the octet of the string terminator occurs in the UTF-8 form of a character. A terminal
reads octets, so that such a character ends a string. -/
def holdsTerminator (c : Char) : Bool := c.toString.toUTF8.data.contains 0x9C

namespace ControlSequence

/-- What comes behind a character of a string for a device, in which a string may begin. -/
def inDevice (onParameter onOther : ControlSequence) (sequence : ControlSequence) (c : Char) :
    ControlSequence :=
  if isWithin c 0x40 0x7E || c = ':' then .string
  else if isWithin c 0x30 0x3B then onParameter
  else if isWithin c 0x3C 0x3F then onOther
  else if isWithin c 0x20 0x2F then .deviceIntermediate
  else sequence

/-- The state behind a character that is neither an escape nor a cancellation, by the rules of each
kind of sequence. -/
def behind (c : Char) : ControlSequence → ControlSequence
  | .absent => .absent
  | .escape =>
    if c = '[' then .control
    else if c = ']' then .command
    else if c = 'P' then .deviceHead
    else if c = 'X' || c = '^' || c = '_' then .string
    else if isWithin c 0x30 0x7E then .absent
    else if isWithin c 0x20 0x2F then .selection
    else .escape
  | .selection => if isWithin c 0x30 0x7E then .absent else .selection
  | .control => if isWithin c 0x40 0x7E then .absent else .control
  | .deviceHead => inDevice .deviceParameters .deviceParameters .deviceHead c
  | .deviceParameters => inDevice .deviceParameters .string .deviceParameters c
  | .deviceIntermediate => inDevice .string .string .deviceIntermediate c
  | .string => if holdsTerminator c then .absent else .string
  | .command => if c = '\x07' then .absent else .command

/-- Whether a character is shown when it comes in a sequence. White space is shown in most commands,
and nothing else is. -/
def shows (c : Char) : ControlSequence → Bool
  | .absent => isShown c
  | .escape => isSpaceControl c
  | .selection => isSpaceControl c
  | .control => isSpaceControl c
  | _ => false

/-- The state behind any character: an escape begins a new sequence, a cancellation ends it. -/
def step (c : Char) (sequence : ControlSequence) : ControlSequence :=
  if c = '\x1b' then .escape
  else if c = '\x18' || c = '\x1a' then .absent
  else sequence.behind c

/-- The shown characters of a text that begins within a sequence; `running` tells that the character
before it was shown. -/
def shown (sequence : ControlSequence) (running : Bool) : List Char → List Char
  | [] => []
  | c :: rest =>
    if running && isShown c then
      c :: shown (if c.toNat < 0x80 then sequence else .absent) true rest
    else if sequence.shows c then c :: shown (sequence.step c) true rest
    else shown (sequence.step c) false rest

end ControlSequence

/-- A text without control sequences and control characters, as a message is written where it goes
to no terminal. -/
def withoutControls (text : String) : String :=
  String.ofList (ControlSequence.shown .absent false text.toList)

end CaseRouting.Text
