/-!
# The standard output

What is printed goes to the standard output, which takes a limited number of bytes or all
of them.  A pipe whose reader goes away takes no more, and neither does a full disk.  What
does not fit is cut off: the front of the text has been given away by then.

The standard output may be a pipe or a terminal, which only gets longer, or there is a
file behind it.  In a file the printed text goes to the position that has been reached,
over what is there, unless the file was opened for appending.  Opened once more under a
name of its own, such a file is emptied, and the position of what is printed stays where
it was.
-/

namespace CppModel.Command

/-- How many bytes a place takes. -/
inductive Room
  | all
  | atMost (count : Nat)
  deriving DecidableEq, Repr

namespace Room

/-- The front of a text that there is room for. -/
def front : Room → ByteArray → ByteArray
  | .all, bytes => bytes
  | .atMost count, bytes => bytes.extract 0 count

/-- Whether there is room for a text. -/
def holds : Room → ByteArray → Bool
  | .all, _ => true
  | .atMost count, bytes => bytes.size ≤ count

/-- What is left of a room. -/
def without : Room → Nat → Room
  | .all, _ => .all
  | .atMost count, taken => .atMost (count - taken)

theorem front_of_holds {room : Room} {bytes : ByteArray} (holds : room.holds bytes = true) :
    room.front bytes = bytes := by
  cases room with
  | all => rfl
  | atMost count =>
      have isShort : bytes.size ≤ count := of_decide_eq_true holds
      rw [front, ← Nat.max_eq_left isShort, ByteArray.extract_zero_max_size]

end Room

/-- What a program prints to. -/
structure Stream where
  /-- What it has been given, or what the file behind it holds. -/
  bytes : ByteArray := .empty
  /-- Where the next text goes in the file behind it.  Without a position, a text goes
  behind all that is there. -/
  position : Option Nat := none
  /-- Whether there is a file behind it. -/
  isFile : Bool := false
  room : Room := .all

namespace Stream

/-- A file with a text over what is there at a position.  Zeros fill a gap in front of the
text. -/
def overlay (bytes : ByteArray) (position : Nat) (text : ByteArray) : ByteArray :=
  bytes.extract 0 position ++ ⟨Array.replicate (position - bytes.size) 0⟩ ++ text ++
    bytes.extract (position + text.size) bytes.size

/-- The stream behind a text that has been given to it. -/
def give (stream : Stream) (text : ByteArray) : Stream :=
  if text.isEmpty then stream
  else
    { stream with
      bytes := match stream.position with
        | none => stream.bytes ++ text
        | some position => overlay stream.bytes position text
      position := stream.position.map (· + text.size)
      room := stream.room.without text.size }

/-- Whether all of a text can be printed. -/
def takes (stream : Stream) (text : String) : Bool :=
  stream.room.holds text.toUTF8

/-- The stream behind as much of a text as there is room for. -/
def print (stream : Stream) (text : String) : Stream :=
  stream.give (stream.room.front text.toUTF8)

/-- The stream behind a text that has been written to it under a name of its own. -/
def rewrite (stream : Stream) (text : String) : Stream :=
  if stream.isFile then
    let front := stream.room.front text.toUTF8
    { stream with bytes := front, room := stream.room.without front.size }
  else stream.print text

/-- A text that is taken has been given to the stream as a whole. -/
theorem print_of_takes {stream : Stream} {text : String} (takes : stream.takes text = true) :
    stream.print text = stream.give text.toUTF8 := by
  rw [print, Room.front_of_holds takes]

end Stream

end CppModel.Command
