import Workbench.Text.Blank
import Workbench.Text.Utf16
namespace Workbench

/-!
Searching a file for a text.  A file is searched line by line, and a hit is a
line that holds the searched text, shown without the blanks at its end.  A byte
order mark is taken off first, and a file that opens with one of UTF-16 is read
as UTF-16.  Bytes are read in pieces, and a piece with a zero byte ends the
search before anything of that piece has been looked at.  A line that holds the
text and is not encoded as UTF-8 ends the search too; the hits before it stay.
-/

/-- A hit: the line's number, counted from one, and its text. -/
structure Hit where
  number : Nat
  text : String
  deriving DecidableEq, Repr

namespace Hit

/-- The bytes of a file after its byte order mark, as UTF-8 if the mark is one of
UTF-16; the flag tells whether there was a mark. -/
def unmark (bytes : List UInt8) : List UInt8 × Bool :=
  match bytes with
  | 0xEF :: 0xBB :: 0xBF :: rest => (rest, true)
  | 0xFF :: 0xFE :: rest => ((Utf16.decode .little rest).toUTF8.data.toList, true)
  | 0xFE :: 0xFF :: rest => ((Utf16.decode .big rest).toUTF8.data.toList, true)
  | _ => (bytes, false)

/-- How many bytes are read at most into a piece with its leftover. -/
def capacity : Nat := 65536

/-- Of a file without a mark the first three bytes are read on their own. -/
def peeked : Nat := 3

/-- How many bytes can be searched before a piece with a zero byte is read.
`fuel` bounds the number of pieces, `size` is the length of the next piece, `room`
the present capacity, `held` the bytes after the last line feed and `passed` the
bytes up to it. -/
def reachFrom : Nat → Nat → Nat → Nat → Nat → List UInt8 → Nat
  | 0, _, _, _, passed, _ => passed
  | fuel + 1, size, room, held, passed, rest =>
    let piece := rest.take size
    let behind := rest.drop size
    if piece.isEmpty then passed + held
    else if piece.contains 0 then passed
    else
      let tail := (piece.reverse.takeWhile (· != 10)).length
      if tail = piece.length then
        let held := held + piece.length
        let room := if held < room then room else 3 * room
        reachFrom fuel (room - held) room held passed behind
      else
        reachFrom fuel (room - tail) room tail (passed + held + (piece.length - tail)) behind

/-- The bytes that a search looks at. -/
def searchable (content : ByteArray) : List UInt8 :=
  let (bytes, marked) := unmark content.data.toList
  if bytes.contains 0 then
    bytes.take (reachFrom (bytes.length + 1) (if marked then capacity else peeked) capacity 0 0 bytes)
  else bytes

/-- Cuts bytes after every line feed.  Only the last piece can lack one. -/
def bytePieces : List UInt8 → List (List UInt8)
  | [] => []
  | first :: rest =>
    if first = 10 then [10] :: bytePieces rest
    else
      match bytePieces rest with
      | [] => [[first]]
      | piece :: others => (first :: piece) :: others

/-- Does the second list occur in the first one? -/
def occurs {Element : Type} [BEq Element] (text term : List Element) : Bool :=
  match text with
  | [] => term.isEmpty
  | first :: rest => term.isPrefixOf (first :: rest) || occurs rest term

/-- A line without its line feed. -/
def withoutFeed {Element : Type} [BEq Element] (feed : Element) (line : List Element) :
    List Element :=
  if line.getLast? == some feed then line.dropLast else line

/-- The hits in lines that are numbered from the given number on. -/
def inLines (term : String) : Nat → List (List UInt8) → List Hit
  | _, [] => []
  | number, line :: rest =>
    match String.fromUTF8? ⟨line.toArray⟩ with
    | some text =>
      if occurs (withoutFeed '\n' text.toList) term.toList then
        ⟨number, String.ofList (Text.trimEnd text.toList)⟩ :: inLines term (number + 1) rest
      else inLines term (number + 1) rest
    | none =>
      if occurs (withoutFeed 10 line) term.toUTF8.data.toList then []
      else inLines term (number + 1) rest

def inFile (term : String) (content : ByteArray) : List Hit :=
  inLines term 1 (bytePieces (searchable content))

end Hit

end Workbench
