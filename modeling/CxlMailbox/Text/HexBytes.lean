/-
# CxlMailbox.Text.HexBytes — bytes as hexadecimal text

* `dump`: sixteen bytes a line behind the address of the first of them;
* `readBytes`: the payload notation of the command line. A text is cut into tokens at white
  space, commas and colons, one leading `0x` or `0X` of each token is dropped, and what is left,
  joined, is read two characters a byte.
-/
import CxlMailbox.Bytes
import CxlMailbox.Text.Blank
import CxlMailbox.Text.Numeral

namespace CxlMailbox.Text

set_option autoImplicit false

/-- The lower-case digit of a value below sixteen. -/
def hexDigit (value : Nat) : Char :=
  if value < 10 then Char.ofNat (48 + value) else Char.ofNat (87 + value)

/-- The two digits of a byte, high half first. -/
def hexPair (byte : UInt8) : List Char :=
  [hexDigit (byte.toNat / 16), hexDigit (byte.toNat % 16)]

/-- Bytes as adjacent digit pairs. -/
def hexText (bytes : Bytes) : String := String.ofList (bytes.flatMap hexPair)

/-- Bytes as digit pairs with blanks between them. -/
def spacedPairs (bytes : Bytes) : String :=
  String.intercalate " " (bytes.map fun byte => String.ofList (hexPair byte))

/-- The lines of `data` from its byte number `offset` on, at most `lines` of them. -/
def dumpLines (base : Nat) : (lines offset : Nat) → Bytes → List String
  | 0, _, _ => []
  | lines + 1, offset, data =>
    (hexDigits 8 (base + offset) ++ ": " ++ spacedPairs (data.take 16)) ::
      dumpLines base lines (offset + 16) (data.drop 16)

/-- A dump of `data`, whose first byte has the address `base`. -/
def dump (data : Bytes) (base : UInt32) : List String :=
  dumpLines base.toNat ((data.length + 15) / 16) 0 data

/-! ## Reading -/

/-- Why a text spells no bytes. -/
inductive HexFault where
  /-- The joined digits take an odd number of bytes. -/
  | oddLength
  /-- Two adjacent characters are no byte. -/
  | noByte
  deriving DecidableEq, Repr

/-- Whether a character separates tokens. -/
def isSeparator (c : Char) : Bool := isBlank c || c == ',' || c == ':'

/-- A token without one leading `0x` or `0X`. -/
def dropRadix : List Char → List Char
  | '0' :: 'x' :: rest => rest
  | '0' :: 'X' :: rest => rest
  | token => token

/-- The pieces of a text between separators, empty ones included. -/
def tokens (chars : List Char) : List (List Char) :=
  chars.splitOnP isSeparator

/-- The byte that two characters spell: two digits, or a plus sign and one digit. -/
def readPair (high low : Char) : Option UInt8 :=
  match digitValue? 16 high, digitValue? 16 low with
  | some h, some l => some (UInt8.ofNat (16 * h + l))
  | none, some l => if high = '+' then some (UInt8.ofNat l) else none
  | _, none => none

/-- Characters read two at a time. -/
def readPairs : List Char → Option Bytes
  | [] => some []
  | [_] => none
  | high :: low :: rest => do
    let byte ← readPair high low
    let bytes ← readPairs rest
    return byte :: bytes

/-- How many bytes a text takes in UTF-8. -/
def utf8Length (chars : List Char) : Nat := chars.foldl (fun n c => n + c.utf8Size) 0

/-- The bytes a payload text spells. -/
def readBytes (text : String) : Except HexFault Bytes :=
  let digits := (tokens text.toList).flatMap dropRadix
  if utf8Length digits % 2 = 1 then .error .oddLength
  else match readPairs digits with
    | some bytes => .ok bytes
    | none => .error .noByte

end CxlMailbox.Text
