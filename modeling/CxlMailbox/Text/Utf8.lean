/-
# CxlMailbox.Text.Utf8 — bytes read as UTF-8

A byte string is cut into units: well-formed characters, and longest beginnings of a character
that break off. `decode?` accepts a string of characters only; `decodeLossy` puts one
U+FFFD in the place of every broken beginning, so that a revision field cut in the middle of a
character still reads as text.
-/
import CxlMailbox.Bytes

namespace CxlMailbox.Text.Utf8

set_option autoImplicit false

/-- What the first byte of a unit promises: how many bytes follow, the range of the first of
them, and the value bits the first byte itself carries. -/
structure Lead where
  following : Nat
  low : Nat
  high : Nat
  bits : Nat

/-- Reads a first byte. Overlong forms, surrogates and values past U+10FFFF are excluded by the
range of the second byte; bytes that start no character have no `Lead`. -/
def lead? (byte : Nat) : Option Lead :=
  if byte < 0x80 then some ⟨0, 0, 0, byte⟩
  else if byte < 0xc2 then none
  else if byte < 0xe0 then some ⟨1, 0x80, 0xbf, byte - 0xc0⟩
  else if byte = 0xe0 then some ⟨2, 0xa0, 0xbf, 0⟩
  else if byte = 0xed then some ⟨2, 0x80, 0x9f, 0xd⟩
  else if byte < 0xf0 then some ⟨2, 0x80, 0xbf, byte - 0xe0⟩
  else if byte = 0xf0 then some ⟨3, 0x90, 0xbf, 0⟩
  else if byte < 0xf4 then some ⟨3, 0x80, 0xbf, byte - 0xf0⟩
  else if byte = 0xf4 then some ⟨3, 0x80, 0x8f, 4⟩
  else none

/-- One unit of a byte string: a character, or a broken beginning, with the number of bytes
after the first that belong to it. -/
structure Piece where
  char? : Option Char
  following : Nat

/-- Reads `wanted` more bytes of a unit whose value so far is `bits`; the first of them lies
between `low` and `high`. -/
def continuation (taken bits : Nat) : (wanted low high : Nat) → Bytes → Piece
  | 0, _, _, _ => ⟨some (Char.ofNat bits), taken⟩
  | _ + 1, _, _, [] => ⟨none, taken⟩
  | wanted + 1, low, high, byte :: rest =>
    if low ≤ byte.toNat ∧ byte.toNat ≤ high then
      continuation (taken + 1) (bits * 64 + (byte.toNat - 0x80)) wanted 0x80 0xbf rest
    else ⟨none, taken⟩

/-- The unit that starts with `byte`. -/
def piece (byte : UInt8) (rest : Bytes) : Piece :=
  match lead? byte.toNat with
  | none => ⟨none, 0⟩
  | some lead => continuation 0 lead.bits lead.following lead.low lead.high rest

/-- The units of a byte string, broken beginnings as `none`. -/
def units : Bytes → List (Option Char)
  | [] => []
  | byte :: rest =>
    (piece byte rest).char? :: units (rest.drop (piece byte rest).following)
termination_by bytes => bytes.length
decreasing_by simp only [List.length_drop, List.length_cons]; omega

/-- The characters of a byte string, U+FFFD for every broken beginning. -/
def decodeLossy (bytes : Bytes) : List Char :=
  (units bytes).map fun unit => unit.getD '\ufffd'

/-- A byte string as text. -/
def lossyText (bytes : Bytes) : String := String.ofList (decodeLossy bytes)

/-- The characters of a byte string that is UTF-8 throughout. -/
def decode? (bytes : Bytes) : Option (List Char) :=
  (units bytes).mapM id

/-- The bytes of a text. -/
def encode (text : String) : Bytes := text.toUTF8.data.toList

end CxlMailbox.Text.Utf8
