import RobotRules.Text.Basic

/-! Texts as bytes. A sequence of bytes that is no UTF-8 is read all the same:
what cannot be read stands as one replacement character for each attempt. -/

namespace RobotRules.Text

/-- The bytes of a character. -/
def bytesOfChar (c : Char) : List Nat :=
  let code := c.toNat
  if code < 0x80 then [code]
  else if code < 0x800 then [0xc0 + code / 0x40, 0x80 + code % 0x40]
  else if code < 0x10000 then
    [0xe0 + code / 0x1000, 0x80 + code / 0x40 % 0x40, 0x80 + code % 0x40]
  else
    [0xf0 + code / 0x40000, 0x80 + code / 0x1000 % 0x40, 0x80 + code / 0x40 % 0x40,
      0x80 + code % 0x40]

/-- A character of which some bytes were read: its code so far, how many bytes
are missing, and between which bounds the next one lies. -/
structure Partial where
  code : Nat
  missing : Nat
  lowest : Nat
  highest : Nat

/-- What a first byte begins, if more bytes have to follow it. The bounds keep
out codes that need fewer bytes, surrogates, and codes beyond the last one. -/
def Partial.ofFirst? (byte : Nat) : Option Partial :=
  if byte < 0xc2 then none
  else if byte < 0xe0 then some ⟨byte - 0xc0, 1, 0x80, 0xbf⟩
  else if byte = 0xe0 then some ⟨0, 2, 0xa0, 0xbf⟩
  else if byte = 0xed then some ⟨0xd, 2, 0x80, 0x9f⟩
  else if byte < 0xf0 then some ⟨byte - 0xe0, 2, 0x80, 0xbf⟩
  else if byte = 0xf0 then some ⟨0, 3, 0x90, 0xbf⟩
  else if byte < 0xf4 then some ⟨byte - 0xf0, 3, 0x80, 0xbf⟩
  else if byte = 0xf4 then some ⟨4, 3, 0x80, 0x8f⟩
  else none

/-- The character that stands for bytes that cannot be read. -/
def replacement : Char := '\ufffd'

/-- What begins with a byte where no character is open: the characters that are
complete, and the one that is open now. -/
def beginByte (byte : Nat) : Text × Option Partial :=
  if byte < 0x80 then ([Char.ofNat byte], none)
  else
    match Partial.ofFirst? byte with
    | some part => ([], some part)
    | none => ([replacement], none)

/-- The text of bytes, with a character that may be open in front of them. -/
def ofBytesFrom : Option Partial → List Nat → Text
  | none, [] => []
  | some _, [] => [replacement]
  | none, byte :: rest =>
    let (complete, part) := beginByte byte
    complete ++ ofBytesFrom part rest
  | some part, byte :: rest =>
    if part.lowest ≤ byte && byte ≤ part.highest then
      let code := part.code * 0x40 + (byte - 0x80)
      if part.missing ≤ 1 then Char.ofNat code :: ofBytesFrom none rest
      else ofBytesFrom (some ⟨code, part.missing - 1, 0x80, 0xbf⟩) rest
    else
      let (complete, part) := beginByte byte
      replacement :: (complete ++ ofBytesFrom part rest)

/-- The text of bytes. -/
def ofBytes (bytes : List Nat) : Text := ofBytesFrom none bytes

/-- The bytes of a text. -/
def bytes (text : Text) : List Nat := text.flatMap bytesOfChar

example : ofBytes (bytes "aé日😀") = "aé日😀" := by decide
example : ofBytes [0xe3, 0x81, 0x41, 0xff] = "\ufffdA\ufffd" := by decide

end RobotRules.Text
