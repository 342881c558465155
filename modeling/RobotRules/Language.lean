import RobotRules.Character.Letters
import RobotRules.Text.Basic

/-! The language of an utterance. A speech recognizer may leave it open. Then a
long utterance is handed to a statistical detector, and a short one is judged
by its script; the script also decides where the detector finds nothing. -/

namespace RobotRules.Language

/-- The languages that are told by their script. -/
inductive Script where
  | korean
  | japanese
  | chinese
deriving DecidableEq, Repr

/-- The code of the language written in a script. -/
def Script.code : Script → Text
  | .korean => "ko"
  | .japanese => "ja"
  | .chinese => "zh"

/-- The script of a character: Hangul, kana, or the ideographs that Chinese and
Japanese share. -/
def Script.ofChar? (c : Char) : Option Script :=
  let code := c.toNat
  if (0xac00 ≤ code && code ≤ 0xd7af) || (0x1100 ≤ code && code ≤ 0x11ff) ||
      (0x3130 ≤ code && code ≤ 0x318f) then some .korean
  else if 0x3040 ≤ code && code ≤ 0x30ff then some .japanese
  else if (0x4e00 ≤ code && code ≤ 0x9fff) || (0x3400 ≤ code && code ≤ 0x4dbf) then
    some .chinese
  else none

/-- The scripts of the letters of a text, one entry for each letter that has
one, in order. -/
def scripts (text : Text) : List Script :=
  (text.filter Character.isLetter).filterMap Script.ofChar?

/-- The script that decides the language. Kana decide at once, since Japanese
mixes them with ideographs. Otherwise the more frequent script decides, the one
met first if they are equal, provided that more than 15 of 100 letters are
written in it. -/
def script? (text : Text) : Option Script :=
  let letters := text.countP Character.isLetter
  let found := scripts text
  let decide (candidate : Script) : Option Script :=
    if 100 * found.count candidate > 15 * letters then some candidate else none
  if found.contains .japanese then some .japanese
  else
    match found.head? with
    | none => none
    | some first =>
      let other : Script := if first = .korean then .chinese else .korean
      decide (if found.count other > found.count first then other else first)

/-- The language when nothing is known. -/
def fallback : Text := "en"

/-- Utterances shorter than this are not handed to the detector. -/
def shortestDetected : Nat := 10

/-- What the statistical detector answers: nothing at all if it gives up, else
its guesses, the best one first. -/
abbrev Detection := Option (List Text)

/-- The language of an utterance, given what the detector would answer. A
variety that the detector tells apart counts for its language. -/
def detect (text default : Text) (detection : Detection) : Text :=
  let utterance := Text.trim text
  let byScript := ((script? utterance).map Script.code).getD default
  if utterance.isEmpty then default
  else if utterance.length < shortestDetected then byScript
  else
    match detection with
    | some (best :: _) => best.takeWhile (· != '-')
    | _ => byScript

end RobotRules.Language
