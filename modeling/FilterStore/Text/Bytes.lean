/-!
# Bytes as text

Bytes are read as UTF-8.  Bytes that are no text are read too: where a character starts that does
not go on as it should, the bytes of it that were read stand for one replacement character, and the
next byte starts anew.
-/

namespace FilterStore.Text

/-- Stands for bytes that are no character. -/
def replacement : Char := '\ufffd'

/-- A character that is not complete: what is known of its number, how many bytes are to come, and
between which bounds the next one has to be. -/
structure Unfinished where
  value : Nat
  left : Nat
  low : UInt8
  high : UInt8

/-- What a byte yields that starts a character: the character, or what is to be completed.  The
bounds of the second byte keep out numbers that could be written shorter and numbers that are no
characters. -/
def startByte (b : UInt8) : List Char × Option Unfinished :=
  let n := b.toNat
  if b < 0x80 then ([Char.ofNat n], none)
  else if 0xc2 ≤ b && b ≤ 0xdf then ([], some ⟨n - 0xc0, 1, 0x80, 0xbf⟩)
  else if b == 0xe0 then ([], some ⟨n - 0xe0, 2, 0xa0, 0xbf⟩)
  else if b == 0xed then ([], some ⟨n - 0xe0, 2, 0x80, 0x9f⟩)
  else if 0xe1 ≤ b && b ≤ 0xef then ([], some ⟨n - 0xe0, 2, 0x80, 0xbf⟩)
  else if b == 0xf0 then ([], some ⟨n - 0xf0, 3, 0x90, 0xbf⟩)
  else if b == 0xf4 then ([], some ⟨n - 0xf0, 3, 0x80, 0x8f⟩)
  else if 0xf1 ≤ b && b ≤ 0xf3 then ([], some ⟨n - 0xf0, 3, 0x80, 0xbf⟩)
  else ([replacement], none)

/-- What a byte yields behind the start of a character, if one is not complete. -/
def nextByte (pending : Option Unfinished) (b : UInt8) : List Char × Option Unfinished :=
  match pending with
  | none => startByte b
  | some u =>
    if u.low ≤ b && b ≤ u.high then
      let value := 64 * u.value + (b.toNat - 0x80)
      if u.left = 1 then ([Char.ofNat value], none)
      else ([], some ⟨value, u.left - 1, 0x80, 0xbf⟩)
    else
      let (cs, pending) := startByte b
      (replacement :: cs, pending)

/-- Reads bytes behind the start of a character, if one is not complete. -/
def charsOf : Option Unfinished → List UInt8 → List Char
  | none, [] => []
  | some _, [] => [replacement]
  | pending, b :: bs =>
    let (cs, pending) := nextByte pending b
    cs ++ charsOf pending bs

/-- Bytes as text. -/
def ofBytes (bytes : List UInt8) : String := String.ofList (charsOf none bytes)

end FilterStore.Text
