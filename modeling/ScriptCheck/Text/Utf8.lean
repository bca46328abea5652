/-! Bytes as text. Reading is strict, or lenient with a replacement character for every
longest run of bytes that begins a character but does not finish it. -/

namespace ScriptCheck.Text

def decode? (bytes : ByteArray) : Option String := String.fromUTF8? bytes

inductive Utf8State where
  | between
  | inside (owed low high value : Nat)
deriving DecidableEq, Repr

def replacement : Char := '\ufffd'

def beginChar (b : Nat) : Utf8State × List Char :=
  if b < 0x80 then (.between, [Char.ofNat b])
  else if 0xc2 ≤ b ∧ b < 0xe0 then (.inside 1 0x80 0xbf (b - 0xc0), [])
  else if b = 0xe0 then (.inside 2 0xa0 0xbf 0, [])
  else if b = 0xed then (.inside 2 0x80 0x9f 0xd, [])
  else if 0xe1 ≤ b ∧ b < 0xf0 then (.inside 2 0x80 0xbf (b - 0xe0), [])
  else if b = 0xf0 then (.inside 3 0x90 0xbf 0, [])
  else if 0xf1 ≤ b ∧ b < 0xf4 then (.inside 3 0x80 0xbf (b - 0xf0), [])
  else if b = 0xf4 then (.inside 3 0x80 0x8f 4, [])
  else (.between, [replacement])

def nextByte (state : Utf8State) (b : Nat) : Utf8State × List Char :=
  match state with
  | .between => beginChar b
  | .inside owed low high value =>
    if low ≤ b ∧ b ≤ high then
      let value := 64 * value + (b - 0x80)
      if owed ≤ 1 then (.between, [Char.ofNat value]) else (.inside (owed - 1) 0x80 0xbf value, [])
    else
      let (state, out) := beginChar b
      (state, replacement :: out)

def decodeBytes (state : Utf8State) (gathered : List Char) : List UInt8 → List Char
  | [] => (match state with
    | .between => gathered
    | .inside .. => replacement :: gathered).reverse
  | b :: rest =>
    let (state, out) := nextByte state b.toNat
    decodeBytes state (out.reverse ++ gathered) rest

def decodeLossy (bytes : ByteArray) : String := .ofList (decodeBytes .between [] bytes.toList)

end ScriptCheck.Text
