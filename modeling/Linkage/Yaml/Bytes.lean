/-!
# Bytes written as letters

Bytes are written in groups of three, each group as four letters of six bits. A shorter
group at the end has signs of equality in the place of the letters it lacks. Characters
that are no letters are passed over.

## Main definitions

* `Linkage.Yaml.bytes?`: the bytes that a text writes, if its last group is complete.
-/

namespace Linkage.Yaml

/-- The six bits of a letter. -/
def letterValue? (c : Char) : Option Nat :=
  if c.isUpper then some (c.toNat - 65)
  else if c.isLower then some (c.toNat - 71)
  else if c.isDigit then some (c.toNat + 4)
  else if c == '+' then some 62
  else if c == '/' then some 63
  else none

/-- The bytes from inside a group, `count` of whose letters were read: `bits` are those of
an unfinished byte, and `signs` counts the signs of equality since the last letter. Once
letters and signs make up a group, the text ends. -/
def bytesFrom (count signs bits : Nat) : List Char → Option (List UInt8)
  | [] => if count = 0 then some [] else none
  | c :: cs =>
    if c == '=' then
      if count < 2 then bytesFrom count signs bits cs
      else if 4 ≤ count + signs + 1 then some []
      else bytesFrom count (signs + 1) bits cs
    else
      match letterValue? c with
      | none => bytesFrom count signs bits cs
      | some n =>
        let known := bits * 64 + n
        if count = 0 then bytesFrom 1 0 n cs
        else if count = 1 then (bytesFrom 2 0 (n % 16) cs).map ((known / 16).toUInt8 :: ·)
        else if count = 2 then (bytesFrom 3 0 (n % 4) cs).map ((known / 4).toUInt8 :: ·)
        else (bytesFrom 0 0 0 cs).map (known.toUInt8 :: ·)

/-- **The bytes that a text writes.** -/
def bytes? (text : List Char) : Option (List UInt8) := bytesFrom 0 0 0 text

end Linkage.Yaml
