import DaprMessaging.GoString

/-!
# `base64.StdEncoding.DecodeString`

The standard alphabet `A–Z a–z 0–9 + /` with `=` padding, not strict.  Go's
decoder reads the input one quantum of four data bytes at a time and skips
`\r` and `\n` wherever they occur, so the model first removes the line breaks
and then reads quanta.

What matters to the bridge is what `DecodeString` returns on malformed input:
the bytes of every quantum decoded before the error, together with the error.
Nothing is returned for the quantum the error is in, except when the error is
trailing data after a padded quantum: that quantum's bytes are kept.

```text
four alphabet bytes         three bytes, continue
three bytes then `=`        two bytes; an error if anything follows
two bytes then `==`         one byte; an error if anything follows
anything else, or the end   no byte, an error (the end after a whole quantum is success)
```
-/

namespace DaprMessaging

/-- `StdEncoding`'s decode map: the 6-bit value of a byte of the alphabet. -/
def decodeMap (c : UInt8) : Option Nat :=
  if 65 ≤ c ∧ c ≤ 90 then some (c.toNat - 65)
  else if 97 ≤ c ∧ c ≤ 122 then some (c.toNat - 71)
  else if 48 ≤ c ∧ c ≤ 57 then some (c.toNat + 4)
  else if c = 43 then some 62
  else if c = 47 then some 63
  else none

/-- `StdPadding`, the byte `=`. -/
def padChar : UInt8 := 61

/-- The three bytes of a quantum of 6-bit values: `val := a<<18 | b<<12 | c<<6 | d`,
then `byte(val>>16)`, `byte(val>>8)`, `byte(val)`.  The four fields do not
overlap, so the or is a sum; the shifts are by `2^18 = 262144`, `2^12 = 4096`,
`2^6 = 64`, `2^16 = 65536` and `2^8 = 256`. -/
def quantumBytes (a b c d : Nat) : GoString :=
  let val := a * 262144 + b * 4096 + c * 64 + d
  [(val / 65536).toUInt8, (val / 256).toUInt8, val.toUInt8]

/-- Go's `decodeQuantum` loop over an input without line breaks: the bytes
decoded, and whether the input was well formed. -/
def decodeQuanta : GoString → GoString × Bool
  | [] => ([], true)
  | a :: b :: c :: d :: rest =>
      match decodeMap a, decodeMap b, decodeMap c, decodeMap d with
      | some va, some vb, some vc, some vd =>
          let (bytes, ok) := decodeQuanta rest
          (quantumBytes va vb vc vd ++ bytes, ok)
      | some va, some vb, some vc, none =>
          if d = padChar then ((quantumBytes va vb vc 0).take 2, rest.isEmpty) else ([], false)
      | some va, some vb, none, none =>
          if c = padChar ∧ d = padChar then ((quantumBytes va vb 0 0).take 1, rest.isEmpty)
          else ([], false)
      | _, _, _, _ => ([], false)
  | _ => ([], false)

/-- Whether a byte is one of the line breaks `decodeQuantum` skips. -/
def isLineBreak (c : UInt8) : Bool := c == 10 || c == 13

/-- `base64.StdEncoding.DecodeString(s)`: the bytes decoded (all of them on
success, those before the error otherwise) and whether `err == nil`. -/
def decodeString (s : GoString) : GoString × Bool :=
  decodeQuanta (s.filter fun c => !isLineBreak c)

@[simp] theorem decodeString_nil : decodeString [] = ([], true) := rfl

end DaprMessaging
