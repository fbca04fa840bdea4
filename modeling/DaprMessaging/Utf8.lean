import DaprMessaging.GoString

/-!
# Runes

What `strings.ToLower` uses of Go's `unicode/utf8` beyond `ValidString`:
`DecodeRuneInString`, `RuneLen`, `ValidRune` and `EncodeRune`, and the loop
`for i, c := range s`, which decodes a string rune after rune.  A `rune` is an
`int32` code point, here an `Int`.

Go decodes UTF-8 with two programs.  `utf8.DecodeRuneInString` reads the lead
byte's class in the tables `first` and `acceptRanges` (the classes of
`leadByte`, which `ValidString` reads too) and checks the first continuation
byte against the range of that class.  The runtime's `decoderune`, which a
`range` loop calls for every byte beyond ASCII, checks each continuation byte
against `80`–`BF` only, decodes, and then rejects the values that are too
small for their width, the surrogates and the values past `MaxRune`:

```text
lead    DecodeRuneInString: first continuation   decoderune: the value
C0–C1   (no rune starts here)                    ≤ 7F, rejected
C2–DF   80–BF                                    > 7F
E0      A0–BF                                    > 7FF and not D800–DFFF
E1–EC   80–BF
ED      80–9F
EE–EF   80–BF
F0      90–BF                                    > FFFF and ≤ 10FFFF
F1–F3   80–BF
F4      80–8F
F5–F7   (no rune starts here)                    > 10FFFF, rejected
```

Both give `RuneError` of width one when the bytes do not form a rune.
-/

namespace DaprMessaging

/-- `utf8.RuneError`, the character `U+FFFD`. -/
def runeError : Int := 0xFFFD

/-- `utf8.MaxRune`. -/
def maxRune : Int := 0x10FFFF

/-- `utf8.ValidRune(r)`: a code point that is not a surrogate. -/
def validRune (r : Int) : Bool :=
  (0 ≤ r && r < 0xD800) || (0xDFFF < r && r ≤ maxRune)

/-- `utf8.RuneLen(r)`: the width of `r`'s encoding, `-1` when `r` is no code point. -/
def runeLen (r : Int) : Int :=
  if r < 0 then -1
  else if r ≤ 0x7F then 1
  else if r ≤ 0x7FF then 2
  else if 0xD800 ≤ r ∧ r ≤ 0xDFFF then -1
  else if r ≤ 0xFFFF then 3
  else if r ≤ maxRune then 4
  else -1

/-- `utf8.EncodeRune`, as `utf8.AppendRune` and `strings.Builder.WriteRune`
write it: the bytes of `r`, or those of `RuneError` when `r` is no code point.
The shifts are by `6`, `12` and `18`, the masks take six bits. -/
def encodeRune (r : Int) : GoString :=
  if 0 ≤ r ∧ r ≤ 0x7F then [r.toNat.toUInt8]
  else if 0 ≤ r ∧ r ≤ 0x7FF then
    [(0xC0 + r.toNat / 64).toUInt8, (0x80 + r.toNat % 64).toUInt8]
  else if 0 ≤ r ∧ r < 0xD800 ∨ 0xDFFF < r ∧ r ≤ 0xFFFF then
    [(0xE0 + r.toNat / 4096).toUInt8, (0x80 + r.toNat / 64 % 64).toUInt8,
      (0x80 + r.toNat % 64).toUInt8]
  else if 0xFFFF < r ∧ r ≤ maxRune then
    [(0xF0 + r.toNat / 262144).toUInt8, (0x80 + r.toNat / 4096 % 64).toUInt8,
      (0x80 + r.toNat / 64 % 64).toUInt8, (0x80 + r.toNat % 64).toUInt8]
  else [0xEF, 0xBF, 0xBD]

/-- `utf8.DecodeRuneInString(s)`: the first rune of `s` and its width.  The
lead byte's mask keeps five, four or three bits, a continuation byte's six. -/
def decodeRune : GoString → Int × Nat
  | [] => (runeError, 0)
  | b :: s =>
      match leadByte b, s with
      | some (0, _, _), _ => (b.toNat, 1)
      | some (1, lo, hi), c1 :: _ =>
          if lo ≤ c1 ∧ c1 ≤ hi then ((b.toNat % 32 * 64 + c1.toNat % 64 : Nat), 2)
          else (runeError, 1)
      | some (2, lo, hi), c1 :: c2 :: _ =>
          if lo ≤ c1 ∧ c1 ≤ hi ∧ 0x80 ≤ c2 ∧ c2 ≤ 0xBF then
            ((b.toNat % 16 * 4096 + c1.toNat % 64 * 64 + c2.toNat % 64 : Nat), 3)
          else (runeError, 1)
      | some (3, lo, hi), c1 :: c2 :: c3 :: _ =>
          if lo ≤ c1 ∧ c1 ≤ hi ∧ 0x80 ≤ c2 ∧ c2 ≤ 0xBF ∧ 0x80 ≤ c3 ∧ c3 ≤ 0xBF then
            ((b.toNat % 8 * 262144 + c1.toNat % 64 * 4096 + c2.toNat % 64 * 64 +
              c3.toNat % 64 : Nat), 4)
          else (runeError, 1)
      | _, _ => (runeError, 1)

/-- Whether a byte is a continuation byte, `locb`–`hicb`. -/
def isContinuation (c : UInt8) : Bool := 0x80 ≤ c && c ≤ 0xBF

/-- The runtime's `decoderune(s, k)` on `s[k:]`, for a first byte beyond
ASCII: the rune and its width. -/
def decoderune : GoString → Int × Nat
  | s0 :: s1 :: s =>
      if 0xC0 ≤ s0 ∧ s0 < 0xE0 then
        let r := s0.toNat % 32 * 64 + s1.toNat % 64
        if isContinuation s1 ∧ 0x7F < r then (r, 2) else (runeError, 1)
      else if 0xE0 ≤ s0 ∧ s0 < 0xF0 then
        match s with
        | s2 :: _ =>
            let r := s0.toNat % 16 * 4096 + s1.toNat % 64 * 64 + s2.toNat % 64
            if isContinuation s1 ∧ isContinuation s2 ∧ 0x7FF < r ∧ ¬(0xD800 ≤ r ∧ r ≤ 0xDFFF) then
              (r, 3)
            else (runeError, 1)
        | [] => (runeError, 1)
      else if 0xF0 ≤ s0 ∧ s0 < 0xF8 then
        match s with
        | s2 :: s3 :: _ =>
            let r := s0.toNat % 8 * 262144 + s1.toNat % 64 * 4096 + s2.toNat % 64 * 64 +
              s3.toNat % 64
            if isContinuation s1 ∧ isContinuation s2 ∧ isContinuation s3 ∧
                0xFFFF < r ∧ r ≤ 0x10FFFF then (r, 4)
            else (runeError, 1)
        | _ => (runeError, 1)
      else (runeError, 1)
  | _ => (runeError, 1)

/-- One iteration of `for i, c := range s` at the byte `b`, `s` following: a
byte below `RuneSelf` is a rune of width one, and at any other byte the loop
calls `decoderune`. -/
def rangeStep (b : UInt8) (s : GoString) : Int × Nat :=
  if b < 0x80 then (b.toNat, 1) else decoderune (b :: s)

/-- The `range` loop for at most `fuel` iterations: the runes it visits, each
with the bytes it is decoded from. -/
def rangeLoop : Nat → GoString → List (Int × GoString)
  | 0, _ => []
  | _ + 1, [] => []
  | fuel + 1, b :: s =>
      let (r, width) := rangeStep b s
      (r, (b :: s).take width) :: rangeLoop fuel ((b :: s).drop width)

/-- The runes `for i, c := range s` visits; every iteration moves on by at
least one byte, so the loop runs at most once per byte. -/
def rangeRunes (s : GoString) : List (Int × GoString) := rangeLoop s.length s

end DaprMessaging
