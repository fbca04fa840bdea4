import DaprMessaging.Utf8

/-!
# `strings.ToLower`

The bridge lowers every key with `strings.ToLower`, which `Lowering` takes as
a parameter.  This file is the function itself, as Go writes it:

* a first loop over the bytes finds whether the string is ASCII and, if so,
  whether it has an upper-case letter;
* an ASCII string without one is returned as it is; one with one is copied by
  runs, each upper-case letter written lowered;
* any other string goes to `strings.Map(unicode.ToLower, s)`.

`strings.Map` has two loops of its own.  The first looks for the first rune
the mapping changes and returns the string itself when there is none; the
second maps the rest.  A `RuneError` from the `range` loop is either the
character `U+FFFD`, three bytes, or an invalid byte; `Map` tells them apart
with a second decoder, `DecodeRuneInString`, and writes `U+FFFD` in place of an
invalid byte.

`unicode.ToLower` lowers `A`–`Z` itself and looks every other rune up in the
case table `CaseRanges` (`To(LowerCase, r)`); the table is the parameter
`toLowerCase`, and `CaseTable` bundles it with the two facts about it the
proofs use.
-/

namespace DaprMessaging

/-! ## `strings.Map` -/

section
variable (mapping : Int → Int)

/-- `Map`'s first loop over the runes from offset `i` on: the offset of the
first rune the mapping changes, what it maps to and the width `Map` skips, or
`none` when no rune changes.  A `RuneError` is decoded again with
`DecodeRuneInString`: `U+FFFD` itself, width three, is unchanged when it maps
to itself; an invalid byte, width one, never is. -/
def mapFirstChange (s : GoString) : Nat → List (Int × GoString) → Option (Nat × Int × Nat)
  | _, [] => none
  | i, (c, bytes) :: rs =>
      let r := mapping c
      if r = c ∧ c ≠ runeError then mapFirstChange s (i + bytes.length) rs
      else if c = runeError then
        let (c, width) := decodeRune (s.drop i)
        if width ≠ 1 ∧ r = c then mapFirstChange s (i + bytes.length) rs
        else some (i, r, width)
      else some (i, r, (runeLen c).toNat)

/-- `Map`'s second loop: every rune mapped, a negative result dropped, one
below `RuneSelf` written as a byte. -/
def mapRest : List (Int × GoString) → GoString
  | [] => []
  | (c, _) :: rs =>
      let r := mapping c
      (if 0 ≤ r then (if r < 0x80 then [r.toNat.toUInt8] else encodeRune r) else []) ++
        mapRest rs

/-- `strings.Map(mapping, s)`: `s` itself when no rune changes; otherwise the
bytes before the first change, the changed rune, and the rest mapped. -/
def stringsMap (s : GoString) : GoString :=
  match mapFirstChange mapping s 0 (rangeRunes s) with
  | none => s
  | some (i, r, width) =>
      s.take i ++ (if 0 ≤ r then encodeRune r else []) ++
        mapRest mapping (rangeRunes (s.drop (i + width)))

end

/-! ## `unicode.ToLower` -/

/-- `unicode.ToLower(r)`: `A`–`Z` and the rest of ASCII by hand, any other rune
through the case table, `To(LowerCase, r)`. -/
def unicodeToLower (toLowerCase : Int → Int) (r : Int) : Int :=
  if r ≤ 0x7F then (if 65 ≤ r ∧ r ≤ 90 then r + 32 else r) else toLowerCase r

/-- The case table beyond ASCII, `To(LowerCase, r)`, with what `CaseRanges`
gives it: it lowers a code point to a code point, and what it gives is already
lower case.  The table's entries are not modelled. -/
structure CaseTable where
  toLowerCase : Int → Int
  toLowerCase_validRune : ∀ r, 0x7F < r → validRune r = true → validRune (toLowerCase r) = true
  toLowerCase_idem : ∀ r, 0x7F < r → validRune r = true →
    unicodeToLower toLowerCase (toLowerCase r) = toLowerCase r

/-! ## `strings.ToLower` -/

/-- `ToLower`'s first loop, which stops at the first byte beyond ASCII:
whether the string is ASCII, and whether an upper-case letter came before. -/
def asciiScan (hasUpper : Bool) : GoString → Bool × Bool
  | [] => (true, hasUpper)
  | c :: s => if 0x80 ≤ c then (false, hasUpper) else asciiScan (hasUpper || (65 ≤ c && c ≤ 90)) s

/-- `ToLower`'s loop over an ASCII string with an upper-case letter: at byte
`i`, with `rest` the bytes from `i` on, `out` what is written and `pos` the
first byte not yet copied.  An upper-case letter flushes the run since `pos`
and is written lowered; the last run is copied at the end. -/
def lowerASCIILoop (s : GoString) : Nat → Nat → GoString → GoString → GoString
  | _, pos, out, [] => if pos < s.length then out ++ s.drop pos else out
  | i, pos, out, c :: rest =>
      if 65 ≤ c ∧ c ≤ 90 then
        lowerASCIILoop s (i + 1) (i + 1)
          (out ++ (if pos < i then (s.drop pos).take (i - pos) else []) ++ [c + 32]) rest
      else lowerASCIILoop s (i + 1) pos out rest

/-- `strings.ToLower(s)`, with `unicode.ToLower`'s case table `toLowerCase`. -/
def stringsToLower (toLowerCase : Int → Int) (s : GoString) : GoString :=
  let (isASCII, hasUpper) := asciiScan false s
  if isASCII then
    if !hasUpper then s else lowerASCIILoop s 0 0 [] s
  else stringsMap (unicodeToLower toLowerCase) s

end DaprMessaging
