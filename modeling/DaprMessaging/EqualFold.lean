import DaprMessaging.Utf8

/-!
# `strings.EqualFold`

`WithCustomGRPCMetadata` skips the keys equal to `content-type` or
`content-length` under `strings.EqualFold`, which `Folding` takes as a
parameter.  This file is the function itself, as Go 1.24 writes it:

* a first loop compares the bytes of both strings at the same index while they
  are ASCII: two bytes match when they are equal or one is the upper-case
  letter of the other, and the strings match when both end together;
* at the first byte beyond ASCII in either string it jumps to `hasUnicode` and
  compares the rest rune by rune, the runes of `s` by a `range` loop and those of
  `t` by `DecodeRuneInString`.  Two runes that differ match, after the smaller
  is put first, when both are ASCII letters of one case pair, or when the larger
  lies on the orbit of the smaller under `unicode.SimpleFold`.

`SimpleFold`'s table is the parameter `simpleFold`.  Its orbits are cycles of
code points, so the orbit loop stops within `MaxRune + 1` steps, the fuel it is
given here.  `FoldTable` bundles the table with the classes it walks and the
facts about it the proofs use.
-/

namespace DaprMessaging

section
variable (simpleFold : Int → Int)

/-- `for r != sr && r < tr { r = unicode.SimpleFold(r) }` from `r`, for at most
`fuel` steps: the rune the loop stops at. -/
def foldOrbit (sr tr : Int) : Nat → Int → Int
  | 0, r => r
  | fuel + 1, r => if r ≠ sr ∧ r < tr then foldOrbit sr tr fuel (simpleFold r) else r

/-- Enough steps for any orbit of code points. -/
def orbitFuel : Nat := 0x110000

/-- `EqualFold`'s loop after `hasUnicode`, over the runes `rs` the `range` loop
visits in the rest of `s`, with `t` the rest of the other string.  `'a' - 'A'`
is `32`. -/
def equalFoldRest : List (Int × GoString) → GoString → Bool
  | [], t => t.isEmpty
  | _ :: _, [] => false
  | (sr, _) :: rs, b :: t =>
      let (tr, t) :=
        if b < 0x80 then ((b.toNat : Int), t)
        else ((decodeRune (b :: t)).1, (b :: t).drop (decodeRune (b :: t)).2)
      if tr = sr then equalFoldRest rs t
      else
        let lo := if tr < sr then tr else sr
        let hi := if tr < sr then sr else tr
        if hi < 0x80 then
          if 65 ≤ lo ∧ lo ≤ 90 ∧ hi = lo + 32 then equalFoldRest rs t else false
        else if foldOrbit simpleFold lo hi orbitFuel (simpleFold lo) = hi then equalFoldRest rs t
        else false

/-- `strings.EqualFold(s, t)`.  Its first loop, from an index on, is this
function on the rest of both strings: `sr|tr >= utf8.RuneSelf` sends both rests
to `hasUnicode`, and when either string ends the answer is whether both do. -/
def stringsEqualFold : GoString → GoString → Bool
  | sr :: s, tr :: t =>
      if 0x80 ≤ (sr ||| tr) then equalFoldRest simpleFold (rangeRunes (sr :: s)) (tr :: t)
      else if tr = sr then stringsEqualFold s t
      else
        let lo := if tr < sr then tr else sr
        let hi := if tr < sr then sr else tr
        if 65 ≤ lo ∧ lo ≤ 90 ∧ hi = lo + 32 then stringsEqualFold s t else false
  | s, t => s.length == t.length

end

/-- `unicode.SimpleFold`'s table, with the class of each rune under simple case
folding as `foldKey`: runes fold together exactly when their keys agree.
`SimpleFold(r)` stays in the class of `r` and, when the class has a rune above
`r`, returns the least of them; an ASCII letter folds with its other case and
with no other ASCII rune.  The table's entries are not modelled. -/
structure FoldTable where
  simpleFold : Int → Int
  foldKey : Int → Int
  foldKey_simpleFold : ∀ r, foldKey (simpleFold r) = foldKey r
  simpleFold_next : ∀ r m, foldKey m = foldKey r → r < m → r < simpleFold r ∧ simpleFold r ≤ m
  foldKey_ascii : ∀ a b : Int, 0 ≤ a → a < 0x80 → 0 ≤ b → b < 0x80 →
    (foldKey a = foldKey b ↔
      (if 65 ≤ a ∧ a ≤ 90 then a + 32 else a) = (if 65 ≤ b ∧ b ≤ 90 then b + 32 else b))

end DaprMessaging
