import Mathlib.Data.List.Basic

/-!
# Go strings

A Go string is an immutable sequence of bytes.  Nothing forces it to be UTF-8,
and the bridge does store arbitrary bytes in strings (`string(decoded)` of a
base64 value), so a string is modelled as `List UInt8`.  A string literal of
the source is the UTF-8 encoding of its text, `GoString.ofString`.

This file holds what the bridge uses of Go's `strings` and `unicode/utf8`
packages: `HasPrefix`, `HasSuffix`, `ToLower`, `EqualFold` and `ValidString`.

`strings.ToLower` lowers `A`–`Z` byte by byte on an ASCII string and maps every
rune through `unicode.ToLower` otherwise.  The Unicode case tables are not
modelled: `Lowering` takes the function as a parameter, together with the three
facts about it that the bridge's results rest on.  `Lowering.ascii`, the
byte-wise lowering, is one instance.  `strings.EqualFold` is a parameter in the
same way (`Folding`), with its ASCII fast path as its one fact.
-/

namespace DaprMessaging

/-- A Go string: its bytes. -/
abbrev GoString := List UInt8

/-- The Go string literal with text `s`: the UTF-8 encoding of `s`. -/
def GoString.ofString (s : String) : GoString := s.toUTF8.data.toList

/-- `strings.HasPrefix(s, prefix)`. -/
def hasPrefix (s pre : GoString) : Bool := pre.isPrefixOf s

/-- `strings.HasSuffix(s, suffix)`. -/
def hasSuffix (s suf : GoString) : Bool := suf.isSuffixOf s

@[simp] theorem hasPrefix_iff {s pre : GoString} : hasPrefix s pre = true ↔ pre <+: s := by
  simp [hasPrefix]

@[simp] theorem hasSuffix_iff {s suf : GoString} : hasSuffix s suf = true ↔ suf <:+ s := by
  simp [hasSuffix]

/-! ## Lower-casing -/

/-- The byte-wise lowering of `strings.ToLower`'s ASCII path. -/
def asciiLower (b : UInt8) : UInt8 := if 65 ≤ b ∧ b ≤ 90 then b + 32 else b

/-- Every byte is below `utf8.RuneSelf`. -/
def IsASCII (s : GoString) : Prop := ∀ b ∈ s, b < 0x80

instance (s : GoString) : Decidable (IsASCII s) :=
  inferInstanceAs (Decidable (∀ b ∈ s, b < 0x80))

/-- A literal whose characters are all below `0x80` is ASCII: UTF-8 encodes
each of them as one byte, its code. -/
theorem isASCII_ofString {s : String} (h : s.data.all fun c => c.toNat < 128) :
    IsASCII (GoString.ofString s) := by
  simp only [List.all_eq_true, decide_eq_true_eq] at h
  simp only [IsASCII, GoString.ofString, String.toUTF8, List.mem_flatMap]
  rintro b ⟨c, hc, hb⟩
  have hcv : c.val.toBitVec.toNat < 128 := h c hc
  have hle : c.val ≤ 0x7f := by
    rw [UInt32.le_def, BitVec.le_def]
    exact Nat.le_of_lt_succ hcv
  simp only [String.utf8EncodeChar, hle, if_true, List.mem_singleton] at hb
  subst hb
  show c.val.toBitVec.toNat % 256 < 128
  omega

theorem asciiLower_idem (b : UInt8) : asciiLower (asciiLower b) = asciiLower b := by
  unfold asciiLower
  by_cases h : 65 ≤ b ∧ b ≤ 90
  · rw [if_pos h, if_neg]
    simp only [UInt8.le_def, UInt8.add_def, UInt8.toBitVec_ofNat] at h ⊢
    bv_omega
  · rw [if_neg h, if_neg h]

/-- `strings.ToLower`, with the facts about it the bridge relies on: it lowers an
ASCII string byte by byte, it lowers an ASCII prefix independently of what
follows, and lowering twice is lowering once. -/
structure Lowering where
  toLower : GoString → GoString
  toLower_ascii : ∀ s, IsASCII s → toLower s = s.map asciiLower
  toLower_ascii_append : ∀ a s, IsASCII a → toLower (a ++ s) = a.map asciiLower ++ toLower s
  toLower_idem : ∀ s, toLower (toLower s) = toLower s

/-- The byte-wise lowering: `strings.ToLower` on the strings where it never meets a
rune beyond ASCII. -/
def Lowering.ascii : Lowering where
  toLower s := s.map asciiLower
  toLower_ascii _ _ := rfl
  toLower_ascii_append a s _ := List.map_append _ a s
  toLower_idem s := by simp [Function.comp_def, asciiLower_idem]

/-- A literal that is ASCII and already lower case is left alone. -/
theorem Lowering.toLower_eq_self (L : Lowering) {s : GoString} (hs : IsASCII s)
    (hlow : s.map asciiLower = s) : L.toLower s = s := by
  rw [L.toLower_ascii s hs, hlow]

/-- `strings.EqualFold`, with the one fact about it the model relies on: on two
ASCII strings it takes the fast path, which compares byte by byte up to the
case of letters.  Its Unicode simple folding is not modelled. -/
structure Folding where
  equalFold : GoString → GoString → Bool
  equalFold_ascii : ∀ s t, IsASCII s → IsASCII t →
    equalFold s t = decide (s.map asciiLower = t.map asciiLower)

/-- The fast path on every string: equality after byte-wise lowering. -/
def Folding.ascii : Folding where
  equalFold s t := decide (s.map asciiLower = t.map asciiLower)
  equalFold_ascii _ _ _ _ := rfl

/-! ## UTF-8 validity -/

/-- The class of a lead byte in `utf8.ValidString` (Go's `first` and
`acceptRanges` tables): how many continuation bytes follow it, and the range
the first of them must lie in.  `none` for a byte no rune starts with. -/
def leadByte (b : UInt8) : Option (Nat × UInt8 × UInt8) :=
  if b < 0x80 then some (0, 0x80, 0xBF)
  else if 0xC2 ≤ b ∧ b ≤ 0xDF then some (1, 0x80, 0xBF)
  else if b = 0xE0 then some (2, 0xA0, 0xBF)
  else if 0xE1 ≤ b ∧ b ≤ 0xEC then some (2, 0x80, 0xBF)
  else if b = 0xED then some (2, 0x80, 0x9F)
  else if 0xEE ≤ b ∧ b ≤ 0xEF then some (2, 0x80, 0xBF)
  else if b = 0xF0 then some (3, 0x90, 0xBF)
  else if 0xF1 ≤ b ∧ b ≤ 0xF3 then some (3, 0x80, 0xBF)
  else if b = 0xF4 then some (3, 0x80, 0x8F)
  else none

/-- Whether the rest of a string is valid UTF-8 when `owed` continuation bytes
are still due, the next of them in `lo`–`hi`. -/
def validFrom : Nat → UInt8 → UInt8 → GoString → Bool
  | 0, _, _, [] => true
  | _ + 1, _, _, [] => false
  | 0, _, _, b :: s =>
      match leadByte b with
      | some (owed, lo, hi) => validFrom owed lo hi s
      | none => false
  | owed + 1, lo, hi, b :: s => lo ≤ b && b ≤ hi && validFrom owed 0x80 0xBF s

@[simp] theorem validFrom_zero_cons (lo hi b : UInt8) (s : GoString) :
    validFrom 0 lo hi (b :: s) =
      match leadByte b with
      | some (owed, lo, hi) => validFrom owed lo hi s
      | none => false := rfl

@[simp] theorem validFrom_succ_cons (owed : Nat) (lo hi b : UInt8) (s : GoString) :
    validFrom (owed + 1) lo hi (b :: s) = (lo ≤ b && b ≤ hi && validFrom owed 0x80 0xBF s) := rfl

/-- `utf8.ValidString(s)`. -/
def validString (s : GoString) : Bool := validFrom 0 0x80 0xBF s

theorem leadByte_of_lt {b : UInt8} (hb : b < 0x80) : leadByte b = some (0, 0x80, 0xBF) := by
  simp [leadByte, hb]

theorem validString_of_isASCII {s : GoString} (hs : IsASCII s) : validString s = true := by
  induction s with
  | nil => rfl
  | cons b s ih =>
      have hb : b < 0x80 := hs b (List.mem_cons_self b s)
      simp only [validString, validFrom, leadByte_of_lt hb]
      exact ih fun c hc => hs c (List.mem_cons_of_mem b hc)

end DaprMessaging
