import DaprMessaging.EqualFold
import DaprMessaging.Proofs.Utf8Codec
import DaprMessaging.Bridge

/-!
# `strings.EqualFold`

`EqualFold` is written for speed: its first loop compares bytes while both
strings are ASCII, and `hasUnicode` compares runes, reading `s` with a `range`
loop and `t` with `DecodeRuneInString`.  Read as a whole it compares the two
strings rune by rune (`stringsEqualFold_eq_runesFold`), each pair with the test
`foldsTo`: equal, an upper-case ASCII letter and its lower case, or on one orbit
of `SimpleFold`.

For every folding table, and every two byte strings, valid UTF-8 or not:

* `EqualFold` is symmetric and reflexive, although its two arguments are
  decoded by different decoders;
* on ASCII strings it compares the bytes lowered (`stringsEqualFold_of_isASCII`),
  the one fact the bridge's `Folding` asks of it (`Folding.ofSimpleFold`).

With a `FoldTable`, whose `SimpleFold` walks each class upwards, the orbit loop
finds `hi` exactly when it lies in the class of `lo` (`FoldTable.foldOrbit_eq_iff`),
so `EqualFold` compares the classes of the runes one by one; it is then
transitive, and the keys `WithCustomGRPCMetadata` skips are those whose runes
lie in the classes of the letters of `content-type` or `content-length`.
Which runes beyond ASCII share a class is the table's business, and nothing
here depends on it.
-/

namespace DaprMessaging

open GoString

/-! ## Rune by rune -/

section
variable (simpleFold : Int → Int)

/-- Two runes match as `EqualFold` compares them: equal, or, the smaller first,
an upper-case ASCII letter and its lower case, or the larger on the smaller's orbit under
`SimpleFold`. -/
def foldsTo (sr tr : Int) : Bool :=
  if tr = sr then true
  else
    let lo := if tr < sr then tr else sr
    let hi := if tr < sr then sr else tr
    if hi < 0x80 then decide (65 ≤ lo ∧ lo ≤ 90 ∧ hi = lo + 32)
    else decide (foldOrbit simpleFold lo hi orbitFuel (simpleFold lo) = hi)

/-- Two lists of runes match when they have the same length and match rune by
rune. -/
def runesFold : List Int → List Int → Bool
  | [], [] => true
  | sr :: ss, tr :: ts => foldsTo simpleFold sr tr && runesFold ss ts
  | _, _ => false

theorem foldsTo_comm (a b : Int) : foldsTo simpleFold a b = foldsTo simpleFold b a := by
  unfold foldsTo
  by_cases hab : b = a
  · rw [if_pos hab, if_pos hab.symm]
  rw [if_neg hab, if_neg (Ne.symm hab)]
  rcases Int.lt_or_gt_of_ne hab with h | h <;>
    simp only [if_pos h, if_neg (Int.not_lt.mpr (Int.le_of_lt h))]

theorem runesFold_comm : ∀ ss ts : List Int, runesFold simpleFold ss ts = runesFold simpleFold ts ss
  | [], [] | [], _ :: _ | _ :: _, [] => rfl
  | a :: ss, b :: ts => by rw [runesFold, runesFold, foldsTo_comm, runesFold_comm ss ts]

theorem runesFold_self : ∀ ss : List Int, runesFold simpleFold ss ss = true
  | [] => rfl
  | a :: ss => by rw [runesFold, runesFold_self ss, foldsTo, if_pos rfl, Bool.true_and]

/-! ## The two loops -/

theorem ite_false_eq_decide_and {P Q : Prop} [Decidable P] [Decidable Q] (h : P ↔ Q) (x : Bool) :
    (if P then x else false) = (decide Q && x) := by
  by_cases hq : Q <;> simp [h, hq]

/-- The rune test of both loops, with `k` what follows a match. -/
theorem foldsTo_and (sr tr : Int) (k : Bool) :
    (if tr = sr then k
      else if (if tr < sr then sr else tr) < 0x80 then
        (if 65 ≤ (if tr < sr then tr else sr) ∧ (if tr < sr then tr else sr) ≤ 90 ∧
            (if tr < sr then sr else tr) = (if tr < sr then tr else sr) + 32 then k else false)
      else if foldOrbit simpleFold (if tr < sr then tr else sr) (if tr < sr then sr else tr) orbitFuel
          (simpleFold (if tr < sr then tr else sr)) = (if tr < sr then sr else tr) then k
      else false) = (foldsTo simpleFold sr tr && k) := by
  unfold foldsTo
  by_cases heq : tr = sr
  · rw [if_pos heq, if_pos heq, Bool.true_and]
  · rw [if_neg heq, if_neg heq]
    dsimp only
    generalize (if tr < sr then tr else sr) = lo
    generalize (if tr < sr then sr else tr) = hi
    split <;> exact ite_false_eq_decide_and Iff.rfl k

/-- What follows `hasUnicode`: the runes of `t` are read as the `range` loop
reads them. -/
theorem equalFoldRest_eq_runesFold :
    ∀ (rs : List (Int × GoString)) (t : GoString),
      equalFoldRest simpleFold rs t =
        runesFold simpleFold (rs.map Prod.fst) ((rangeRunes t).map Prod.fst)
  | [], [] => rfl
  | [], b :: t => by rw [rangeRunes_cons]; rfl
  | _ :: _, [] => rfl
  | (sr, bytes) :: rs, b :: t => by
      have hread : (if b < 0x80 then ((b.toNat : Int), t)
          else ((decodeRune (b :: t)).1, (b :: t).drop (decodeRune (b :: t)).2)) =
          ((decodeRune (b :: t)).1, (b :: t).drop (decodeRune (b :: t)).2) := by
        split_ifs with hb
        · rw [decodeRune_of_lt hb]; rfl
        · rfl
      rw [equalFoldRest, hread, rangeRunes_cons, List.map_cons, List.map_cons, runesFold,
        ← equalFoldRest_eq_runesFold rs, ← foldsTo_and]

/-- `EqualFold`'s test on two ASCII letters, in bytes and in runes. -/
theorem asciiCasePair_iff {lo hi : UInt8} (hlo : lo < 0x80) :
    (65 ≤ lo ∧ lo ≤ 90 ∧ hi = lo + 32) ↔
      (65 ≤ (lo.toNat : Int) ∧ (lo.toNat : Int) ≤ 90 ∧ (hi.toNat : Int) = lo.toNat + 32) := by
  have h : lo.toNat < 128 := hlo
  rw [uint8_le_iff, uint8_le_iff, uint8_eq_iff, uint8_toNat_add]
  simp only [UInt8.reduceToNat]
  omega

/-- One step of the first loop on two ASCII bytes: the rune test on them, then
the rest. -/
theorem stringsEqualFold_cons_of_lt {a b : UInt8} (ha : a < 0x80) (hb : b < 0x80) (s t : GoString) :
    stringsEqualFold simpleFold (a :: s) (b :: t) =
      (foldsTo simpleFold a.toNat b.toNat && stringsEqualFold simpleFold s t) := by
  have ha' : a.toNat < 128 := ha
  have hb' : b.toNat < 128 := hb
  have hor : ¬ 0x80 ≤ a ||| b := by
    rw [uint8_or_ge_iff, not_or, uint8_not_le, uint8_not_le]; exact ⟨ha, hb⟩
  rw [stringsEqualFold, if_neg hor, foldsTo]
  by_cases heq : b = a
  · rw [if_pos heq, if_pos (by rw [heq]), Bool.true_and]
  have hne : ¬ ((b.toNat : Int) = a.toNat) := by rw [uint8_eq_iff] at heq; omega
  rw [if_neg heq, if_neg hne]
  dsimp only
  by_cases hlt : b < a
  · have hlt' : (b.toNat : Int) < a.toNat := by rw [uint8_lt_iff] at hlt; omega
    rw [if_pos hlt, if_pos hlt, if_pos hlt', if_pos hlt', if_pos (show (a.toNat : Int) < 0x80 by omega),
      ite_false_eq_decide_and (asciiCasePair_iff hb)]
  · have hlt' : ¬ (b.toNat : Int) < a.toNat := by rw [uint8_lt_iff] at hlt; omega
    rw [if_neg hlt, if_neg hlt, if_neg hlt', if_neg hlt', if_pos (show (b.toNat : Int) < 0x80 by omega),
      ite_false_eq_decide_and (asciiCasePair_iff ha)]

/-- `EqualFold` compares the runes of both strings pairwise: its first loop
reads ASCII bytes as runes, and `hasUnicode` goes on with the runes that
follow. -/
theorem stringsEqualFold_eq_runesFold :
    ∀ s t : GoString, stringsEqualFold simpleFold s t =
      runesFold simpleFold ((rangeRunes s).map Prod.fst) ((rangeRunes t).map Prod.fst)
  | [], [] => rfl
  | [], b :: t => by rw [rangeRunes_cons]; rfl
  | a :: s, [] => by rw [rangeRunes_cons]; rfl
  | a :: s, b :: t => by
      by_cases h : 0x80 ≤ a ||| b
      · rw [stringsEqualFold, if_pos h, equalFoldRest_eq_runesFold]
      · rw [uint8_or_ge_iff, not_or, uint8_not_le, uint8_not_le] at h
        rw [stringsEqualFold_cons_of_lt simpleFold h.1 h.2, stringsEqualFold_eq_runesFold s t,
          rangeRunes_cons, rangeRunes_cons, decodeRune_of_lt h.1, decodeRune_of_lt h.2]
        rfl

/-! ## For every table -/

theorem toNat_asciiLower {c : UInt8} (hc : c < 0x80) :
    (asciiLower c).toNat = if 65 ≤ c.toNat ∧ c.toNat ≤ 90 then c.toNat + 32 else c.toNat := by
  have h : c.toNat < 128 := hc
  unfold asciiLower
  simp only [uint8_le_iff, UInt8.reduceToNat]
  split_ifs
  · rw [uint8_toNat_add]; simp only [UInt8.reduceToNat]; omega
  · rfl

/-- On two ASCII bytes the rune test is equality after lowering. -/
theorem foldsTo_ascii {a b : UInt8} (ha : a < 0x80) (hb : b < 0x80) :
    foldsTo simpleFold a.toNat b.toNat = decide (asciiLower a = asciiLower b) := by
  have ha' : a.toNat < 128 := ha
  have hb' : b.toNat < 128 := hb
  have hhi : (if (b.toNat : Int) < a.toNat then (a.toNat : Int) else b.toNat) < 0x80 := by
    split_ifs <;> omega
  rw [Bool.eq_iff_iff, decide_eq_true_iff, uint8_eq_iff, toNat_asciiLower ha, toNat_asciiLower hb]
  simp only [foldsTo, if_pos hhi]
  split_ifs <;> simp <;> omega

theorem stringsEqualFold_of_isASCII :
    ∀ {s t : GoString}, IsASCII s → IsASCII t →
      stringsEqualFold simpleFold s t = decide (s.map asciiLower = t.map asciiLower)
  | [], [], _, _ => rfl
  | [], _ :: _, _, _ | _ :: _, [], _, _ => by simp [stringsEqualFold]
  | a :: s, b :: t, hs, ht => by
      rw [isASCII_cons] at hs ht
      rw [stringsEqualFold_cons_of_lt simpleFold hs.1 ht.1, foldsTo_ascii simpleFold hs.1 ht.1,
        stringsEqualFold_of_isASCII hs.2 ht.2]
      simp only [List.map_cons, List.cons.injEq, Bool.decide_and]

/-- `EqualFold` is symmetric for every folding table and every two byte
strings, valid UTF-8 or not, although it reads its arguments with two
different decoders. -/
theorem stringsEqualFold_comm (s t : GoString) :
    stringsEqualFold simpleFold s t = stringsEqualFold simpleFold t s := by
  rw [stringsEqualFold_eq_runesFold, stringsEqualFold_eq_runesFold, runesFold_comm]

/-- Every string matches itself, an invalid byte included. -/
theorem stringsEqualFold_self (s : GoString) : stringsEqualFold simpleFold s s = true := by
  rw [stringsEqualFold_eq_runesFold, runesFold_self]

/-- `strings.EqualFold` with the folding table `simpleFold`, as the `Folding`
the bridge takes. -/
def Folding.ofSimpleFold : Folding where
  equalFold := stringsEqualFold simpleFold
  equalFold_ascii _ _ hs ht := stringsEqualFold_of_isASCII simpleFold hs ht

end

/-! ## With a folding table -/

namespace FoldTable

variable (T : FoldTable) {lo hi : Int}

/-- The orbit loop never leaves the class it starts in. -/
theorem foldKey_foldOrbit :
    ∀ (fuel : Nat) (r : Int), T.foldKey (foldOrbit T.simpleFold lo hi fuel r) = T.foldKey r
  | 0, _ => rfl
  | fuel + 1, r => by
      rw [foldOrbit]
      split_ifs
      · rw [foldKey_foldOrbit fuel, T.foldKey_simpleFold]
      · rfl

/-- From a rune of the class between `lo` and `hi`, the loop climbs the class
and stops at `hi`, one step per rune at most. -/
theorem foldOrbit_climb (hkey : T.foldKey hi = T.foldKey lo) :
    ∀ (fuel : Nat) (r : Int), T.foldKey r = T.foldKey lo → lo < r → r ≤ hi → hi - r < fuel →
      foldOrbit T.simpleFold lo hi fuel r = hi
  | 0, _, _, _, _, hf => by omega
  | fuel + 1, r, hr, hlo, hhi, hf => by
      rw [foldOrbit]
      by_cases hlt : r < hi
      · obtain ⟨hup, hle⟩ := T.simpleFold_next r hi (hkey.trans hr.symm) hlt
        rw [if_pos ⟨by omega, hlt⟩]
        exact foldOrbit_climb hkey fuel _ (by rw [T.foldKey_simpleFold, hr]) (by omega) hle
          (by omega)
      · rw [if_neg (by omega)]
        omega

/-- The orbit loop from `SimpleFold(lo)` reaches `hi` exactly when `hi` folds
with `lo`, for code points `lo < hi`. -/
theorem foldOrbit_eq_iff (hlo : 0 ≤ lo) (hlt : lo < hi) (hhi : hi ≤ 0x10FFFF) :
    foldOrbit T.simpleFold lo hi orbitFuel (T.simpleFold lo) = hi ↔ T.foldKey hi = T.foldKey lo := by
  constructor
  · intro h
    rw [← h, T.foldKey_foldOrbit, T.foldKey_simpleFold]
  · intro hkey
    obtain ⟨hup, hle⟩ := T.simpleFold_next lo hi hkey hlt
    exact T.foldOrbit_climb hkey _ _ (T.foldKey_simpleFold lo) hup hle
      (by simp only [orbitFuel]; omega)

theorem foldsTo_of_lt {a b : Int} (ha : 0 ≤ a) (hab : a < b) (hb : b ≤ 0x10FFFF) :
    foldsTo T.simpleFold a b = decide (T.foldKey a = T.foldKey b) := by
  have hne : ¬ b = a := by omega
  have hba : ¬ b < a := by omega
  simp only [foldsTo, if_neg hne, if_neg hba]
  by_cases hs : b < 0x80
  · rw [if_pos hs, decide_eq_decide, T.foldKey_ascii a b ha (by omega) (by omega) hs]
    split_ifs <;> omega
  · rw [if_neg hs, decide_eq_decide, T.foldOrbit_eq_iff ha hab hb, eq_comm]

/-- On code points `EqualFold`'s rune test is: same class. -/
theorem foldsTo_eq_decide {a b : Int} (ha : validRune a = true) (hb : validRune b = true) :
    foldsTo T.simpleFold a b = decide (T.foldKey a = T.foldKey b) := by
  rw [validRune_iff] at ha hb
  rcases Int.lt_trichotomy a b with h | rfl | h
  · exact T.foldsTo_of_lt (by omega) h (by omega)
  · simp [foldsTo]
  · rw [foldsTo_comm, T.foldsTo_of_lt (by omega) h (by omega), decide_eq_decide]
    exact eq_comm

theorem runesFold_eq_decide :
    ∀ xs ys : List Int, (∀ x ∈ xs, validRune x = true) → (∀ y ∈ ys, validRune y = true) →
      runesFold T.simpleFold xs ys = decide (xs.map T.foldKey = ys.map T.foldKey)
  | [], [], _, _ => rfl
  | [], _ :: _, _, _ | _ :: _, [], _, _ => by simp [runesFold]
  | x :: xs, y :: ys, hx, hy => by
      rw [List.forall_mem_cons] at hx hy
      rw [runesFold, T.foldsTo_eq_decide hx.1 hy.1, runesFold_eq_decide xs ys hx.2 hy.2]
      simp only [List.map_cons, List.cons.injEq, Bool.decide_and]

theorem stringsEqualFold_eq_decide (s t : GoString) :
    stringsEqualFold T.simpleFold s t =
      decide ((rangeRunes s).map (fun p => T.foldKey p.1) =
        (rangeRunes t).map (fun p => T.foldKey p.1)) := by
  have hv : ∀ u : GoString, ∀ x ∈ (rangeRunes u).map Prod.fst, validRune x = true :=
    fun u x hx => by
      obtain ⟨p, hp, rfl⟩ := List.mem_map.mp hx
      exact validRune_of_mem_rangeRunes hp
  rw [stringsEqualFold_eq_runesFold, T.runesFold_eq_decide _ _ (hv s) (hv t), List.map_map,
    List.map_map]
  rfl

end FoldTable

section
variable (T : FoldTable)

/-- With `SimpleFold`'s table, `EqualFold` holds exactly when the runes the
`range` loop reads from both strings lie in the same classes one by one. -/
theorem stringsEqualFold_iff_foldKey (s t : GoString) :
    stringsEqualFold T.simpleFold s t = true ↔
      (rangeRunes s).map (fun p => T.foldKey p.1) = (rangeRunes t).map (fun p => T.foldKey p.1) := by
  rw [T.stringsEqualFold_eq_decide, decide_eq_true_iff]

/-- With `SimpleFold`'s table `EqualFold` is transitive: with its symmetry and
reflexivity, an equivalence on byte strings. -/
theorem stringsEqualFold_trans {s t u : GoString} (hst : stringsEqualFold T.simpleFold s t = true)
    (htu : stringsEqualFold T.simpleFold t u = true) : stringsEqualFold T.simpleFold s u = true := by
  rw [T.stringsEqualFold_eq_decide, decide_eq_true_iff] at hst htu ⊢
  exact hst.trans htu

/-- The keys `WithCustomGRPCMetadata` skips, with `SimpleFold`'s table: those
whose runes lie one by one in the classes of the letters of `content-type` or
of `content-length`. -/
theorem isSkippedCustomKey_ofSimpleFold (k : GoString) :
    isSkippedCustomKey (Folding.ofSimpleFold T.simpleFold) k = true ↔
      (rangeRunes k).map (fun p => T.foldKey p.1) =
          contentTypeHeader.map (fun b => T.foldKey b.toNat) ∨
        (rangeRunes k).map (fun p => T.foldKey p.1) =
          contentLengthHeader.map (fun b => T.foldKey b.toNat) := by
  have hascii : ∀ h : GoString, IsASCII h →
      (rangeRunes h).map (fun p => T.foldKey p.1) = h.map (fun b => T.foldKey b.toNat) :=
    fun h hh => by
      rw [← List.append_nil h, rangeRunes_ascii_append hh, rangeRunes_nil, List.append_nil,
        List.append_nil, List.map_map]
      rfl
  rw [isSkippedCustomKey, Bool.or_eq_true]
  simp only [Folding.ofSimpleFold, T.stringsEqualFold_eq_decide, decide_eq_true_iff,
    hascii contentTypeHeader (by decide), hascii contentLengthHeader (by decide)]

end

/-! ## The ASCII letters -/

namespace FoldTable

/-- `SimpleFold` on the classes of the ASCII letters: each letter with its other
case, and `k` and `s` also with the Kelvin sign `U+212A` and the long s
`U+017F`, walked upwards and back to the least.  Every other rune is alone. -/
def asciiLettersFold (r : Int) : Int :=
  if 65 ≤ r ∧ r ≤ 90 then (if r = 0x4B then 0x6B else if r = 0x53 then 0x73 else r + 32)
  else if 97 ≤ r ∧ r ≤ 122 then (if r = 0x6B then 0x212A else if r = 0x73 then 0x17F else r - 32)
  else if r = 0x17F then 0x53 else if r = 0x212A then 0x4B else r

/-- The class of a rune in `asciiLettersFold`: its lower-case letter. -/
def asciiLettersKey (r : Int) : Int :=
  if 65 ≤ r ∧ r ≤ 90 then r + 32 else if r = 0x17F then 0x73 else if r = 0x212A then 0x6B else r

theorem asciiLettersKey_of_upper {r : Int} (h : 65 ≤ r ∧ r ≤ 90) : asciiLettersKey r = r + 32 :=
  if_pos h

theorem asciiLettersKey_of_lower {r : Int} (h : 97 ≤ r ∧ r ≤ 122) : asciiLettersKey r = r := by
  rw [asciiLettersKey, if_neg (by omega), if_neg (by omega), if_neg (by omega)]

theorem asciiLettersKey_of_other {r : Int} (hU : ¬(65 ≤ r ∧ r ≤ 90)) (h1 : ¬r = 0x17F)
    (h2 : ¬r = 0x212A) : asciiLettersKey r = r := by
  rw [asciiLettersKey, if_neg hU, if_neg h1, if_neg h2]

theorem asciiLettersKey_cases (m : Int) :
    asciiLettersKey m = m + 32 ∧ 65 ≤ m ∧ m ≤ 90 ∨ asciiLettersKey m = 0x73 ∧ m = 0x17F ∨
      asciiLettersKey m = 0x6B ∧ m = 0x212A ∨
      asciiLettersKey m = m ∧ (m < 65 ∨ 90 < m) ∧ m ≠ 0x17F ∧ m ≠ 0x212A := by
  unfold asciiLettersKey
  split_ifs <;> omega

theorem asciiLettersKey_asciiLettersFold (r : Int) :
    asciiLettersKey (asciiLettersFold r) = asciiLettersKey r := by
  unfold asciiLettersFold
  split_ifs with hU hK hS hL hk hs
  all_goals try first | rfl | (subst_vars; decide)
  · rw [asciiLettersKey_of_lower (by omega), asciiLettersKey_of_upper hU]
  · rw [asciiLettersKey_of_upper (by omega), asciiLettersKey_of_lower hL, Int.sub_add_cancel]

/-- Each class, walked from the rune the branch reads. -/
theorem asciiLettersFold_next {r m : Int} (hm : asciiLettersKey m = asciiLettersKey r) (hr : r < m) :
    r < asciiLettersFold r ∧ asciiLettersFold r ≤ m := by
  have hkm := asciiLettersKey_cases m
  unfold asciiLettersFold
  split_ifs with hU hK hS hL hk hs h1 h2
  · subst hK; rw [show asciiLettersKey 0x4B = 0x6B by decide] at hm; omega
  · subst hS; rw [show asciiLettersKey 0x53 = 0x73 by decide] at hm; omega
  · rw [asciiLettersKey_of_upper hU] at hm; omega
  · subst hk; rw [show asciiLettersKey 0x6B = 0x6B by decide] at hm; omega
  · subst hs; rw [show asciiLettersKey 0x73 = 0x73 by decide] at hm; omega
  · rw [asciiLettersKey_of_lower hL] at hm; omega
  · subst h1; rw [show asciiLettersKey 0x17F = 0x73 by decide] at hm; omega
  · subst h2; rw [show asciiLettersKey 0x212A = 0x6B by decide] at hm; omega
  · rw [asciiLettersKey_of_other hU h1 h2] at hm; omega

/-- The classes of the ASCII letters as a folding table. -/
def asciiLetters : FoldTable where
  simpleFold := asciiLettersFold
  foldKey := asciiLettersKey
  foldKey_simpleFold := asciiLettersKey_asciiLettersFold
  simpleFold_next _ _ := asciiLettersFold_next
  foldKey_ascii a b _ _ _ _ := by
    unfold asciiLettersKey
    split_ifs <;> omega

end FoldTable

theorem stringsEqualFold_trans_kelvin :
    stringsEqualFold FoldTable.asciiLetters.simpleFold (ofString "K") (ofString "k") = true ∧
      stringsEqualFold FoldTable.asciiLetters.simpleFold (ofString "k") (ofString "\u212A") = true ∧
      stringsEqualFold FoldTable.asciiLetters.simpleFold (ofString "K") (ofString "\u212A") = true :=
  ⟨by decide, by decide,
    stringsEqualFold_trans FoldTable.asciiLetters (t := ofString "k") (by decide) (by decide)⟩

/-- Beyond ASCII `EqualFold` follows the table where the fast path alone would
not: the Kelvin sign matches `k`. -/
example :
    stringsEqualFold FoldTable.asciiLetters.simpleFold (ofString "Content-Type")
        (ofString "content-type") = true ∧
      stringsEqualFold FoldTable.asciiLetters.simpleFold (ofString "kEY") (ofString "\u212Aey") = true ∧
      Folding.ascii.equalFold (ofString "kEY") (ofString "\u212Aey") = false := by
  decide

end DaprMessaging
