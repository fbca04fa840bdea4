import DaprMessaging.ToLower
import DaprMessaging.Proofs.Utf8Codec

/-!
# `strings.Map`

`Map` returns its input when the mapping changes no rune, and otherwise copies
the bytes before the first change, writes that rune and maps the rest.  Its
first loop tells `U+FFFD` from an invalid byte by decoding again; its second
writes a rune below `RuneSelf` as a byte.  None of this shows in what it
returns (`stringsMap_eq_flatMap`): the bytes `mappedBytes` gives for each rune
the `range` loop visits, one after another.  `mapResult_mapFirstChange` is the
first loop's invariant, from any rune boundary on.

Two consequences: what `Map` writes is valid UTF-8
(`validString_flatMap_mappedBytes`), and `Map` twice is `Map` once with the
composite mapping (`stringsMap_stringsMap`).
-/

namespace DaprMessaging

theorem encodeRune_of_lt {r : Int} (h0 : 0 ≤ r) (h : r < 0x80) : encodeRune r = [r.toNat.toUInt8] := by
  rw [encodeRune, if_pos ⟨h0, by omega⟩]

theorem runeLen_of_validRune {c : Int} (h : validRune c = true) :
    runeLen c = (encodeRune c).length := by
  rw [validRune_iff] at h
  obtain ⟨n, rfl⟩ := Int.eq_ofNat_of_zero_le (show 0 ≤ c by omega)
  rw [runeLen, if_neg (show ¬(n : Int) < 0 by omega)]
  by_cases h1 : n ≤ 0x7F
  · rw [encodeRune_one h1, if_pos (show (n : Int) ≤ 0x7F by omega)]; rfl
  rw [if_neg (show ¬(n : Int) ≤ 0x7F by omega)]
  by_cases h2 : n ≤ 0x7FF
  · rw [encodeRune_two ⟨by omega, h2⟩, if_pos (show (n : Int) ≤ 0x7FF by omega)]; rfl
  rw [if_neg (show ¬(n : Int) ≤ 0x7FF by omega),
    if_neg (show ¬(0xD800 ≤ (n : Int) ∧ (n : Int) ≤ 0xDFFF) by omega)]
  by_cases h3 : n ≤ 0xFFFF
  · rw [encodeRune_three ⟨by omega, h3⟩ (by omega), if_pos (show (n : Int) ≤ 0xFFFF by omega)]; rfl
  · rw [encodeRune_four ⟨by omega, by omega⟩, if_neg (show ¬(n : Int) ≤ 0xFFFF by omega),
      if_pos (show (n : Int) ≤ maxRune by rw [maxRune]; omega)]; rfl

section
variable (mapping : Int → Int)

/-- What `Map` writes for a rune: the bytes of the rune it maps to, nothing when
that is negative. -/
def mappedBytes (c : Int) : GoString :=
  if 0 ≤ mapping c then encodeRune (mapping c) else []

theorem mapRest_eq_flatMap (rs : List (Int × GoString)) :
    mapRest mapping rs = rs.flatMap fun p => mappedBytes mapping p.1 := by
  induction rs with
  | nil => rfl
  | cons p rs ih =>
      rw [mapRest, ih, List.flatMap_cons, mappedBytes]
      by_cases h0 : 0 ≤ mapping p.1
      · by_cases h1 : mapping p.1 < 0x80
        · simp only [if_pos h0, if_pos h1, encodeRune_of_lt h0 h1]
        · simp only [if_pos h0, if_neg h1]
      · simp only [if_neg h0]

/-- What `Map` returns when its first loop, from byte `i` on, finds `found`. -/
def mapResult (s : GoString) (i : Nat) : Option (Nat × Int × Nat) → GoString
  | none => s.drop i
  | some (j, r, width) =>
      (s.drop i).take (j - i) ++ (if 0 ≤ r then encodeRune r else []) ++
        mapRest mapping (rangeRunes (s.drop (j + width)))

theorem stringsMap_eq_mapResult (s : GoString) :
    stringsMap mapping s = mapResult mapping s 0 (mapFirstChange mapping s 0 (rangeRunes s)) := by
  unfold stringsMap
  rcases mapFirstChange mapping s 0 (rangeRunes s) with _ | ⟨j, r, w⟩ <;> simp [mapResult]

theorem mapFirstChange_ge {s : GoString} {i j : Nat} {r : Int} {w : Nat} :
    ∀ {rs : List (Int × GoString)}, mapFirstChange mapping s i rs = some (j, r, w) → i ≤ j
  | [], h => by simp [mapFirstChange] at h
  | (c, bytes) :: rs, h => by
      unfold mapFirstChange at h
      dsimp only at h
      split_ifs at h <;> first
        | exact Nat.le_trans (Nat.le_add_right _ _) (mapFirstChange_ge h)
        | (simp only [Option.some.injEq, Prod.mk.injEq] at h; omega)

/-- A rune the first loop passes over: `Map` writes its bytes. -/
theorem mapResult_skip {s bytes : GoString} {i : Nat} (found : Option (Nat × Int × Nat))
    (hs : s.drop i = bytes ++ s.drop (i + bytes.length))
    (hfound : ∀ j r w, found = some (j, r, w) → i + bytes.length ≤ j) :
    mapResult mapping s i found = bytes ++ mapResult mapping s (i + bytes.length) found := by
  rcases found with _ | ⟨j, r, w⟩
  · exact hs
  · have hj := hfound j r w rfl
    simp only [mapResult, List.append_assoc]
    rw [hs, List.take_append_eq_append_take, List.take_of_length_le (by omega),
      show j - i - bytes.length = j - (i + bytes.length) by omega, List.append_assoc]

theorem nonneg_of_validRune {c : Int} (h : validRune c = true) : 0 ≤ c := by
  rw [validRune_iff] at h; omega

/-- `Map`'s first loop from a rune boundary `i`: what `Map` returns from `i` on
is what mapping every rune from `i` on writes. -/
theorem mapResult_mapFirstChange (s : GoString) :
    ∀ (rs : List (Int × GoString)) (i : Nat), rangeRunes (s.drop i) = rs →
      mapResult mapping s i (mapFirstChange mapping s i rs) =
        rs.flatMap fun p => mappedBytes mapping p.1
  | [], i, h => by
      have := rangeRunes_flatMap_bytes (s.drop i)
      rw [h] at this
      exact this.symm
  | (c, bytes) :: rs, i, h => by
      obtain ⟨b, t, hbt⟩ : ∃ b t, s.drop i = b :: t := by
        rcases hs : s.drop i with _ | ⟨b, t⟩
        · rw [hs] at h; cases h
        · exact ⟨b, t, rfl⟩
      have hw := decodeRune_width b t
      rw [hbt, rangeRunes_cons, List.cons.injEq, Prod.mk.injEq] at h
      obtain ⟨⟨hc, hbytes⟩, hrs⟩ := h
      have hlen : bytes.length = (decodeRune (b :: t)).2 := by
        rw [← hbytes, List.length_take, List.length_cons]; omega
      have hsplit : s.drop i = bytes ++ s.drop (i + bytes.length) := by
        rw [← List.drop_drop, hbt, hlen, ← hbytes, List.take_append_drop]
      have hdec : decodeRune (s.drop i) = (c, bytes.length) := by rw [hbt, hlen, ← hc]
      have hspec := decodeRune_decodesAs b t
      rw [← hbt, hdec] at hspec
      dsimp only [DecodesAs] at hspec
      rw [hsplit, List.take_left' rfl] at hspec
      have hnext : rangeRunes (s.drop (i + bytes.length)) = rs := by
        rw [← List.drop_drop, hbt, hlen, hrs]
      have ih := mapResult_mapFirstChange s rs (i + bytes.length) hnext
      have skip (hb : mappedBytes mapping c = bytes) :
          mapResult mapping s i (mapFirstChange mapping s (i + bytes.length) rs) =
            ((c, bytes) :: rs).flatMap fun p => mappedBytes mapping p.1 := by
        rw [mapResult_skip mapping _ hsplit fun _ _ _ h => mapFirstChange_ge mapping h, ih,
          List.flatMap_cons, hb]
      have found {width : Nat} (hw : width = bytes.length) :
          mapResult mapping s i (some (i, mapping c, width)) =
            ((c, bytes) :: rs).flatMap fun p => mappedBytes mapping p.1 := by
        subst hw
        simp only [mapResult, Nat.sub_self, List.take_zero, List.nil_append, mapRest_eq_flatMap]
        rw [hnext, List.flatMap_cons]
        rfl
      unfold mapFirstChange
      simp only [hdec]
      split_ifs with h1 h2 h3
      · rcases hspec with ⟨he, -⟩ | ⟨hv, henc⟩
        · exact absurd he h1.2
        · exact skip (by rw [mappedBytes, h1.1, if_pos (nonneg_of_validRune hv), henc])
      · rcases hspec with ⟨-, hl⟩ | ⟨hv, henc⟩
        · exact absurd hl h3.1
        · exact skip (by rw [mappedBytes, h3.2, if_pos (nonneg_of_validRune hv), henc])
      · exact found rfl
      · rcases hspec with ⟨he, -⟩ | ⟨hv, henc⟩
        · exact absurd he h2
        · exact found (by rw [runeLen_of_validRune hv, henc]; rfl)

theorem stringsMap_eq_flatMap (s : GoString) :
    stringsMap mapping s = (rangeRunes s).flatMap fun p => mappedBytes mapping p.1 := by
  rw [stringsMap_eq_mapResult, mapResult_mapFirstChange mapping s (rangeRunes s) 0 (by rw [List.drop_zero])]

theorem validString_mappedBytes_append (c : Int) (t : GoString) :
    validString (mappedBytes mapping c ++ t) = validString t := by
  rw [mappedBytes]
  split_ifs
  · exact validString_encodeRune_append _ t
  · rfl

theorem validString_flatMap_mappedBytes (rs : List (Int × GoString)) :
    validString (rs.flatMap fun p => mappedBytes mapping p.1) = true := by
  induction rs with
  | nil => rfl
  | cons p rs ih => rw [List.flatMap_cons, validString_mappedBytes_append, ih]

end

/-- Mapping what a first mapping wrote, rune by rune. -/
theorem flatMap_mappedBytes_rangeRunes_flatMap (f g : Int → Int) (rs : List (Int × GoString)) :
    (rangeRunes (rs.flatMap fun p => mappedBytes f p.1)).flatMap (fun p => mappedBytes g p.1) =
      rs.flatMap fun p => mappedBytes
        (fun c => if 0 ≤ f c then g (if validRune (f c) then f c else runeError) else -1) p.1 := by
  induction rs with
  | nil => rfl
  | cons p rs ih =>
      rw [List.flatMap_cons, List.flatMap_cons, ← ih]
      by_cases h : 0 ≤ f p.1
      · rw [mappedBytes, if_pos h, rangeRunes_encodeRune_append, List.flatMap_cons]
        simp only [mappedBytes, if_pos h]
      · rw [mappedBytes, if_neg h, List.nil_append]
        simp only [mappedBytes, if_neg h]
        rfl

/-- `Map` twice is `Map` once with the composite mapping: the second mapping
reads what the first wrote, a rune the first maps to no code point as
`RuneError`, and a rune the first drops is gone. -/
theorem stringsMap_stringsMap (f g : Int → Int) (s : GoString) :
    stringsMap g (stringsMap f s) =
      stringsMap (fun c => if 0 ≤ f c then g (if validRune (f c) then f c else runeError) else -1)
        s := by
  rw [stringsMap_eq_flatMap f, stringsMap_eq_flatMap g, stringsMap_eq_flatMap,
    flatMap_mappedBytes_rangeRunes_flatMap]

end DaprMessaging
