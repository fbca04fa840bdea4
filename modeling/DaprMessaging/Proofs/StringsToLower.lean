import DaprMessaging.Proofs.StringsMap
import DaprMessaging.Metadata
import DaprMessaging.Proofs.CustomMetadata

/-!
# `strings.ToLower`

`ToLower` has three paths: an ASCII string with no upper-case letter comes
back as it is, an ASCII string with one is copied run by run, and any other
string goes to `Map(unicode.ToLower, s)`.  The two ASCII paths lower byte by
byte (`stringsToLower_of_isASCII`, with `lowerASCIILoop_eq` the copy loop's
invariant), which is what `unicode.ToLower` does to an ASCII rune, so on every
string `ToLower` is `Map` with `unicode.ToLower` (`stringsToLower_eq_stringsMap`)
and writes valid UTF-8 (`validString_stringsToLower`).

With a case table that lowers a code point to a lower-case code point
(`CaseTable`), `ToLower` has the three properties the bridge assumes of its
`Lowering` parameter (`stringsToLower_lowering`, and `CaseTable.lowering`), and
it gives a string back exactly when the string is valid UTF-8 and lower case
rune by rune (`stringsToLower_eq_self_iff`).

`IsJSONContentType` lowers the content type and tests for the prefix
`application/json`: a content type whose first sixteen bytes are ASCII is JSON
exactly when they spell it up to case (`isJSONContentType_iff`), with any
`Lowering`.  With a case table, a content type is JSON exactly when its first
sixteen runes lower to those letters (`isJSONContentType_iff_runes`), so a rune
beyond ASCII that the table lowers into ASCII, as `CaseRanges` lowers `İ` to
`i`, counts.

`WithCustomGRPCMetadata` stores each key lowered.  A key that `ToLower` lowers
to an ASCII name is ASCII itself, unless a rune beyond ASCII lowers to a byte
of the name (in Unicode only `U+0130` and `U+212A` lower into ASCII, to `i` and
`k`).  So, with such a table, no key of any bytes adds a value under
`content-type` or `content-length`.
-/

namespace DaprMessaging

open GoString

/-! ## ASCII -/

/-- `unicode.ToLower` of an ASCII byte is the byte lowered. -/
theorem unicodeToLower_of_lt (toLowerCase : Int → Int) {b : UInt8} (hb : b < 0x80) :
    unicodeToLower toLowerCase b.toNat = (asciiLower b).toNat ∧ (asciiLower b).toNat < 0x80 := by
  have hb' : b.toNat < 128 := hb
  unfold unicodeToLower asciiLower
  rw [if_pos (show (b.toNat : Int) ≤ 0x7F by omega)]
  by_cases h : 65 ≤ b.toNat ∧ b.toNat ≤ 90
  · rw [if_pos (show (65 : Int) ≤ b.toNat ∧ (b.toNat : Int) ≤ 90 by omega),
      if_pos (show (65 : UInt8) ≤ b ∧ b ≤ 90 from h), uint8_toNat_add]
    simp only [UInt8.reduceToNat]
    omega
  · rw [if_neg (show ¬((65 : Int) ≤ b.toNat ∧ (b.toNat : Int) ≤ 90) by omega),
      if_neg (show ¬((65 : UInt8) ≤ b ∧ b ≤ 90) from h)]
    omega

theorem mappedBytes_unicodeToLower_of_lt (toLowerCase : Int → Int) {b : UInt8} (hb : b < 0x80) :
    mappedBytes (unicodeToLower toLowerCase) b.toNat = [asciiLower b] := by
  obtain ⟨hlow, hlt⟩ := unicodeToLower_of_lt toLowerCase hb
  rw [mappedBytes, hlow, if_pos (Int.ofNat_nonneg _), encodeRune_one (by omega)]
  exact congrArg (· :: []) (uint8_ofNat_toNat _)

theorem flatMap_mappedBytes_ascii (toLowerCase : Int → Int) {a : GoString} (ha : IsASCII a) :
    (a.map fun b => ((b.toNat : Int), [b])).flatMap
        (fun p => mappedBytes (unicodeToLower toLowerCase) p.1) = a.map asciiLower := by
  induction a with
  | nil => rfl
  | cons b a ih =>
      rw [isASCII_cons] at ha
      rw [List.map_cons, List.flatMap_cons, mappedBytes_unicodeToLower_of_lt _ ha.1, ih ha.2]
      rfl

/-! ## `ToLower`'s loops -/

theorem asciiScan_of_isASCII {s : GoString} (hs : IsASCII s) (hasUpper : Bool) :
    asciiScan hasUpper s = (true, hasUpper || s.any fun c => 65 ≤ c && c ≤ 90) := by
  induction s generalizing hasUpper with
  | nil => simp [asciiScan]
  | cons c s ih =>
      rw [isASCII_cons] at hs
      have hc : ¬(0x80 ≤ c) := by rw [uint8_le_iff]; exact Nat.not_le_of_lt hs.1
      rw [asciiScan, if_neg hc, ih hs.2, List.any_cons, Bool.or_assoc]

theorem asciiScan_fst_of_not_isASCII {s : GoString} (hs : ¬IsASCII s) (hasUpper : Bool) :
    (asciiScan hasUpper s).1 = false := by
  induction s generalizing hasUpper with
  | nil => exact absurd isASCII_nil hs
  | cons c s ih =>
      rw [asciiScan]
      split_ifs with hc
      · rfl
      · refine ih (fun h => hs (isASCII_cons.mpr ⟨?_, h⟩)) _
        rw [uint8_le_iff] at hc
        exact Nat.lt_of_not_le hc

/-- `ToLower`'s copy loop, at byte `i` with `rest` the bytes from there on:
`pre`, the bytes before `pos`, is written lowered, and `mid`, the bytes from
`pos` to `i`, has no upper-case letter. -/
theorem lowerASCIILoop_eq (s : GoString) :
    ∀ (rest pre mid : GoString) (i pos : Nat) (out : GoString),
      s = pre ++ mid ++ rest → i = pre.length + mid.length → pos = pre.length →
      out = pre.map asciiLower → mid.map asciiLower = mid →
      lowerASCIILoop s i pos out rest = s.map asciiLower
  | [], pre, mid, i, pos, out, hs, hi, hpos, hout, hmid => by
      subst hs hi hpos hout
      rw [lowerASCIILoop, List.append_nil, List.map_append, hmid]
      split_ifs with h
      · rw [List.drop_left' rfl]
      · obtain rfl : mid = [] :=
          List.eq_nil_of_length_eq_zero (by simp only [List.length_append] at h; omega)
        exact (List.append_nil _).symm
  | c :: rest, pre, mid, i, pos, out, hs, hi, hpos, hout, hmid => by
      have hseg : (if pos < i then (s.drop pos).take (i - pos) else []) = mid := by
        split_ifs with h
        · rw [hs, hpos, hi, List.append_assoc, List.drop_left' rfl, Nat.add_sub_cancel_left,
            List.take_left' rfl]
        · exact (List.eq_nil_of_length_eq_zero (by omega)).symm
      have hlen : i + 1 = (pre ++ mid ++ [c]).length := by simp only [hi, List.length_append,
        List.length_singleton, Nat.add_assoc]
      rw [lowerASCIILoop]
      by_cases hc : 65 ≤ c ∧ c ≤ 90
      · rw [if_pos hc]
        refine lowerASCIILoop_eq s rest (pre ++ mid ++ [c]) [] _ _ _ (by simp [hs]) hlen hlen ?_ rfl
        rw [hseg, hout, List.map_append, List.map_append, hmid]
        exact congrArg (_ ++ mid ++ [·]) (if_pos hc).symm
      · rw [if_neg hc]
        exact lowerASCIILoop_eq s rest pre (mid ++ [c]) _ _ _ (by simp [hs])
          (by rw [hlen]; simp only [List.length_append, Nat.add_assoc]) hpos hout
          (by rw [List.map_append, hmid]; exact congrArg (mid ++ [·]) (if_neg hc))

theorem lowerASCIILoop_zero (s : GoString) : lowerASCIILoop s 0 0 [] s = s.map asciiLower :=
  lowerASCIILoop_eq s s [] [] 0 0 [] rfl rfl rfl rfl rfl

/-- `ToLower` of an ASCII string, by either of its ASCII paths. -/
theorem stringsToLower_of_isASCII (toLowerCase : Int → Int) {s : GoString} (hs : IsASCII s) :
    stringsToLower toLowerCase s = s.map asciiLower := by
  unfold stringsToLower
  rw [asciiScan_of_isASCII hs]
  dsimp only
  rw [if_pos rfl]
  split_ifs with hu
  · simp only [Bool.false_or, Bool.not_eq_true', List.any_eq_false, Bool.and_eq_true,
      decide_eq_true_eq] at hu
    exact (List.map_congr_left fun c hc => if_neg (hu c hc)).trans (List.map_id s) |>.symm
  · exact lowerASCIILoop_zero s

/-- `ToLower` is `unicode.ToLower` applied to every rune the `range` loop visits,
each written back, on its ASCII paths as on `Map`'s. -/
theorem stringsToLower_eq_flatMap (toLowerCase : Int → Int) (s : GoString) :
    stringsToLower toLowerCase s =
      (rangeRunes s).flatMap fun p => mappedBytes (unicodeToLower toLowerCase) p.1 := by
  by_cases hs : IsASCII s
  · rw [stringsToLower_of_isASCII _ hs, ← flatMap_mappedBytes_ascii toLowerCase hs]
    conv_rhs => rw [← List.append_nil s, rangeRunes_ascii_append hs, rangeRunes_nil, List.append_nil]
  · unfold stringsToLower
    rcases hscan : asciiScan false s with ⟨isASCII, hasUpper⟩
    obtain rfl : isASCII = false := by rw [← asciiScan_fst_of_not_isASCII hs false, hscan]
    exact stringsMap_eq_flatMap _ s

/-- The ASCII paths and `Map(unicode.ToLower, s)` agree: `ToLower` is `Map`
with `unicode.ToLower` on every string. -/
theorem stringsToLower_eq_stringsMap (toLowerCase : Int → Int) (s : GoString) :
    stringsToLower toLowerCase s = stringsMap (unicodeToLower toLowerCase) s := by
  rw [stringsToLower_eq_flatMap, stringsMap_eq_flatMap]

/-- `ToLower` writes valid UTF-8, whatever the case table. -/
theorem validString_stringsToLower (toLowerCase : Int → Int) (s : GoString) :
    validString (stringsToLower toLowerCase s) = true := by
  rw [stringsToLower_eq_flatMap]
  exact validString_flatMap_mappedBytes _ _

theorem stringsToLower_ascii_append (toLowerCase : Int → Int) {a : GoString} (ha : IsASCII a)
    (s : GoString) :
    stringsToLower toLowerCase (a ++ s) = a.map asciiLower ++ stringsToLower toLowerCase s := by
  rw [stringsToLower_eq_flatMap, stringsToLower_eq_flatMap, rangeRunes_ascii_append ha,
    List.flatMap_append, flatMap_mappedBytes_ascii toLowerCase ha]

/-! ## With a case table -/

section
variable (T : CaseTable)

/-- `unicode.ToLower` lowers a code point to a code point, and lowering that
again changes nothing. -/
theorem unicodeToLower_validRune {c : Int} (hc : validRune c = true) :
    validRune (unicodeToLower T.toLowerCase c) = true ∧
      unicodeToLower T.toLowerCase (unicodeToLower T.toLowerCase c) =
        unicodeToLower T.toLowerCase c := by
  by_cases hl : c ≤ 0x7F
  · have h0 := nonneg_of_validRune hc
    have hlow : unicodeToLower T.toLowerCase c = if 65 ≤ c ∧ c ≤ 90 then c + 32 else c := if_pos hl
    rw [hlow, validRune_iff]
    constructor
    · split_ifs <;> omega
    · unfold unicodeToLower
      split_ifs <;> omega
  · rw [unicodeToLower, if_neg hl]
    exact ⟨T.toLowerCase_validRune c (by omega) hc, T.toLowerCase_idem c (by omega) hc⟩

theorem stringsToLower_idem (s : GoString) :
    stringsToLower T.toLowerCase (stringsToLower T.toLowerCase s) =
      stringsToLower T.toLowerCase s := by
  rw [stringsToLower_eq_flatMap _ s, stringsToLower_eq_flatMap,
    flatMap_mappedBytes_rangeRunes_flatMap]
  refine List.flatMap_congr fun p hp => ?_
  obtain ⟨hv, hidem⟩ := unicodeToLower_validRune T (validRune_of_mem_rangeRunes hp)
  simp [mappedBytes, nonneg_of_validRune hv, hv, hidem]

/-- `strings.ToLower` with a case table, as the `Lowering` the bridge takes. -/
def CaseTable.lowering : Lowering where
  toLower := stringsToLower T.toLowerCase
  toLower_ascii _ hs := stringsToLower_of_isASCII _ hs
  toLower_ascii_append _ s ha := stringsToLower_ascii_append _ ha s
  toLower_idem := stringsToLower_idem T

/-- `strings.ToLower` has the three properties the bridge's results assume of
`Lowering`, with any case table that lowers a code point to a lower-case code
point. -/
theorem stringsToLower_lowering :
    (∀ s, IsASCII s → stringsToLower T.toLowerCase s = s.map asciiLower) ∧
      (∀ a s, IsASCII a →
        stringsToLower T.toLowerCase (a ++ s) = a.map asciiLower ++ stringsToLower T.toLowerCase s) ∧
      (∀ s, stringsToLower T.toLowerCase (stringsToLower T.toLowerCase s) =
        stringsToLower T.toLowerCase s) :=
  ⟨fun _ hs => stringsToLower_of_isASCII _ hs, fun _ s ha => stringsToLower_ascii_append _ ha s,
    stringsToLower_idem T⟩

/-- With a case table every rune lowers to a code point, so `ToLower` writes
`EncodeRune`'s bytes for each. -/
theorem stringsToLower_eq_flatMap_encodeRune (s : GoString) :
    stringsToLower T.toLowerCase s =
      ((rangeRunes s).map fun p => unicodeToLower T.toLowerCase p.1).flatMap encodeRune := by
  rw [stringsToLower_eq_flatMap, List.flatMap_map]
  exact List.flatMap_congr fun p hp => if_pos (nonneg_of_validRune
    (unicodeToLower_validRune T (validRune_of_mem_rangeRunes hp)).1)

/-- `ToLower` gives a string back exactly when it is valid UTF-8 and every rune
of it is already lower case. -/
theorem stringsToLower_eq_self_iff (s : GoString) :
    stringsToLower T.toLowerCase s = s ↔
      validString s = true ∧ ∀ p ∈ rangeRunes s, unicodeToLower T.toLowerCase p.1 = p.1 := by
  have hwrite := stringsToLower_eq_flatMap_encodeRune T s
  constructor
  · intro h
    have hvalid := validString_flatMap_mappedBytes (unicodeToLower T.toLowerCase) (rangeRunes s)
    rw [← stringsToLower_eq_flatMap, h] at hvalid
    refine ⟨hvalid, fun p hp => ?_⟩
    have hr := congrArg (fun x => (rangeRunes x).map Prod.fst) hwrite
    simp only [h, rangeRunes_flatMap_encodeRune, List.map_map] at hr
    have hp' := List.map_inj_left.mp hr p hp
    simp only [Function.comp_apply,
      (unicodeToLower_validRune T (validRune_of_mem_rangeRunes hp)).1, if_true] at hp'
    exact hp'.symm
  · rintro ⟨hv, hfix⟩
    rw [hwrite, List.map_congr_left hfix]
    exact (reencode_eq_iff_validString s).mpr hv

end

/-- A table that lowers the Latin-1 capitals `U+00C0`–`U+00DE` but `×` by
`0x20`, as `CaseRanges` does, and leaves every other rune alone. -/
def CaseTable.latin1 : CaseTable where
  toLowerCase r := if 0xC0 ≤ r ∧ r ≤ 0xDE ∧ r ≠ 0xD7 then r + 32 else r
  toLowerCase_validRune r _ hr := by
    rw [validRune_iff] at hr ⊢
    dsimp only
    split_ifs <;> omega
  toLowerCase_idem r hr _ := by
    unfold unicodeToLower
    dsimp only
    split_ifs <;> omega

example : stringsToLower CaseTable.latin1.toLowerCase (ofString "ÉTÉ-X") = ofString "été-x" := by
  decide

/-! ## `IsJSONContentType` -/

/-- A content type whose first sixteen bytes are ASCII is JSON exactly when
they spell `application/json` up to case; what follows them does not count. -/
theorem isJSONContentType_iff (L : Lowering) {contentType : GoString}
    (h : IsASCII (contentType.take 16)) :
    isJSONContentType L contentType = true ↔
      (contentType.take 16).map asciiLower = jsonContentType := by
  have hJ : jsonContentType.length = 16 := rfl
  have hX : ((contentType.take 16).map asciiLower).length = min 16 contentType.length := by simp
  conv_lhs => rw [← List.take_append_drop 16 contentType]
  rw [isJSONContentType, L.toLower_ascii_append _ _ h, hasPrefix_iff]
  constructor
  · intro hp
    by_cases hl : 16 ≤ contentType.length
    · rw [List.prefix_iff_eq_take, hJ, List.take_left' (by rw [hX]; omega)] at hp
      exact hp.symm
    · rw [List.drop_eq_nil_of_le (by omega), L.toLower_ascii [] isASCII_nil, List.map_nil,
        List.append_nil] at hp
      have := hp.length_le
      omega
  · intro hX'
    rw [hX']
    exact List.prefix_append _ _

theorem isJSONContentType_iff_example :
    IsASCII ((ofString "Application/JSON; charset=utf-8").take 16) ∧
      (isJSONContentType CaseTable.latin1.lowering (ofString "Application/JSON; charset=utf-8") =
          true ↔
        ((ofString "Application/JSON; charset=utf-8").take 16).map asciiLower = jsonContentType) :=
  ⟨by decide, isJSONContentType_iff CaseTable.latin1.lowering (by decide)⟩

/-- An ASCII string is a prefix of what `EncodeRune` writes for valid runes
exactly when it spells their first runes. -/
theorem isPrefix_flatMap_encodeRune {J : GoString} (hJ : IsASCII J) :
    ∀ {L : List Int}, (∀ l ∈ L, validRune l = true) →
      (J <+: L.flatMap encodeRune ↔ L.take J.length = J.map fun b => (b.toNat : Int)) := by
  induction J with
  | nil => simp
  | cons j J ih =>
      rw [isASCII_cons] at hJ
      have hj : j.toNat < 128 := hJ.1
      intro L hL
      rcases L with _ | ⟨l, L⟩
      · simp
      rw [List.forall_mem_cons] at hL
      obtain ⟨b, rest, he⟩ := List.exists_cons_of_ne_nil (encodeRune_ne_nil l)
      rw [List.flatMap_cons, he, List.cons_append, List.cons_prefix_cons, List.length_cons,
        List.take_succ_cons, List.map_cons, List.cons.injEq]
      by_cases hb : b < 0x80
      · have hl := eq_of_encodeRune_eq_cons hL.1 he hb
        have hrest : rest = [] := by
          rw [hl, encodeRune_of_lt (by omega) (by have : b.toNat < 128 := hb; omega)] at he
          exact (List.cons.inj he).2.symm
        rw [hrest, List.nil_append, ih hJ.2 hL.2, hl]
        exact and_congr (by rw [uint8_eq_iff]; omega) Iff.rfl
      · have hb' : 128 ≤ b.toNat := Nat.not_lt.mp hb
        have hl : 0x80 ≤ l := by
          by_contra hl
          rw [encodeRune_of_lt (nonneg_of_validRune hL.1) (by omega)] at he
          rw [← (List.cons.inj he).1, toNat_toUInt8] at hb'
          omega
        refine iff_of_false (fun h => ?_) (fun h => ?_)
        · rw [uint8_eq_iff] at h; omega
        · omega

/-- With a case table, a content type is JSON exactly when its first sixteen
runes, as the `range` loop reads them, lower one by one to the letters of
`application/json`; a rune beyond ASCII counts when the table lowers it into
ASCII. -/
theorem isJSONContentType_iff_runes (T : CaseTable) (contentType : GoString) :
    isJSONContentType T.lowering contentType = true ↔
      ((rangeRunes contentType).take 16).map (fun p => unicodeToLower T.toLowerCase p.1) =
        jsonContentType.map fun b => (b.toNat : Int) := by
  have hJ : jsonContentType.length = 16 := rfl
  have hv : ∀ l ∈ (rangeRunes contentType).map (fun p => unicodeToLower T.toLowerCase p.1),
      validRune l = true := fun l hl => by
    obtain ⟨p, hp, rfl⟩ := List.mem_map.mp hl
    exact (unicodeToLower_validRune T (validRune_of_mem_rangeRunes hp)).1
  rw [isJSONContentType, hasPrefix_iff]
  change jsonContentType <+: stringsToLower T.toLowerCase contentType ↔ _
  rw [stringsToLower_eq_flatMap_encodeRune T contentType, isPrefix_flatMap_encodeRune (by decide) hv,
    hJ, List.map_take]

/-- `unicode.ToLower` on `İ`, `U+0130`, which `CaseRanges` lowers into ASCII, to
`i`; every other rune is left alone. -/
def CaseTable.dottedI : CaseTable where
  toLowerCase r := if r = 0x130 then 0x69 else r
  toLowerCase_validRune r _ hr := by
    dsimp only
    split_ifs
    · decide
    · exact hr
  toLowerCase_idem r hr _ := by
    unfold unicodeToLower
    dsimp only
    split_ifs <;> omega

example : isJSONContentType CaseTable.dottedI.lowering (ofString "APPL\u0130CATION/JSON") = true := by
  decide

/-! ## `WithCustomGRPCMetadata` -/

/-- A key that `ToLower` lowers to an ASCII string `K` is ASCII itself, when no
rune beyond ASCII lowers to a byte of `K`. -/
theorem isASCII_of_stringsToLower (T : CaseTable) {k K : GoString} (hK : IsASCII K)
    (hT : ∀ r, 0x7F < r → validRune r = true → ∀ b ∈ K, T.toLowerCase r ≠ b.toNat)
    (h : stringsToLower T.toLowerCase k = K) : IsASCII k := by
  refine isASCII_of_rangeRunes fun p hp => ?_
  have hv := validRune_of_mem_rangeRunes hp
  have hlv := (unicodeToLower_validRune T hv).1
  have hsub : ∀ b ∈ encodeRune (unicodeToLower T.toLowerCase p.1), b ∈ K := fun b hb => by
    rw [← h, stringsToLower_eq_flatMap, List.mem_flatMap]
    exact ⟨p, hp, by rwa [mappedBytes, if_pos (nonneg_of_validRune hlv)]⟩
  have hlow := lt_of_isASCII_encodeRune hlv fun b hb => hK b (hsub b hb)
  by_contra hp1
  have h0 := nonneg_of_validRune hlv
  have heq : unicodeToLower T.toLowerCase p.1 = T.toLowerCase p.1 := if_neg (by omega)
  refine hT p.1 (by omega) hv _
    (hsub _ (by rw [encodeRune_of_lt h0 hlow]; exact List.mem_singleton_self _)) ?_
  rw [toNat_toUInt8, ← heq]
  omega

/-- With `strings.ToLower`'s case table lowering no rune beyond ASCII to a letter
of `content-type` or `content-length`, no entry of the map adds a value under
either name, whatever its key's bytes. -/
theorem withCustomGRPCMetadata_content_headers_of_caseTable (T : CaseTable) (F : Folding)
    (outgoing : MD) (md : StringMap) {K : GoString}
    (hK : K = contentTypeHeader ∨ K = contentLengthHeader)
    (hT : ∀ r, 0x7F < r → validRune r = true → ∀ b ∈ K, T.toLowerCase r ≠ b.toNat) :
    (withCustomGRPCMetadata T.lowering F outgoing md).get K = outgoing.get K := by
  have hKA : IsASCII K := by rcases hK with rfl | rfl <;> decide
  rw [withCustomGRPCMetadata_get, customValuesAt, List.filter_filter, List.map_eq_nil_iff.mpr,
    List.append_nil]
  refine List.filter_eq_nil_iff.mpr fun e _ hsel => ?_
  simp only [Bool.and_eq_true, Bool.not_eq_true', decide_eq_true_eq] at hsel
  obtain ⟨hK', hkept⟩ := hsel
  have hlow : T.lowering.toLower e.1 = contentTypeHeader ∨
      T.lowering.toLower e.1 = contentLengthHeader := hK' ▸ hK
  simp [isSkippedCustomKey_of_toLower (isASCII_of_stringsToLower T hKA hT hK') hlow] at hkept

theorem withCustomGRPCMetadata_content_headers_latin1 :
    (∀ r, 0x7F < r → validRune r = true → ∀ b ∈ contentTypeHeader,
        CaseTable.latin1.toLowerCase r ≠ b.toNat) ∧
      (withCustomGRPCMetadata CaseTable.latin1.lowering Folding.ascii MD.empty
          ⟨[(ofString "CÖNTENT-TYPE", ofString "1"), (ofString "Content-Type", ofString "2")],
            by decide⟩).get contentTypeHeader = MD.empty.get contentTypeHeader :=
  have hT : ∀ r, 0x7F < r → validRune r = true → ∀ b ∈ contentTypeHeader,
      CaseTable.latin1.toLowerCase r ≠ b.toNat := fun r hr _ b hb => by
    have hb : b.toNat < 0x80 := (by decide : ∀ b ∈ contentTypeHeader, b.toNat < 0x80) b hb
    show (if 0xC0 ≤ r ∧ r ≤ 0xDE ∧ r ≠ 0xD7 then r + 32 else r) ≠ b.toNat
    split_ifs <;> omega
  ⟨hT, withCustomGRPCMetadata_content_headers_of_caseTable _ _ _ _ (.inl rfl) hT⟩

end DaprMessaging
