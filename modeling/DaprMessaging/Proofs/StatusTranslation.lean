import DaprMessaging.Status

/-!
# Status translation

The two code mappings first.  `codes.Code` is a `uint32`, and the switch of
`HTTPStatusFromCode` sends every code it does not name to `500`
(`httpStatusFromCode_of_not_mem`).  The mappings are not inverse: going from a
gRPC code to an HTTP status and back keeps exactly eleven codes, the named
ones whose status no other code shares
(`codeFromHTTPStatus_httpStatusFromCode`); five codes are never the image of
an HTTP status (`codeFromHTTPStatus_not_mem`); and from the HTTP side a status
goes to `200`, to itself, or to `500` (`httpStatusFromCode_codeFromHTTPStatus`).

Then `errorFromHTTPResponseCode_result`, the function's result for every code
and detail: `nil` exactly for a `2xx` code, and otherwise the status with code
`CodeFromHTTPStatus(code)` and the reason phrase as message, carrying the
`ErrorInfo` exactly when the detail cut to 63 bytes is valid UTF-8.

Every other string of the `ErrorInfo` is ASCII (the reason phrases, the
decimal text of the code, the domain and the metadata keys), so the cut
detail alone decides whether `WithDetails` succeeds.  The cut is by bytes,
where the comment above it speaks of characters: a valid detail keeps its
`ErrorInfo` when the cut falls before a byte that does not continue a
character (`errorFromHTTPResponseCode_keeps_error_info`), and loses it when
the cut splits a character (`errorFromHTTPResponseCode_drops_error_info`).
-/

namespace DaprMessaging

open GoString

/-! ## The two code mappings -/

example : codeFromHTTPStatus (httpStatusFromCode ⟨17⟩) = .unknown := by decide

/-- No HTTP status translates to these five codes. -/
theorem codeFromHTTPStatus_not_mem (httpStatusCode : Int) :
    codeFromHTTPStatus httpStatusCode ∉
      [.invalidArgument, .failedPrecondition, .aborted, .outOfRange, .dataLoss] := by
  unfold codeFromHTTPStatus
  split_ifs
  · decide
  · split <;> decide

/-- From the HTTP side: a `2xx` status comes back as `200`, a status of the
table other than `400` as itself, and every other status as `500`. -/
theorem httpStatusFromCode_codeFromHTTPStatus (httpStatusCode : Int) :
    httpStatusFromCode (codeFromHTTPStatus httpStatusCode) =
      if 200 ≤ httpStatusCode ∧ httpStatusCode < 300 then 200
      else if httpStatusCode ∈ [408, 504, 404, 409, 403, 401, 429, 501, 503] then httpStatusCode
      else 500 := by
  unfold codeFromHTTPStatus
  by_cases h2xx : 200 ≤ httpStatusCode ∧ httpStatusCode < 300
  · rw [if_pos h2xx, if_pos h2xx]
    rfl
  · rw [if_neg h2xx, if_neg h2xx]
    split
    all_goals first
      | decide
      | (simp only [imp_false] at *
         rw [if_neg (by simp only [List.mem_cons, List.mem_singleton, List.not_mem_nil, or_false]; omega)]
         rfl)

/-! ## Cutting UTF-8 -/

theorem mem_of_ite {α : Type} {c : Prop} [Decidable c] {a b : α} {l : List α} (ha : a ∈ l)
    (hb : b ∈ l) : (if c then a else b) ∈ l := by
  by_cases hc : c
  · rwa [if_pos hc]
  · rwa [if_neg hc]

/-- The classes of lead bytes: how many continuation bytes each owes and the
range of the first of them (Go's `acceptRanges`), and `none`. -/
def leadByteClasses : List (Option (Nat × UInt8 × UInt8)) :=
  [none, some (0, 0x80, 0xBF), some (1, 0x80, 0xBF), some (2, 0xA0, 0xBF), some (2, 0x80, 0xBF),
    some (2, 0x80, 0x9F), some (3, 0x90, 0xBF), some (3, 0x80, 0xBF), some (3, 0x80, 0x8F)]

theorem leadByte_mem_leadByteClasses (b : UInt8) : leadByte b ∈ leadByteClasses := by
  unfold leadByte
  repeat' apply mem_of_ite
  all_goals decide

/-- The first continuation byte always lies among the continuation bytes. -/
theorem leadByte_range {b : UInt8} {owed : Nat} {lo hi : UInt8}
    (h : leadByte b = some (owed, lo, hi)) : 0x80 ≤ lo ∧ hi ≤ 0xBF := by
  have hclasses : ∀ r ∈ leadByteClasses,
      r.all fun t : Nat × UInt8 × UInt8 => decide (0x80 ≤ t.2.1 ∧ t.2.2 ≤ 0xBF) := by
    decide
  simpa [h] using hclasses _ (leadByte_mem_leadByteClasses b)

/-- A string that is valid with `owed` continuation bytes still due stays
valid when cut before a byte that is not a continuation byte: the cut falls
between two characters. -/
theorem validFrom_take {owed : Nat} {lo hi : UInt8} (hlo : 0x80 ≤ lo) (hhi : hi ≤ 0xBF)
    {s : GoString} {n : Nat} (hs : validFrom owed lo hi s = true)
    (hcut : ∀ b, s[n]? = some b → b < 0x80 ∨ 0xBF < b) : validFrom owed lo hi (s.take n) = true := by
  induction s generalizing owed lo hi n with
  | nil => simpa using hs
  | cons b s ih =>
      cases n with
      | zero =>
          cases owed with
          | zero => rfl
          | succ owed =>
              rw [validFrom_succ_cons] at hs
              simp only [Bool.and_eq_true, decide_eq_true_eq] at hs
              have hb := hcut b (by simp)
              simp only [UInt8.le_def, UInt8.lt_def] at hs hb hlo hhi
              bv_omega
      | succ n =>
          have hcut' : ∀ c, s[n]? = some c → c < 0x80 ∨ 0xBF < c :=
            fun c hc => hcut c (by simpa using hc)
          rw [List.take_succ_cons]
          cases owed with
          | zero =>
              rw [validFrom_zero_cons] at hs ⊢
              rcases hlead : leadByte b with _ | ⟨owed', lo', hi'⟩ <;> rw [hlead] at hs
              · exact hs
              · exact ih (leadByte_range hlead).1 (leadByte_range hlead).2 hs hcut'
          | succ owed =>
              rw [validFrom_succ_cons] at hs ⊢
              simp only [Bool.and_eq_true] at hs ⊢
              exact ⟨hs.1, ih (by decide) (by decide) hs.2 hcut'⟩

theorem validString_take {s : GoString} {n : Nat} (hs : validString s = true)
    (hcut : ∀ b, s[n]? = some b → b < 0x80 ∨ 0xBF < b) : validString (s.take n) = true :=
  validFrom_take (by decide) (by decide) hs hcut

/-- A continuation byte starts no character. -/
theorem leadByte_of_continuation {b : UInt8} (hlo : 0x80 ≤ b) (hhi : b ≤ 0xBF) :
    leadByte b = none := by
  have hnat : ∀ c : UInt8, (b ≤ c ↔ b.toNat ≤ c.toNat) ∧ (c ≤ b ↔ c.toNat ≤ b.toNat) ∧
      (b < c ↔ b.toNat < c.toNat) ∧ (b = c ↔ b.toNat = c.toNat) :=
    fun c => ⟨Iff.rfl, Iff.rfl, Iff.rfl, ⟨congrArg _, UInt8.toNat.inj⟩⟩
  have hb : 128 ≤ b.toNat ∧ b.toNat ≤ 191 := ⟨(hnat 0x80).2.1.mp hlo, (hnat 0xBF).1.mp hhi⟩
  unfold leadByte
  repeat rw [if_neg (by simp only [hnat, UInt8.reduceToNat]; omega)]

/-- A valid string cut before a continuation byte is not valid: the cut falls
inside a character, which is left without its last bytes. -/
theorem validFrom_take_of_continuation {owed : Nat} {lo hi : UInt8} {s : GoString} {n : Nat}
    {b : UInt8} (hs : validFrom owed lo hi s = true) (hb : s[n]? = some b) (hlo : 0x80 ≤ b)
    (hhi : b ≤ 0xBF) : validFrom owed lo hi (s.take n) = false := by
  induction s generalizing owed lo hi n with
  | nil => simp at hb
  | cons c s ih =>
      cases n with
      | zero =>
          obtain rfl : c = b := by simpa using hb
          cases owed with
          | zero => simp [leadByte_of_continuation hlo hhi] at hs
          | succ owed => rfl
      | succ n =>
          rw [List.take_succ_cons]
          cases owed with
          | zero =>
              rw [validFrom_zero_cons] at hs ⊢
              rcases hlead : leadByte c with _ | ⟨owed', lo', hi'⟩
              · rfl
              · rw [hlead] at hs
                exact ih hs (by simpa using hb)
          | succ owed =>
              rw [validFrom_succ_cons] at hs ⊢
              simp only [Bool.and_eq_true] at hs
              simp [ih hs.2 (by simpa using hb)]

/-! ## The strings of the `ErrorInfo` other than the detail -/

theorem statusTexts_isASCII : ∀ p ∈ statusTexts, IsASCII (ofString p.2) := by
  have hchars : ∀ p ∈ statusTexts, p.2.data.all fun c => c.toNat < 128 := by decide
  exact fun p hp => isASCII_ofString (hchars p hp)

theorem statusText_isASCII (code : Int) : IsASCII (statusText code) := by
  unfold statusText
  split
  · next heq => exact statusTexts_isASCII _ (List.mem_of_find?_eq_some heq)
  · exact fun _ hb => absurd hb (List.not_mem_nil _)

theorem digitByte_lt {d : Nat} (hd : d < 10) : digitByte d < 0x80 := by
  have hdigits : ∀ d < 10, digitByte d < 0x80 := by decide
  exact hdigits d hd

theorem decimalDigits_isASCII (fuel n : Nat) {acc : GoString} (hacc : IsASCII acc) :
    IsASCII (decimalDigits fuel n acc) := by
  induction fuel generalizing n acc with
  | zero => exact hacc
  | succ fuel ih =>
      unfold decimalDigits
      split_ifs with hn
      · exact List.forall_mem_cons.mpr ⟨digitByte_lt hn, hacc⟩
      · exact ih _ (List.forall_mem_cons.mpr ⟨digitByte_lt (Nat.mod_lt _ (by decide)), hacc⟩)

theorem itoa_isASCII (n : Int) : IsASCII (itoa n) := by
  have hdigits : IsASCII (decimalDigits (n.natAbs + 1) n.natAbs []) :=
    decimalDigits_isASCII _ _ (by decide)
  unfold itoa
  split_ifs
  · exact List.forall_mem_cons.mpr ⟨by decide, hdigits⟩
  · exact hdigits

/-- Only the detail can keep the `ErrorInfo` from marshalling. -/
theorem marshals_errorInfo (code : Int) (detail : GoString) :
    ErrorInfo.marshals ⟨statusText code, errorInfoDomain,
      [(errorInfoHTTPCodeMetadata, itoa code), (errorInfoHTTPErrorMetadata, detail)]⟩ =
      validString detail := by
  have hconst : validString errorInfoDomain = true ∧ validString errorInfoHTTPCodeMetadata = true ∧
      validString errorInfoHTTPErrorMetadata = true := by decide
  simp [ErrorInfo.marshals, hconst, validString_of_isASCII (statusText_isASCII code),
    validString_of_isASCII (itoa_isASCII code)]

/-! ## The result -/

theorem codeFromHTTPStatus_eq_ok_iff (code : Int) :
    codeFromHTTPStatus code = .ok ↔ 200 ≤ code ∧ code < 300 := by
  unfold codeFromHTTPStatus
  split_ifs with h
  · simp [h]
  · simp only [h, iff_false]
    split <;> decide

theorem errorFromHTTPResponseCode_eq_none_iff (code : Int) (detail : GoString) :
    errorFromHTTPResponseCode code detail = none ↔ 200 ≤ code ∧ code < 300 := by
  rw [← codeFromHTTPStatus_eq_ok_iff]
  by_cases h : codeFromHTTPStatus code = .ok
  · simp [errorFromHTTPResponseCode, h]
  · simp only [errorFromHTTPResponseCode, h, ↓reduceIte, iff_false]
    split <;> simp

theorem errorFromHTTPResponseCode_eq_some (code : Int) (detail : GoString)
    (h2xx : ¬ (200 ≤ code ∧ code < 300)) :
    errorFromHTTPResponseCode code detail = some
      ⟨codeFromHTTPStatus code, statusText code,
        if validString (detail.take maxMetadataValueLen) then
          [⟨statusText code, errorInfoDomain, [(errorInfoHTTPCodeMetadata, itoa code),
            (errorInfoHTTPErrorMetadata, detail.take maxMetadataValueLen)]⟩]
        else []⟩ := by
  have hcode : codeFromHTTPStatus code ≠ .ok := by rwa [Ne, codeFromHTTPStatus_eq_ok_iff]
  have htrunc : (if detail.length ≥ maxMetadataValueLen then detail.take maxMetadataValueLen
      else detail) = detail.take maxMetadataValueLen := by
    split_ifs with hlen
    · rfl
    · exact (List.take_of_length_le (by omega)).symm
  simp only [errorFromHTTPResponseCode, hcode, ↓reduceIte, htrunc, Status.withDetails, Status.new,
    marshals_errorInfo]
  split_ifs <;> rfl

/-- `ErrorFromHTTPResponseCode` returns `nil` exactly for a `2xx` code;
otherwise its status carries the `ErrorInfo` exactly when the detail, cut to
63 bytes, is valid UTF-8. -/
theorem errorFromHTTPResponseCode_result (code : Int) (detail : GoString) :
    (errorFromHTTPResponseCode code detail = none ↔ 200 ≤ code ∧ code < 300) ∧
      (¬ (200 ≤ code ∧ code < 300) →
        errorFromHTTPResponseCode code detail = some
          ⟨codeFromHTTPStatus code, statusText code,
            if validString (detail.take maxMetadataValueLen) then
              [⟨statusText code, errorInfoDomain, [(errorInfoHTTPCodeMetadata, itoa code),
                (errorInfoHTTPErrorMetadata, detail.take maxMetadataValueLen)]⟩]
            else []⟩) :=
  ⟨errorFromHTTPResponseCode_eq_none_iff code detail, errorFromHTTPResponseCode_eq_some code detail⟩

/-- The cut is by bytes: when it falls inside a character of a valid detail,
the cut detail is not valid UTF-8 and the error comes back without its
`ErrorInfo`, though the whole detail would have marshalled. -/
theorem errorFromHTTPResponseCode_drops_error_info (code : Int) (detail : GoString)
    (h2xx : ¬ (200 ≤ code ∧ code < 300)) (hvalid : validString detail = true)
    (hsplit : ∃ b, detail[maxMetadataValueLen]? = some b ∧ 0x80 ≤ b ∧ b ≤ 0xBF) :
    errorFromHTTPResponseCode code detail =
      some (Status.new (codeFromHTTPStatus code) (statusText code)) := by
  obtain ⟨b, hb, hlo, hhi⟩ := hsplit
  have hcut : validString (detail.take maxMetadataValueLen) = false :=
    validFrom_take_of_continuation hvalid hb hlo hhi
  rw [errorFromHTTPResponseCode_eq_some code detail h2xx, hcut]
  rfl

/-- A valid detail of 62 `a`s and an `é` (`C3 A9`): the cut at 63 bytes keeps
half of the `é`. -/
theorem errorFromHTTPResponseCode_drops_error_info_example :
    ¬ (200 ≤ (404 : Int) ∧ (404 : Int) < 300) ∧
      validString (List.replicate 62 97 ++ [0xC3, 0xA9]) = true ∧
      (∃ b, (List.replicate 62 97 ++ [0xC3, 0xA9] : GoString)[maxMetadataValueLen]? = some b ∧
        0x80 ≤ b ∧ b ≤ 0xBF) ∧
      errorFromHTTPResponseCode 404 (List.replicate 62 97 ++ [0xC3, 0xA9]) =
        some (Status.new (codeFromHTTPStatus 404) (statusText 404)) :=
  ⟨by decide, by decide, ⟨0xA9, rfl, by decide, by decide⟩,
    errorFromHTTPResponseCode_drops_error_info 404 _ (by decide) (by decide)
      ⟨0xA9, rfl, by decide, by decide⟩⟩

/-- A valid detail keeps its `ErrorInfo` when the cut at 63 bytes falls
between two characters. -/
theorem errorFromHTTPResponseCode_keeps_error_info (code : Int) (detail : GoString)
    (h2xx : ¬ (200 ≤ code ∧ code < 300)) (hvalid : validString detail = true)
    (hcut : ∀ b, detail[maxMetadataValueLen]? = some b → b < 0x80 ∨ 0xBF < b) :
    errorFromHTTPResponseCode code detail = some
      ⟨codeFromHTTPStatus code, statusText code,
        [⟨statusText code, errorInfoDomain, [(errorInfoHTTPCodeMetadata, itoa code),
          (errorInfoHTTPErrorMetadata, detail.take maxMetadataValueLen)]⟩]⟩ := by
  rw [errorFromHTTPResponseCode_eq_some code detail h2xx, if_pos (validString_take hvalid hcut)]

theorem errorFromHTTPResponseCode_keeps_error_info_example :
    let detail : GoString := List.replicate 100 97
    ¬ (200 ≤ (404 : Int) ∧ (404 : Int) < 300) ∧ validString detail = true ∧
      (∀ b, detail[maxMetadataValueLen]? = some b → b < 0x80 ∨ 0xBF < b) ∧
      errorFromHTTPResponseCode 404 detail = some
        ⟨codeFromHTTPStatus 404, statusText 404,
          [⟨statusText 404, errorInfoDomain, [(errorInfoHTTPCodeMetadata, itoa 404),
            (errorInfoHTTPErrorMetadata, detail.take maxMetadataValueLen)]⟩]⟩ :=
  ⟨by decide, by decide, by decide,
    errorFromHTTPResponseCode_keeps_error_info 404 _ (by decide) (by decide) (by decide)⟩

end DaprMessaging
