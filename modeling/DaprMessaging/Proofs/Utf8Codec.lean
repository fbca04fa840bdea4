import DaprMessaging.Utf8

/-!
# The UTF-8 codec

Facts about Go's decoders and encoder that `strings.Map` and `strings.ToLower`
rest on.

* `decoderune_eq_decodeRune`: the runtime's `decoderune`, which checks the
  decoded value, and `DecodeRuneInString`, which checks the lead byte's table,
  agree on every string that starts beyond ASCII; so the `range` loop visits
  the runes `DecodeRuneInString` reads one after another (`rangeRunes_cons`),
  and `rangeRunes_induction` is induction along the loop.
* `DecodesAs`: what a decoder returns, `RuneError` of width one or a code point
  whose encoding is the bytes it read (`decodeRune_decodesAs`).
* Decoding what `EncodeRune` wrote gives the runes back, an invalid one as
  `RuneError` (`rangeRunes_flatMap_encodeRune`); writing back what the loop
  read gives the string back exactly when it is valid UTF-8
  (`reencode_eq_iff_validString`), and what `EncodeRune` writes for a rune is
  valid whatever follows (`validString_encodeRune_append`).
-/

namespace DaprMessaging

/-! ## Bytes -/

theorem uint8_le_iff {a b : UInt8} : a ≤ b ↔ a.toNat ≤ b.toNat := Iff.rfl
theorem uint8_lt_iff {a b : UInt8} : a < b ↔ a.toNat < b.toNat := Iff.rfl

theorem uint8_ofNat_toNat (b : UInt8) : UInt8.ofNat b.toNat = b :=
  UInt8.toNat.inj (UInt8.toNat_ofNat_of_lt b.toNat_lt_size)

theorem uint8_eq_iff {a b : UInt8} : a = b ↔ a.toNat = b.toNat := ⟨congrArg _, UInt8.toNat.inj⟩

@[simp] theorem toNat_toUInt8 (n : Nat) : n.toUInt8.toNat = n % 256 := rfl

theorem uint8_toNat_add (a b : UInt8) : (a + b).toNat = (a.toNat + b.toNat) % 256 :=
  BitVec.toNat_add _ _

theorem uint8_not_le {a b : UInt8} : ¬ a ≤ b ↔ b < a := Nat.not_le

/-- `b|c >= RuneSelf` tests both bytes at once: bit 7 is set in the `or` exactly
when it is set in either. -/
theorem uint8_or_ge_iff {a b : UInt8} : 0x80 ≤ a ||| b ↔ 0x80 ≤ a ∨ 0x80 ≤ b := by
  have ha : a.toNat < 2 ^ 8 := a.toNat_lt_size
  have hb : b.toNat < 2 ^ 8 := b.toNat_lt_size
  have bit7 : ∀ x < 2 ^ 8, 128 ≤ x ↔ x.testBit 7 = true := fun x hx => by
    rw [Nat.testBit_to_div_mod, decide_eq_true_iff]; omega
  show 128 ≤ a.toNat ||| b.toNat ↔ 128 ≤ a.toNat ∨ 128 ≤ b.toNat
  rw [bit7 _ (Nat.or_lt_two_pow ha hb), bit7 _ ha, bit7 _ hb, Nat.testBit_or, Bool.or_eq_true]

/-! ## Two decoders -/

/-- The lead-byte classes beyond ASCII by width, with the first continuation
byte's range. -/
theorem leadByte_of_ge {b : UInt8} (hb : 0x80 ≤ b.toNat) :
    leadByte b =
      if 0xC2 ≤ b.toNat ∧ b.toNat ≤ 0xDF then some (1, 0x80, 0xBF)
      else if 0xE0 ≤ b.toNat ∧ b.toNat ≤ 0xEF then
        some (2, if b.toNat = 0xE0 then 0xA0 else 0x80, if b.toNat = 0xED then 0x9F else 0xBF)
      else if 0xF0 ≤ b.toNat ∧ b.toNat ≤ 0xF4 then
        some (3, if b.toNat = 0xF0 then 0x90 else 0x80, if b.toNat = 0xF4 then 0x8F else 0xBF)
      else none := by
  have hall : ∀ m < 128, let n := 0x80 + m
      leadByte (UInt8.ofNat n) =
        if 0xC2 ≤ n ∧ n ≤ 0xDF then some (1, 0x80, 0xBF)
        else if 0xE0 ≤ n ∧ n ≤ 0xEF then
          some (2, if n = 0xE0 then 0xA0 else 0x80, if n = 0xED then 0x9F else 0xBF)
        else if 0xF0 ≤ n ∧ n ≤ 0xF4 then
          some (3, if n = 0xF0 then 0x90 else 0x80, if n = 0xF4 then 0x8F else 0xBF)
        else none := by decide
  have h := hall (b.toNat - 0x80) (by have : b.toNat < 256 := b.toNat_lt_size; omega)
  simp only [Nat.add_sub_cancel' hb, uint8_ofNat_toNat] at h
  exact h

section
variable {b : UInt8}

theorem decoderune_eq_decodeRune_two (h2 : 0xC0 ≤ b.toNat ∧ b.toNat ≤ 0xDF) (s : GoString) :
    decoderune (b :: s) = decodeRune (b :: s) := by
  have hlead := leadByte_of_ge (show 0x80 ≤ b.toNat by omega)
  have hclass : 192 ≤ b.toNat ∧ b.toNat < 224 := by omega
  by_cases hc : 0xC2 ≤ b.toNat
  · rw [if_pos ⟨hc, h2.2⟩] at hlead
    rcases s with _ | ⟨c1, t⟩ <;>
      simp only [decoderune, decodeRune, hlead, isContinuation, uint8_le_iff, uint8_lt_iff,
        UInt8.reduceToNat, Bool.and_eq_true, decide_eq_true_eq, if_pos hclass]
    exact if_congr (by omega) rfl rfl
  · rw [if_neg (by omega), if_neg (by omega), if_neg (by omega)] at hlead
    rcases s with _ | ⟨c1, t⟩ <;>
      simp only [decoderune, decodeRune, hlead, uint8_le_iff, uint8_lt_iff, UInt8.reduceToNat,
        if_pos hclass]
    rw [if_neg (by omega)]

theorem decoderune_eq_decodeRune_three (h3 : 0xE0 ≤ b.toNat ∧ b.toNat ≤ 0xEF) (s : GoString) :
    decoderune (b :: s) = decodeRune (b :: s) := by
  have hlead := leadByte_of_ge (show 0x80 ≤ b.toNat by omega)
  rw [if_neg (by omega), if_pos h3] at hlead
  have hnot2 : ¬(192 ≤ b.toNat ∧ b.toNat < 224) := by omega
  have hclass : 224 ≤ b.toNat ∧ b.toNat < 240 := by omega
  rcases s with _ | ⟨c1, _ | ⟨c2, t⟩⟩ <;>
    simp only [decoderune, decodeRune, hlead, isContinuation, uint8_le_iff, uint8_lt_iff,
      UInt8.reduceToNat, Bool.and_eq_true, decide_eq_true_eq, if_neg hnot2, if_pos hclass]
  refine if_congr ?_ rfl rfl
  split_ifs <;> simp only [UInt8.reduceToNat] <;> omega

theorem decoderune_eq_decodeRune_four (h4 : 0xF0 ≤ b.toNat ∧ b.toNat ≤ 0xF7) (s : GoString) :
    decoderune (b :: s) = decodeRune (b :: s) := by
  have hlead := leadByte_of_ge (show 0x80 ≤ b.toNat by omega)
  rw [if_neg (by omega), if_neg (by omega)] at hlead
  have hnot2 : ¬(192 ≤ b.toNat ∧ b.toNat < 224) := by omega
  have hnot3 : ¬(224 ≤ b.toNat ∧ b.toNat < 240) := by omega
  have hclass : 240 ≤ b.toNat ∧ b.toNat < 248 := by omega
  by_cases hc : b.toNat ≤ 0xF4
  · rw [if_pos ⟨h4.1, hc⟩] at hlead
    rcases s with _ | ⟨c1, _ | ⟨c2, _ | ⟨c3, t⟩⟩⟩ <;>
      simp only [decoderune, decodeRune, hlead, isContinuation, uint8_le_iff, uint8_lt_iff,
        UInt8.reduceToNat, Bool.and_eq_true, decide_eq_true_eq, if_neg hnot2, if_neg hnot3,
        if_pos hclass]
    refine if_congr ?_ rfl rfl
    split_ifs <;> simp only [UInt8.reduceToNat] <;> omega
  · rw [if_neg (by omega)] at hlead
    rcases s with _ | ⟨c1, _ | ⟨c2, _ | ⟨c3, t⟩⟩⟩ <;>
      simp only [decoderune, decodeRune, hlead, uint8_le_iff, uint8_lt_iff, UInt8.reduceToNat,
        if_neg hnot2, if_neg hnot3, if_pos hclass]
    rw [if_neg (by omega)]

theorem decoderune_eq_decodeRune_invalid (hb : 0x80 ≤ b.toNat)
    (h : b.toNat < 0xC0 ∨ 0xF8 ≤ b.toNat) (s : GoString) :
    decoderune (b :: s) = decodeRune (b :: s) := by
  have hlead := leadByte_of_ge hb
  rw [if_neg (by omega), if_neg (by omega), if_neg (by omega)] at hlead
  rcases s with _ | ⟨c1, t⟩ <;>
    simp only [decoderune, decodeRune, hlead, uint8_le_iff, uint8_lt_iff, UInt8.reduceToNat]
  rw [if_neg (by omega), if_neg (by omega), if_neg (by omega)]

end

/-- The runtime's decoder and `DecodeRuneInString` decode every string that
starts beyond ASCII alike. -/
theorem decoderune_eq_decodeRune {b : UInt8} (hb : 0x80 ≤ b) (s : GoString) :
    decoderune (b :: s) = decodeRune (b :: s) := by
  simp only [uint8_le_iff, UInt8.reduceToNat] at hb
  have hx : b.toNat < 256 := b.toNat_lt_size
  rcases (by omega : b.toNat < 0xC0 ∨ 0xF8 ≤ b.toNat ∨ (0xC0 ≤ b.toNat ∧ b.toNat ≤ 0xDF) ∨
      (0xE0 ≤ b.toNat ∧ b.toNat ≤ 0xEF) ∨ (0xF0 ≤ b.toNat ∧ b.toNat ≤ 0xF7)) with h | h | h | h | h
  · exact decoderune_eq_decodeRune_invalid hb (.inl h) s
  · exact decoderune_eq_decodeRune_invalid hb (.inr h) s
  · exact decoderune_eq_decodeRune_two h s
  · exact decoderune_eq_decodeRune_three h s
  · exact decoderune_eq_decodeRune_four h s

/-- `DecodeRuneInString` reads between one and four bytes of a non-empty string. -/
theorem decodeRune_width (b : UInt8) (s : GoString) :
    1 ≤ (decodeRune (b :: s)).2 ∧ (decodeRune (b :: s)).2 ≤ 4 ∧
      (decodeRune (b :: s)).2 ≤ s.length + 1 := by
  simp only [decodeRune]
  split <;> (try split) <;> simp

theorem rangeStep_eq_decodeRune (b : UInt8) (s : GoString) :
    rangeStep b s = decodeRune (b :: s) := by
  by_cases hb : b < 0x80
  · have hlead : leadByte b = some (0, 0x80, 0xBF) := by simp [leadByte, hb]
    simp [rangeStep, decodeRune, hlead, hb]
  · have hge : (0x80 : UInt8) ≤ b := by rw [uint8_lt_iff] at hb; exact uint8_le_iff.mpr (by omega)
    rw [rangeStep, if_neg hb, decoderune_eq_decodeRune hge]

/-- `decoderune` never returns a rune below `RuneSelf`: it is called on a byte
beyond ASCII, and rejects a value too small for its width. -/
theorem decoderune_fst_ge (s : GoString) : 0x80 ≤ (decoderune s).1 := by
  have he : (0x80 : Int) ≤ runeError := by decide
  unfold decoderune
  split
  · dsimp only
    split_ifs <;> (try split) <;> (try dsimp only) <;> (try split_ifs) <;>
      first | exact he | omega
  · exact he

/-! ## The `range` loop -/

/-- With fuel for every byte, the loop runs to the end whatever the fuel. -/
theorem rangeLoop_eq_of_le (n m : Nat) (s : GoString) (hn : s.length ≤ n) (hm : s.length ≤ m) :
    rangeLoop n s = rangeLoop m s := by
  induction n generalizing m s with
  | zero =>
      obtain rfl : s = [] := List.eq_nil_of_length_eq_zero (by omega)
      cases m <;> rfl
  | succ n ih =>
      rcases s with _ | ⟨b, s⟩
      · cases m <;> rfl
      · obtain ⟨m, rfl⟩ : ∃ m', m = m' + 1 := ⟨m - 1, by simp only [List.length_cons] at hm; omega⟩
        have hw := decodeRune_width b s
        rw [← rangeStep_eq_decodeRune] at hw
        simp only [rangeLoop]
        generalize rangeStep b s = st at hw ⊢
        obtain ⟨r, w⟩ := st
        simp only [List.length_cons] at hw hn hm
        exact congrArg _ (ih _ _ (by simp only [List.length_drop, List.length_cons]; omega)
          (by simp only [List.length_drop, List.length_cons]; omega))

/-- The `range` loop visits the runes `DecodeRuneInString` decodes one after
another, each with the bytes it reads. -/
theorem rangeRunes_cons (b : UInt8) (s : GoString) :
    rangeRunes (b :: s) =
      ((decodeRune (b :: s)).1, (b :: s).take (decodeRune (b :: s)).2) ::
        rangeRunes ((b :: s).drop (decodeRune (b :: s)).2) := by
  have hw := decodeRune_width b s
  rw [rangeRunes, List.length_cons, rangeLoop, rangeStep_eq_decodeRune]
  generalize decodeRune (b :: s) = d at hw ⊢
  obtain ⟨r, w⟩ := d
  exact congrArg _
    (rangeLoop_eq_of_le _ _ _ (by simp only [List.length_drop, List.length_cons]; omega) le_rfl)

@[simp] theorem rangeRunes_nil : rangeRunes [] = [] := rfl

/-- Induction along the `range` loop: a property of the rest after each rune
is one of the whole string. -/
theorem rangeRunes_induction {P : GoString → Prop} (nil : P [])
    (cons : ∀ b s, P ((b :: s).drop (decodeRune (b :: s)).2) → P (b :: s)) (s : GoString) :
    P s := by
  obtain ⟨n, hs⟩ : ∃ n, s.length = n := ⟨_, rfl⟩
  induction n using Nat.strong_induction_on generalizing s with
  | _ n ih =>
      rcases s with _ | ⟨b, s⟩
      · exact nil
      · have hw := (decodeRune_width b s).1
        exact cons b s (ih _ (by simp only [List.length_cons, List.length_drop] at hs ⊢; omega) _ rfl)

/-- The bytes of the runes the loop visits are the string. -/
theorem rangeRunes_flatMap_bytes (s : GoString) : (rangeRunes s).flatMap Prod.snd = s := by
  induction s using rangeRunes_induction with
  | nil => rfl
  | cons b s ih => rw [rangeRunes_cons, List.flatMap_cons, ih, List.take_append_drop]

@[simp] theorem isASCII_nil : IsASCII [] := List.forall_mem_nil _

@[simp] theorem isASCII_cons {c : UInt8} {s : GoString} : IsASCII (c :: s) ↔ c < 0x80 ∧ IsASCII s :=
  List.forall_mem_cons

theorem decodeRune_of_lt {b : UInt8} (hb : b < 0x80) (s : GoString) :
    decodeRune (b :: s) = ((b.toNat : Int), 1) := by
  rw [← rangeStep_eq_decodeRune, rangeStep, if_pos hb]

/-- The `range` loop reads every ASCII byte as a rune of its own. -/
theorem rangeRunes_ascii_append {a : GoString} (ha : IsASCII a) (t : GoString) :
    rangeRunes (a ++ t) = a.map (fun b => ((b.toNat : Int), [b])) ++ rangeRunes t := by
  induction a with
  | nil => rfl
  | cons b a ih =>
      rw [isASCII_cons] at ha
      rw [List.cons_append, rangeRunes_cons, decodeRune_of_lt ha.1, List.take_succ_cons,
        List.take_zero, List.drop_succ_cons, List.drop_zero, ih ha.2, List.map_cons,
        List.cons_append]

/-- A string whose runes are all below `RuneSelf` is ASCII. -/
theorem isASCII_of_rangeRunes {s : GoString} (h : ∀ p ∈ rangeRunes s, p.1 < 0x80) : IsASCII s := by
  induction s using rangeRunes_induction with
  | nil => exact isASCII_nil
  | cons b s ih =>
      rw [rangeRunes_cons, List.forall_mem_cons] at h
      have hb : b < 0x80 := by
        by_contra hb
        rw [uint8_lt_iff, Nat.not_lt] at hb
        have := decoderune_fst_ge (b :: s)
        rw [decoderune_eq_decodeRune hb] at this
        exact absurd h.1 (by omega)
      rw [decodeRune_of_lt hb] at h ih
      exact isASCII_cons.mpr ⟨hb, ih h.2⟩

/-! ## The encoder -/

theorem validRune_iff (r : Int) :
    validRune r = true ↔ 0 ≤ r ∧ r < 0xD800 ∨ 0xDFFF < r ∧ r ≤ 0x10FFFF := by
  simp [validRune, maxRune]

theorem encodeRune_one {n : Nat} (h : n ≤ 0x7F) : encodeRune n = [n.toUInt8] := by
  rw [encodeRune]; split_ifs <;> first | omega | simp

theorem encodeRune_two {n : Nat} (h : 0x7F < n ∧ n ≤ 0x7FF) :
    encodeRune n = [(0xC0 + n / 64).toUInt8, (0x80 + n % 64).toUInt8] := by
  rw [encodeRune]; split_ifs <;> first | omega | simp

theorem encodeRune_three {n : Nat} (h : 0x7FF < n ∧ n ≤ 0xFFFF) (hs : ¬(0xD800 ≤ n ∧ n ≤ 0xDFFF)) :
    encodeRune n =
      [(0xE0 + n / 4096).toUInt8, (0x80 + n / 64 % 64).toUInt8, (0x80 + n % 64).toUInt8] := by
  rw [encodeRune]; split_ifs <;> first | omega | simp

theorem encodeRune_four {n : Nat} (h : 0xFFFF < n ∧ n ≤ 0x10FFFF) :
    encodeRune n =
      [(0xF0 + n / 262144).toUInt8, (0x80 + n / 4096 % 64).toUInt8,
        (0x80 + n / 64 % 64).toUInt8, (0x80 + n % 64).toUInt8] := by
  rw [encodeRune, maxRune]; split_ifs <;> first | omega | simp

theorem encodeRune_of_not_validRune {r : Int} (h : validRune r = false) :
    encodeRune r = [0xEF, 0xBF, 0xBD] := by
  have h' := (validRune_iff r).not.mp (by simp [h])
  rw [encodeRune, maxRune]; split_ifs <;> first | omega | rfl

theorem encodeRune_runeError : encodeRune runeError = [0xEF, 0xBF, 0xBD] := by decide

theorem encodeRune_ne_nil (r : Int) : encodeRune r ≠ [] := by
  unfold encodeRune; split_ifs <;> simp

/-- `EncodeRune` writes the same bytes for a rune and for what the decoder
reads back from them. -/
theorem encodeRune_validate (r : Int) :
    encodeRune (if validRune r then r else runeError) = encodeRune r := by
  cases hv : validRune r
  · rw [if_neg (by simp), encodeRune_of_not_validRune hv, encodeRune_runeError]
  · rw [if_pos rfl]

/-! ## What a decoder returns -/

/-- What a decoder may return on `s`: `RuneError` of width one, or a code point
whose encoding is the bytes it read. -/
def DecodesAs (s : GoString) (d : Int × Nat) : Prop :=
  (d.1 = runeError ∧ d.2 = 1) ∨ (validRune d.1 = true ∧ encodeRune d.1 = s.take d.2)

theorem DecodesAs.error {s : GoString} : DecodesAs s (runeError, 1) := .inl ⟨rfl, rfl⟩

theorem DecodesAs.of_valid {s : GoString} {c : Int} {w : Nat} (hv : validRune c = true)
    (he : encodeRune c = s.take w) : DecodesAs s (c, w) := .inr ⟨hv, he⟩

theorem decoderune_decodesAs : ∀ s : GoString, DecodesAs s (decoderune s)
  | [] | [_] => .error
  | s0 :: s1 :: t => by
      have h0 : s0.toNat < 256 := s0.toNat_lt_size
      have h1 : s1.toNat < 256 := s1.toNat_lt_size
      unfold decoderune
      simp only [isContinuation, uint8_le_iff, uint8_lt_iff, UInt8.reduceToNat, Bool.and_eq_true,
        decide_eq_true_eq]
      by_cases c2 : 192 ≤ s0.toNat ∧ s0.toNat < 224
      · rw [if_pos c2]
        split_ifs with h
        · refine .of_valid ((validRune_iff _).mpr (by omega)) ?_
          rw [encodeRune_two ⟨h.2, by omega⟩]
          simp only [List.take, List.cons.injEq, uint8_eq_iff, toNat_toUInt8, and_true]
          omega
        · exact .error
      rw [if_neg c2]
      by_cases c3 : 224 ≤ s0.toNat ∧ s0.toNat < 240
      · rw [if_pos c3]
        rcases t with _ | ⟨s2, t⟩
        · exact .error
        have h2 : s2.toNat < 256 := s2.toNat_lt_size
        dsimp only
        split_ifs with h
        · refine .of_valid ((validRune_iff _).mpr (by omega)) ?_
          rw [encodeRune_three ⟨h.2.2.1, by omega⟩ h.2.2.2]
          simp only [List.take, List.cons.injEq, uint8_eq_iff, toNat_toUInt8, and_true]
          omega
        · exact .error
      rw [if_neg c3]
      by_cases c4 : 240 ≤ s0.toNat ∧ s0.toNat < 248
      · rw [if_pos c4]
        rcases t with _ | ⟨s2, _ | ⟨s3, t⟩⟩
        · exact .error
        · exact .error
        have h2 : s2.toNat < 256 := s2.toNat_lt_size
        have h3 : s3.toNat < 256 := s3.toNat_lt_size
        dsimp only
        split_ifs with h
        · refine .of_valid ((validRune_iff _).mpr (by omega)) ?_
          rw [encodeRune_four ⟨h.2.2.2.1, h.2.2.2.2⟩]
          simp only [List.take, List.cons.injEq, uint8_eq_iff, toNat_toUInt8, and_true]
          omega
        · exact .error
      rw [if_neg c4]
      exact .error

theorem decodeRune_decodesAs (b : UInt8) (s : GoString) :
    DecodesAs (b :: s) (decodeRune (b :: s)) := by
  rw [← rangeStep_eq_decodeRune, rangeStep]
  split_ifs with hb
  · have hb : b.toNat ≤ 0x7F := by rw [uint8_lt_iff] at hb; exact Nat.le_of_lt_succ hb
    refine .of_valid ((validRune_iff _).mpr (by omega)) ?_
    rw [encodeRune_one hb]
    exact congrArg (· :: []) (uint8_ofNat_toNat b)
  · exact decoderune_decodesAs _

/-! ## Decoding what the encoder writes -/

section
variable {n : Nat} (t : GoString)

theorem decodeRune_encodeRune_two (h : 0x7F < n ∧ n ≤ 0x7FF) :
    decodeRune (encodeRune n ++ t) = ((n : Int), 2) := by
  have h0 : (0xC0 + n / 64).toUInt8.toNat = 0xC0 + n / 64 := by rw [toNat_toUInt8]; omega
  have h1 : (0x80 + n % 64).toUInt8.toNat = 0x80 + n % 64 := by rw [toNat_toUInt8]; omega
  have hlead : (0x80 : UInt8) ≤ (0xC0 + n / 64).toUInt8 := by
    rw [uint8_le_iff, h0]; exact Nat.le_add_right_of_le (by decide)
  rw [encodeRune_two h, List.cons_append, ← decoderune_eq_decodeRune hlead]
  simp only [decoderune, List.cons_append, List.nil_append, isContinuation, uint8_le_iff,
    uint8_lt_iff, UInt8.reduceToNat, h0, h1, Bool.and_eq_true, decide_eq_true_eq]
  rw [if_pos (by omega), if_pos (by omega)]
  congr 1
  omega

theorem decodeRune_encodeRune_three (h : 0x7FF < n ∧ n ≤ 0xFFFF) (hs : ¬(0xD800 ≤ n ∧ n ≤ 0xDFFF)) :
    decodeRune (encodeRune n ++ t) = ((n : Int), 3) := by
  have h0 : (0xE0 + n / 4096).toUInt8.toNat = 0xE0 + n / 4096 := by rw [toNat_toUInt8]; omega
  have h1 : (0x80 + n / 64 % 64).toUInt8.toNat = 0x80 + n / 64 % 64 := by rw [toNat_toUInt8]; omega
  have h2 : (0x80 + n % 64).toUInt8.toNat = 0x80 + n % 64 := by rw [toNat_toUInt8]; omega
  have hlead : (0x80 : UInt8) ≤ (0xE0 + n / 4096).toUInt8 := by
    rw [uint8_le_iff, h0]; exact Nat.le_add_right_of_le (by decide)
  rw [encodeRune_three h hs, List.cons_append, ← decoderune_eq_decodeRune hlead]
  simp only [decoderune, List.cons_append, isContinuation, uint8_le_iff, uint8_lt_iff,
    UInt8.reduceToNat, h0, h1, h2, Bool.and_eq_true, decide_eq_true_eq]
  rw [if_neg (by omega), if_pos (by omega), if_pos (by omega)]
  congr 1
  omega

theorem decodeRune_encodeRune_four (h : 0xFFFF < n ∧ n ≤ 0x10FFFF) :
    decodeRune (encodeRune n ++ t) = ((n : Int), 4) := by
  have h0 : (0xF0 + n / 262144).toUInt8.toNat = 0xF0 + n / 262144 := by rw [toNat_toUInt8]; omega
  have h1 : (0x80 + n / 4096 % 64).toUInt8.toNat = 0x80 + n / 4096 % 64 := by
    rw [toNat_toUInt8]; omega
  have h2 : (0x80 + n / 64 % 64).toUInt8.toNat = 0x80 + n / 64 % 64 := by rw [toNat_toUInt8]; omega
  have h3 : (0x80 + n % 64).toUInt8.toNat = 0x80 + n % 64 := by rw [toNat_toUInt8]; omega
  have hlead : (0x80 : UInt8) ≤ (0xF0 + n / 262144).toUInt8 := by
    rw [uint8_le_iff, h0]; exact Nat.le_add_right_of_le (by decide)
  rw [encodeRune_four h, List.cons_append, ← decoderune_eq_decodeRune hlead]
  simp only [decoderune, List.cons_append, isContinuation, uint8_le_iff, uint8_lt_iff,
    UInt8.reduceToNat, h0, h1, h2, h3, Bool.and_eq_true, decide_eq_true_eq]
  have hv : (0xF0 + n / 262144) % 8 * 262144 + (0x80 + n / 4096 % 64) % 64 * 4096 +
      (0x80 + n / 64 % 64) % 64 * 64 + (0x80 + n % 64) % 64 = n := by omega
  rw [hv, if_neg (by omega), if_neg (by omega), if_pos (by omega), if_pos (by omega)]

end

theorem decodeRune_encodeRune_one {n : Nat} (h : n ≤ 0x7F) (t : GoString) :
    decodeRune (encodeRune n ++ t) = ((n : Int), 1) := by
  rw [encodeRune_one h, List.singleton_append, ← rangeStep_eq_decodeRune, rangeStep,
    if_pos (uint8_lt_iff.mpr (by simp only [UInt8.reduceToNat, toNat_toUInt8]; omega))]
  simp only [toNat_toUInt8, Prod.mk.injEq, and_true]
  omega

/-- `DecodeRuneInString` reads back every code point `EncodeRune` writes, and
reads `RuneError` from the bytes written in place of anything else. -/
theorem decodeRune_encodeRune_append (r : Int) (t : GoString) :
    decodeRune (encodeRune r ++ t) =
      (if validRune r then r else runeError, (encodeRune r).length) := by
  cases hv : validRune r
  · rw [encodeRune_of_not_validRune hv]; rfl
  have hr := (validRune_iff r).mp hv
  obtain ⟨n, rfl⟩ := Int.eq_ofNat_of_zero_le (show 0 ≤ r by omega)
  rw [if_pos rfl]
  by_cases h1 : n ≤ 0x7F
  · rw [decodeRune_encodeRune_one h1, encodeRune_one h1]; rfl
  by_cases h2 : n ≤ 0x7FF
  · rw [decodeRune_encodeRune_two t ⟨by omega, h2⟩, encodeRune_two ⟨by omega, h2⟩]; rfl
  by_cases h3 : n ≤ 0xFFFF
  · rw [decodeRune_encodeRune_three t ⟨by omega, h3⟩ (by omega),
      encodeRune_three ⟨by omega, h3⟩ (by omega)]; rfl
  · rw [decodeRune_encodeRune_four t ⟨by omega, by omega⟩, encodeRune_four ⟨by omega, by omega⟩]; rfl

/-- A valid rune whose encoding starts with an ASCII byte is that byte. -/
theorem eq_of_encodeRune_eq_cons {v : Int} {b : UInt8} {rest : GoString} (hv : validRune v = true)
    (he : encodeRune v = b :: rest) (hb : b < 0x80) : v = b.toNat := by
  have hd := decodeRune_encodeRune_append v []
  rw [he, List.cons_append, decodeRune_of_lt hb, if_pos hv] at hd
  exact (Prod.mk.inj hd).1.symm

/-- A valid rune whose encoding is ASCII is below `RuneSelf`. -/
theorem lt_of_isASCII_encodeRune {v : Int} (hv : validRune v = true) (h : IsASCII (encodeRune v)) :
    v < 0x80 := by
  obtain ⟨b, rest, he⟩ := List.exists_cons_of_ne_nil (encodeRune_ne_nil v)
  have hb : b < 0x80 := h b (he ▸ List.mem_cons_self b rest)
  have hb' : b.toNat < 128 := hb
  have := eq_of_encodeRune_eq_cons hv he hb
  omega

/-- The `range` loop over the bytes of a rune followed by any string visits that
rune first, as `RuneError` when it is no code point. -/
theorem rangeRunes_encodeRune_append (r : Int) (t : GoString) :
    rangeRunes (encodeRune r ++ t) =
      (if validRune r then r else runeError, encodeRune r) :: rangeRunes t := by
  have hd := decodeRune_encodeRune_append r t
  obtain ⟨b, s, hbs⟩ := List.exists_cons_of_ne_nil (encodeRune_ne_nil r)
  rw [hbs, List.cons_append] at hd ⊢
  rw [rangeRunes_cons, hd, ← List.cons_append, List.take_left' rfl, List.drop_left' rfl]

/-- Decoding what `EncodeRune` wrote: the `range` loop over the encodings of
a list of runes visits these runes, each invalid one as `RuneError`, each with
the bytes written for it. -/
theorem rangeRunes_flatMap_encodeRune (rs : List Int) :
    rangeRunes (rs.flatMap encodeRune) =
      rs.map fun r => (if validRune r then r else runeError, encodeRune r) := by
  induction rs with
  | nil => rfl
  | cons r rs ih => rw [List.flatMap_cons, rangeRunes_encodeRune_append, ih, List.map_cons]

/-- The `range` loop reads back every rune `EncodeRune` wrote, an invalid one
as `RuneError`. -/
theorem map_fst_rangeRunes_flatMap_encodeRune (rs : List Int) :
    (rangeRunes (rs.flatMap encodeRune)).map Prod.fst =
      rs.map fun r => if validRune r then r else runeError := by
  rw [rangeRunes_flatMap_encodeRune, List.map_map]
  rfl

/-- Every rune the `range` loop visits is a code point: `RuneError` is one. -/
theorem validRune_of_mem_rangeRunes {s : GoString} {p : Int × GoString} (hp : p ∈ rangeRunes s) :
    validRune p.1 = true := by
  induction s using rangeRunes_induction with
  | nil => simp at hp
  | cons b s ih =>
      rw [rangeRunes_cons, List.mem_cons] at hp
      rcases hp with rfl | hp
      · rcases decodeRune_decodesAs b s with ⟨he, -⟩ | ⟨hv, -⟩
        · rw [he]; rfl
        · exact hv
      · exact ih hp

/-! ## Valid strings -/

theorem leadByte_owed_le {b : UInt8} {o : Nat} {lo hi : UInt8} (h : leadByte b = some (o, lo, hi)) :
    o ≤ 3 := by
  by_cases hb : b < 0x80
  · rw [leadByte_of_lt hb, Option.some.injEq, Prod.mk.injEq] at h
    omega
  · rw [leadByte_of_ge (Nat.le_of_not_lt hb)] at h
    split_ifs at h <;> simp only [Option.some.injEq, Prod.mk.injEq, reduceCtorEq] at h <;> omega

theorem validFrom_zero (lo hi : UInt8) (s : GoString) : validFrom 0 lo hi s = validString s := by
  cases s <;> rfl

/-- `ValidString` and `DecodeRuneInString` read the same table: a string is
valid exactly when its first rune decodes and the rest is valid. -/
theorem validString_cons (b : UInt8) (s : GoString) :
    validString (b :: s) = true ↔
      ¬((decodeRune (b :: s)).1 = runeError ∧ (decodeRune (b :: s)).2 = 1) ∧
        validString ((b :: s).drop (decodeRune (b :: s)).2) = true := by
  have hb : (b.toNat : Int) ≠ runeError := by
    have : b.toNat < 256 := b.toNat_lt_size
    rw [runeError]; omega
  rw [validString, validFrom_zero_cons]
  unfold decodeRune
  dsimp only
  rcases hl : leadByte b with _ | ⟨o, lo, hi⟩
  · simp
  have ho := leadByte_owed_le hl
  rcases o with _ | _ | _ | _ | o
  · simp [hb, validFrom_zero]
  · rcases s with _ | ⟨c1, t⟩
    · simp [validFrom]
    by_cases h : lo ≤ c1 ∧ c1 ≤ hi <;> simp [h, validFrom_zero]
  · rcases s with _ | ⟨c1, _ | ⟨c2, t⟩⟩
    · simp [validFrom]
    · simp [validFrom]
    by_cases h : lo ≤ c1 ∧ c1 ≤ hi ∧ 0x80 ≤ c2 ∧ c2 ≤ 0xBF
    · simp [h, validFrom_zero]
    · simp [h, validFrom_zero]; tauto
  · rcases s with _ | ⟨c1, _ | ⟨c2, _ | ⟨c3, t⟩⟩⟩
    · simp [validFrom]
    · simp [validFrom]
    · simp [validFrom]
    by_cases h : lo ≤ c1 ∧ c1 ≤ hi ∧ 0x80 ≤ c2 ∧ c2 ≤ 0xBF ∧ 0x80 ≤ c3 ∧ c3 ≤ 0xBF
    · simp [h, validFrom_zero]
    · simp [h, validFrom_zero]; tauto
  · omega

theorem length_le_reencode (s : GoString) :
    s.length ≤ (((rangeRunes s).map Prod.fst).flatMap encodeRune).length := by
  induction s using rangeRunes_induction with
  | nil => simp
  | cons b s ih =>
      rw [rangeRunes_cons, List.map_cons, List.flatMap_cons, List.length_append]
      have hw := decodeRune_width b s
      simp only [List.length_drop, List.length_cons] at ih ⊢
      rcases decodeRune_decodesAs b s with ⟨he, _⟩ | ⟨-, henc⟩
      · rw [he, encodeRune_runeError]; simp only [List.length_cons, List.length_nil]; omega
      · rw [henc, List.length_take, List.length_cons]; omega

theorem take_append_eq_iff {l x : GoString} {w : Nat} (hw : w ≤ l.length) :
    l.take w ++ x = l ↔ x = l.drop w :=
  ⟨fun h => by rw [← h, List.drop_left' (List.length_take_of_le hw)],
    fun h => by rw [h, List.take_append_drop]⟩

/-- Writing back with `EncodeRune` the runes the `range` loop visits gives the
string again exactly when it is valid UTF-8. -/
theorem reencode_eq_iff_validString (s : GoString) :
    ((rangeRunes s).map Prod.fst).flatMap encodeRune = s ↔ validString s = true := by
  induction s using rangeRunes_induction with
  | nil => simp [validString, validFrom]
  | cons b s ih =>
      rw [rangeRunes_cons, List.map_cons, List.flatMap_cons, validString_cons, ← ih]
      rcases decodeRune_decodesAs b s with ⟨he, hw⟩ | ⟨hv, henc⟩
      · simp only [he, hw, and_self, not_true_eq_false, false_and, iff_false]
        intro heq
        have hlen := length_le_reencode ((b :: s).drop 1)
        have := congrArg List.length heq
        simp only [he, encodeRune_runeError, List.length_append, List.length_cons,
          List.length_drop] at this hlen
        omega
      · have hne : ¬((decodeRune (b :: s)).1 = runeError ∧ (decodeRune (b :: s)).2 = 1) := by
          rintro ⟨he, hw⟩
          have := congrArg List.length henc
          rw [he, hw, encodeRune_runeError] at this
          simp at this
        rw [henc, take_append_eq_iff (by have := decodeRune_width b s; simp only [List.length_cons]; omega)]
        simp only [hne, not_false_eq_true, true_and]

/-- The bytes `EncodeRune` writes for a rune are valid whatever follows them. -/
theorem validString_encodeRune_append (r : Int) (t : GoString) :
    validString (encodeRune r ++ t) = validString t := by
  have hd := decodeRune_encodeRune_append r t
  have hne : ¬((if validRune r then r else runeError) = runeError ∧ (encodeRune r).length = 1) := by
    rintro ⟨he, hl⟩
    rw [← encodeRune_validate, he, encodeRune_runeError] at hl
    simp at hl
  obtain ⟨b, s, hbs⟩ := List.exists_cons_of_ne_nil (encodeRune_ne_nil r)
  rw [hbs, List.cons_append] at hd ⊢
  rw [hbs] at hne
  refine Bool.eq_iff_iff.mpr ?_
  rw [validString_cons, hd, ← List.cons_append, List.drop_left' rfl]
  simp only [hne, not_false_eq_true, true_and]

end DaprMessaging
