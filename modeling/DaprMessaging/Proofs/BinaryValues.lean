import DaprMessaging.Proofs.GrpcRange

/-!
# Binary values round-trip

A sender puts a binary value under a `-bin` key as its standard base64
encoding, `base64.StdEncoding.EncodeToString`.  The decoder of `Base64` reads
every such encoding back, without error (`decodeString_encodeToString`), so
what the gRPC loop adds for an entry under a `-bin` key whose values are
encodings is exactly the original bytes (`grpcContribution_encodeToString`).
That is the loop's step alone: it never reaches `grpc-trace-bin`, which the
loop sets aside for the trace step.

The encoder reads three bytes at a time into a 24-bit value and writes its
four 6-bit fields; a last group of one or two bytes is read with zeros in
place of the missing bytes, and only the fields that hold its bits are
written, followed by `=` padding.  One quantum is one lemma
(`decodeQuanta_encodeQuantum_append`), and the run over all quanta follows the
recursion of the encoder.
-/

namespace DaprMessaging

/-- `StdEncoding`'s alphabet: the byte that encodes the 6-bit value `v`. -/
def encodeStd (v : Nat) : UInt8 :=
  if v < 26 then (65 + v).toUInt8
  else if v < 52 then (71 + v).toUInt8
  else if v < 62 then (v - 4).toUInt8
  else if v = 62 then 43
  else 47

/-- The four bytes encoding the 24-bit value `x<<16 | y<<8 | z`:
`encode[val>>18&0x3F]`, `encode[val>>12&0x3F]`, `encode[val>>6&0x3F]` and
`encode[val&0x3F]`. -/
def encodeQuantum (x y z : UInt8) : GoString :=
  let val := x.toNat * 65536 + y.toNat * 256 + z.toNat
  [encodeStd (val / 262144 % 64), encodeStd (val / 4096 % 64), encodeStd (val / 64 % 64),
    encodeStd (val % 64)]

/-- `base64.StdEncoding.EncodeToString(src)`. -/
def encodeToString : GoString → GoString
  | x :: y :: z :: rest => encodeQuantum x y z ++ encodeToString rest
  | [x, y] => (encodeQuantum x y 0).take 3 ++ [padChar]
  | [x] => (encodeQuantum x 0 0).take 2 ++ [padChar, padChar]
  | [] => []

/-! ## One quantum -/

theorem decodeMap_encodeStd {v : Nat} (hv : v < 64) : decodeMap (encodeStd v) = some v := by
  have hall : ∀ v < 64, decodeMap (encodeStd v) = some v := by decide
  exact hall v hv

theorem isLineBreak_encodeStd {v : Nat} (hv : v < 64) : isLineBreak (encodeStd v) = false := by
  have hall : ∀ v < 64, isLineBreak (encodeStd v) = false := by decide
  exact hall v hv

theorem decodeMap_padChar : decodeMap padChar = none := rfl

theorem toUInt8_eq_of_mod {n : Nat} {x : UInt8} (h : n % 256 = x.toNat) : n.toUInt8 = x := by
  apply UInt8.eq_of_toBitVec_eq
  apply BitVec.eq_of_toNat_eq
  simpa [Nat.toUInt8, UInt8.ofNat] using h

/-- Decoding the four fields of `x<<16 | y<<8 | z` gives back `x`, `y`, `z`. -/
theorem quantumBytes_encode (x y z : UInt8) :
    let val := x.toNat * 65536 + y.toNat * 256 + z.toNat
    quantumBytes (val / 262144 % 64) (val / 4096 % 64) (val / 64 % 64) (val % 64) = [x, y, z] := by
  intro val
  have hx : x.toNat < 256 := x.toBitVec.isLt
  have hy : y.toNat < 256 := y.toBitVec.isLt
  have hz : z.toNat < 256 := z.toBitVec.isLt
  have hval : val / 262144 % 64 * 262144 + val / 4096 % 64 * 4096 + val / 64 % 64 * 64 +
      val % 64 = val := by omega
  simp only [quantumBytes, hval]
  refine congrArg₂ _ (toUInt8_eq_of_mod ?_)
    (congrArg₂ _ (toUInt8_eq_of_mod ?_) (congrArg₂ _ (toUInt8_eq_of_mod ?_) rfl)) <;> omega

theorem filter_encodeQuantum_append (x y z : UInt8) (s : GoString) :
    (encodeQuantum x y z ++ s).filter (fun c => !isLineBreak c) =
      encodeQuantum x y z ++ s.filter (fun c => !isLineBreak c) := by
  simp [encodeQuantum, List.filter_cons, isLineBreak_encodeStd (Nat.mod_lt _ (by decide : 64 > 0))]

theorem decodeQuanta_encodeQuantum_append (x y z : UInt8) (s : GoString) :
    decodeQuanta (encodeQuantum x y z ++ s) = ([x, y, z] ++ (decodeQuanta s).1, (decodeQuanta s).2) := by
  simp only [encodeQuantum, List.cons_append, List.nil_append, decodeQuanta,
    decodeMap_encodeStd (Nat.mod_lt _ (by decide : 64 > 0)), quantumBytes_encode]
  rfl

/-! ## The whole value -/

/-- Every standard encoding decodes, to the bytes it encodes. -/
theorem decodeString_encodeToString (b : GoString) : decodeString (encodeToString b) = (b, true) := by
  unfold decodeString
  induction b using encodeToString.induct with
  | case1 x y z rest ih =>
      rw [encodeToString, filter_encodeQuantum_append, decodeQuanta_encodeQuantum_append, ih]
      rfl
  | case2 x y =>
      have h := quantumBytes_encode x y 0
      simp only [UInt8.toNat_zero, Nat.add_zero] at h
      have hd : (x.toNat * 65536 + y.toNat * 256) % 64 = 0 := by omega
      rw [hd] at h
      simp [encodeToString, encodeQuantum, List.filter_cons, decodeQuanta,
        isLineBreak_encodeStd (Nat.mod_lt _ (by decide : 64 > 0)),
        decodeMap_encodeStd (Nat.mod_lt _ (by decide : 64 > 0)), decodeMap_padChar, hd, h]
  | case3 x =>
      have h := quantumBytes_encode x 0 0
      simp only [UInt8.toNat_zero, Nat.add_zero, Nat.zero_mul] at h
      have hc : x.toNat * 65536 / 64 % 64 = 0 := by omega
      have hd : x.toNat * 65536 % 64 = 0 := by omega
      rw [hc, hd] at h
      simp [encodeToString, encodeQuantum, List.filter_cons, decodeQuanta,
        isLineBreak_encodeStd (Nat.mod_lt _ (by decide : 64 > 0)),
        decodeMap_encodeStd (Nat.mod_lt _ (by decide : 64 > 0)), decodeMap_padChar, hc, hd, h]
  | case4 => rfl

theorem decodedValues_map_encodeToString (values : List GoString) :
    decodedValues (values.map encodeToString) = values := by
  induction values with
  | nil => rfl
  | cons v values ih =>
      simp only [decodedValues, List.map_cons, List.filterMap_cons, decodeString_encodeToString]
      exact congrArg _ ih

/-- What the loop adds for an entry under a `-bin` key whose values are
standard encodings is exactly the bytes they encode. -/
theorem grpcContribution_encodeToString {k : GoString} (hk : hasSuffix k gRPCBinaryMetadataSuffix)
    (values : List GoString) : grpcContribution k (values.map encodeToString) = values := by
  rw [grpcContribution, if_pos hk, decodedValues_map_encodeToString]

end DaprMessaging
