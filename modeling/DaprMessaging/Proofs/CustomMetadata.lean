import DaprMessaging.Proofs.VisitOrder

/-!
# Custom metadata

`WithCustomGRPCMetadata` appends each pair of a plain map to the outgoing
metadata of a context, skipping the keys equal to `content-type` or
`content-length` up to case.  Under every key `K` the outgoing metadata gains,
in visiting order, the values of the entries it keeps whose key lowers to `K`
(`withCustomGRPCMetadata_get`): the values keep their bytes, only the keys are
lowered, and what the context held stays in front.

Two consequences:

* no ASCII key adds a value under `content-type` or `content-length`
  (`withCustomGRPCMetadata_content_headers`); whether a key beyond ASCII can
  lower to either name depends on the Unicode tables, which are not modelled;
* another visiting order permutes the values under each key, and changes
  nothing when no two keys lower alike (`withCustomGRPCMetadata_visit_order`).
-/

namespace DaprMessaging

open GoString

variable {L : Lowering} {F : Folding}

variable (L F) in
/-- The values the loop appends under `K`, in visiting order: those of the
entries it keeps whose key lowers to `K`. -/
def customValuesAt (K : GoString) (entries : List (GoString × GoString)) : List GoString :=
  ((entries.filter fun e => !isSkippedCustomKey F e.1).filter fun e => L.toLower e.1 = K).map
    Prod.snd

@[simp] theorem customValuesAt_nil (K : GoString) : customValuesAt L F K [] = [] := rfl

theorem customValuesAt_cons (K k v : GoString) (entries : List (GoString × GoString)) :
    customValuesAt L F K ((k, v) :: entries) =
      (if !isSkippedCustomKey F k && L.toLower k = K then [v] else []) ++
        customValuesAt L F K entries := by
  by_cases hs : isSkippedCustomKey F k <;> by_cases hK : L.toLower k = K <;>
    simp [customValuesAt, List.filter_cons, hs, hK]

/-! ## The loop -/

theorem customMetadataStep_get (md : MD) (k v K : GoString) :
    (customMetadataStep L F md k v).get K =
      md.get K ++ if !isSkippedCustomKey F k && L.toLower k = K then [v] else [] := by
  unfold customMetadataStep
  by_cases hs : isSkippedCustomKey F k
  · simp [hs]
  · by_cases hK : L.toLower k = K
    · simp [hs, hK]
    · simp [hs, hK, Ne.symm hK]

/-- The outgoing metadata after the loop, key by key. -/
theorem withCustomGRPCMetadata_get (outgoing : MD) (md : StringMap) (K : GoString) :
    (withCustomGRPCMetadata L F outgoing md).get K =
      outgoing.get K ++ customValuesAt L F K md.entries := by
  obtain ⟨entries, nodup⟩ := md
  simp only [withCustomGRPCMetadata]
  clear nodup
  induction entries generalizing outgoing with
  | nil => simp
  | cons e entries ih =>
      obtain ⟨k, v⟩ := e
      rw [List.foldl_cons, ih, customMetadataStep_get, customValuesAt_cons, List.append_assoc]

/-! ## The content headers -/

/-- An ASCII key that lowers to `content-type` or `content-length` equals it up
to case, so the loop skips it. -/
theorem isSkippedCustomKey_of_toLower {k : GoString} (hk : IsASCII k)
    (hlow : L.toLower k = contentTypeHeader ∨ L.toLower k = contentLengthHeader) :
    isSkippedCustomKey F k = true := by
  have hct : contentTypeHeader.map asciiLower = contentTypeHeader := by decide
  have hcl : contentLengthHeader.map asciiLower = contentLengthHeader := by decide
  rw [L.toLower_ascii k hk] at hlow
  rw [isSkippedCustomKey, F.equalFold_ascii _ _ hk (by decide),
    F.equalFold_ascii _ _ hk (by decide), hct, hcl]
  rcases hlow with h | h <;> simp [h]

/-- No ASCII key puts a value under `content-type` or `content-length`. -/
theorem withCustomGRPCMetadata_content_headers (outgoing : MD) (md : StringMap) {K : GoString}
    (hK : K = contentTypeHeader ∨ K = contentLengthHeader)
    (hascii : ∀ e ∈ md.entries, L.toLower e.1 = K → IsASCII e.1) :
    (withCustomGRPCMetadata L F outgoing md).get K = outgoing.get K := by
  rw [withCustomGRPCMetadata_get, customValuesAt, List.filter_filter, List.map_eq_nil_iff.mpr,
    List.append_nil]
  refine List.filter_eq_nil_iff.mpr fun e he hsel => ?_
  simp only [Bool.and_eq_true, Bool.not_eq_true', decide_eq_true_eq] at hsel
  obtain ⟨hK', hkept⟩ := hsel
  have hlow : L.toLower e.1 = contentTypeHeader ∨ L.toLower e.1 = contentLengthHeader := hK' ▸ hK
  simp [isSkippedCustomKey_of_toLower (hascii e he hK') hlow] at hkept

theorem withCustomGRPCMetadata_content_headers_example :
    let md : StringMap :=
      ⟨[(ofString "Content-Type", ofString "text/plain"), (ofString "X-Id", ofString "7")],
        by decide⟩
    (contentTypeHeader = contentTypeHeader ∨ contentTypeHeader = contentLengthHeader) ∧
      (∀ e ∈ md.entries, Lowering.ascii.toLower e.1 = contentTypeHeader → IsASCII e.1) ∧
      (withCustomGRPCMetadata Lowering.ascii Folding.ascii MD.empty md).get contentTypeHeader =
        MD.empty.get contentTypeHeader :=
  ⟨.inl rfl, by decide, withCustomGRPCMetadata_content_headers _ _ (.inl rfl) (by decide)⟩

/-! ## Visiting order -/

section
variable {l₁ l₂ : List (GoString × GoString)} (hperm : l₁.Perm l₂) (K : GoString)
include hperm

theorem customValuesAt_perm : (customValuesAt L F K l₁).Perm (customValuesAt L F K l₂) :=
  ((hperm.filter _).filter _).map _

theorem customValuesAt_eq_of_perm (hnodup : (l₁.map fun e => L.toLower e.1).Nodup) :
    customValuesAt L F K l₁ = customValuesAt L F K l₂ :=
  congrArg (List.map Prod.snd) (filter_eq_of_perm (hperm.filter _) (fun e => L.toLower e.1)
    (hnodup.sublist ((List.filter_sublist _).map _)) K)

end

/-- Another visiting order permutes the values under each key, and changes
nothing when no two keys of the map lower to the same key. -/
theorem withCustomGRPCMetadata_visit_order (outgoing : MD) {M₁ M₂ : StringMap}
    (hperm : M₁.entries.Perm M₂.entries) :
    (∀ K, ((withCustomGRPCMetadata L F outgoing M₁).get K).Perm
      ((withCustomGRPCMetadata L F outgoing M₂).get K)) ∧
    ((M₁.entries.map fun e => L.toLower e.1).Nodup →
      withCustomGRPCMetadata L F outgoing M₁ = withCustomGRPCMetadata L F outgoing M₂) := by
  refine ⟨fun K => ?_, fun hnodup => MD.ext (funext fun K => ?_)⟩ <;>
    rw [withCustomGRPCMetadata_get, withCustomGRPCMetadata_get]
  · exact (customValuesAt_perm hperm K).append_left _
  · rw [customValuesAt_eq_of_perm hperm K hnodup]

theorem withCustomGRPCMetadata_visit_order_example :
    let M₁ : StringMap :=
      ⟨[(ofString "X-A", ofString "1"), (ofString "x-b", ofString "2")], by decide⟩
    let M₂ : StringMap :=
      ⟨[(ofString "x-b", ofString "2"), (ofString "X-A", ofString "1")], by decide⟩
    M₁.entries.Perm M₂.entries ∧
      (∀ K, ((withCustomGRPCMetadata Lowering.ascii Folding.ascii MD.empty M₁).get K).Perm
        ((withCustomGRPCMetadata Lowering.ascii Folding.ascii MD.empty M₂).get K)) ∧
      ((M₁.entries.map fun e => Lowering.ascii.toLower e.1).Nodup →
        withCustomGRPCMetadata Lowering.ascii Folding.ascii MD.empty M₁ =
          withCustomGRPCMetadata Lowering.ascii Folding.ascii MD.empty M₂) :=
  let hperm := List.Perm.swap _ _ _
  ⟨hperm, withCustomGRPCMetadata_visit_order _ hperm⟩

/-- Keys that lower alike make the order show: `X-A` and `x-a` land under
`x-a` in visiting order. -/
example :
    (withCustomGRPCMetadata Lowering.ascii Folding.ascii MD.empty
        ⟨[(ofString "X-A", ofString "1"), (ofString "x-a", ofString "2")], by decide⟩).get
        (ofString "x-a") = [ofString "1", ofString "2"] ∧
      (withCustomGRPCMetadata Lowering.ascii Folding.ascii MD.empty
        ⟨[(ofString "x-a", ofString "2"), (ofString "X-A", ofString "1")], by decide⟩).get
        (ofString "x-a") = [ofString "2", ofString "1"] := by
  decide

end DaprMessaging
