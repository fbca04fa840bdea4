import DaprMessaging.Proofs.Conversions

/-!
# Where the user's keys go

The copying part of both conversions, for an internal metadata map whose
value lists are all non-empty.

* gRPC (`internalMetadataToGrpcMetadata_user_values`): under every key other
  than the three trace keys, the metadata holds exactly what the loop filed
  there, `grpcValuesAt`; the trace step writes nothing else.
* HTTP (`internalMetadataToHTTPHeader_calls`): the calls not named
  `traceparent` or `tracestate` are exactly the loop's `httpHeaderCalls`, the
  others exactly the trace step's, and no call is named `content-type`,
  `destination-app-id`, a `-bin` or `grpc-` name, or a pseudo-header.

The last fact rests on `ReservedGRPCMetadataToDaprPrefixHeader`: every name it
prefixes with `dapr-` starts with `da`, which none of the forbidden names does.
-/

namespace DaprMessaging

open GoString

variable {Context SpanContext TraceState : Type} {L : Lowering}
  {tr : Tracing Context SpanContext TraceState}

/-! ## gRPC metadata -/

/-- On a map whose value lists are all non-empty the gRPC conversion
succeeds, and under every key other than the trace keys the metadata holds
what the user loop put there. -/
theorem internalMetadataToGrpcMetadata_user_values (ctx : Context)
    (internalMD : DaprInternalMetadata) (h : Bool) (hne : internalMD.NonemptyValues) :
    ∃ md, internalMetadataToGrpcMetadata L tr ctx internalMD h = some md ∧
      ∀ K, K ∉ traceKeys → md.get K = grpcValuesAt L h K internalMD.entries := by
  obtain ⟨grpc, hgrpc⟩ := isGRPCProtocol_isSome hne
  refine ⟨grpcTraceStep L tr ctx internalMD h grpc, ?_,
    fun K hK => grpcTraceStep_get_of_not_mem ctx internalMD h grpc hK⟩
  rw [internalMetadataToGrpcMetadata_eq ctx internalMD h (hne.traceValuesPresent L), hgrpc]
  rfl

theorem internalMetadataToGrpcMetadata_user_values_example :
    let internalMD : DaprInternalMetadata :=
      ⟨[(ofString "Accept", [ofString "text/plain"]), (ofString "accept", [ofString "*/*"])],
        by decide⟩
    internalMD.NonemptyValues ∧
      ∃ md, internalMetadataToGrpcMetadata Lowering.ascii Tracing.echo [] internalMD true = some md ∧
        ∀ K, K ∉ traceKeys → md.get K = grpcValuesAt Lowering.ascii true K internalMD.entries :=
  ⟨by decide, internalMetadataToGrpcMetadata_user_values _ _ _ (by decide)⟩

/-- With the conversion flag set, the permanent header `Accept` leaves as
`dapr-accept`, and `accept`, which the case-sensitive match does not know, as
`accept`. -/
example :
    (internalMetadataToGrpcMetadata Lowering.ascii Tracing.echo []
        ⟨[(ofString "Accept", [ofString "text/plain"]), (ofString "accept", [ofString "*/*"])],
          by decide⟩ true).map
      (fun md => (md.get (ofString "dapr-accept"), md.get (ofString "accept"))) =
      some ([ofString "text/plain"], [ofString "*/*"]) := by
  decide

/-! ## HTTP header names -/

/-- A header name the HTTP direction may emit: not `content-type` or
`destination-app-id`, no `-bin` suffix, no `grpc-` prefix, not a gRPC
pseudo-header. -/
def IsEmittableHeaderName (name : GoString) : Prop :=
  name ≠ contentTypeHeader ∧ name ≠ destinationIDHeader ∧
    ¬ hasSuffix name gRPCBinaryMetadataSuffix ∧ ¬ hasPrefix name (ofString "grpc-") ∧
      name ∉ grpcPseudoHeaders

instance (name : GoString) : Decidable (IsEmittableHeaderName name) :=
  inferInstanceAs (Decidable (_ ∧ _))

theorem take_two_daprHeaderPrefix_append (y : GoString) :
    (daprHeaderPrefix ++ y).take 2 = [100, 97] := rfl

theorem daprHeaderPrefix_append_ne {K : GoString} (hK : K.take 2 ≠ [100, 97]) (y : GoString) :
    daprHeaderPrefix ++ y ≠ K :=
  fun h => hK (h ▸ take_two_daprHeaderPrefix_append y)

theorem daprHeaderPrefix_append_emittable {y : GoString} (hy : 4 ≤ y.length)
    (hbin : ¬ hasSuffix y gRPCBinaryMetadataSuffix) :
    IsEmittableHeaderName (daprHeaderPrefix ++ y) := by
  refine ⟨daprHeaderPrefix_append_ne (by decide) y, daprHeaderPrefix_append_ne (by decide) y,
    fun hsuf => hbin ?_, fun hpre => ?_, fun hmem => ?_⟩
  · simp only [hasSuffix_iff] at hsuf ⊢
    exact List.suffix_of_suffix_length_le hsuf (List.suffix_append _ _) (by simpa using hy)
  · obtain ⟨t, ht⟩ := hasPrefix_iff.mp hpre
    have htake : (ofString "grpc-" ++ t).take 2 = [100, 97] := by
      rw [ht, take_two_daprHeaderPrefix_append]
    rw [show (ofString "grpc-" ++ t).take 2 = [103, 114] from rfl] at htake
    exact absurd htake (by decide)
  · have hpseudo : ∀ K ∈ grpcPseudoHeaders, K.take 2 ≠ [100, 97] := by decide
    exact daprHeaderPrefix_append_ne (hpseudo _ hmem) y rfl

theorem reservedGRPCMetadataToDaprPrefixHeader_emittable {x : GoString}
    (hct : x ≠ contentTypeHeader) (hdest : x ≠ destinationIDHeader)
    (hbin : ¬ hasSuffix x gRPCBinaryMetadataSuffix) :
    IsEmittableHeaderName (reservedGRPCMetadataToDaprPrefixHeader x) := by
  unfold reservedGRPCMetadataToDaprPrefixHeader
  split_ifs with hpseudo hgrpc
  · have : ∀ K ∈ grpcPseudoHeaders, IsEmittableHeaderName (daprHeaderPrefix ++ K.drop 1) := by
      decide
    exact this x hpseudo
  · obtain ⟨y, rfl⟩ := hasPrefix_iff.mp hgrpc
    exact daprHeaderPrefix_append_emittable
      (by rw [List.length_append, show (ofString "grpc-").length = 5 from rfl]; omega) hbin
  · exact ⟨hct, hdest, hbin, hgrpc, hpseudo⟩

theorem reservedGRPCMetadataToDaprPrefixHeader_not_mem_w3cHeaders {x : GoString}
    (hx : x ∉ w3cHeaders) : reservedGRPCMetadataToDaprPrefixHeader x ∉ w3cHeaders := by
  have hw : ∀ K ∈ w3cHeaders, K.take 2 ≠ [100, 97] := by decide
  unfold reservedGRPCMetadataToDaprPrefixHeader
  split_ifs
  · exact fun hmem => daprHeaderPrefix_append_ne (hw _ hmem) _ rfl
  · exact fun hmem => daprHeaderPrefix_append_ne (hw _ hmem) _ rfl
  · exact hx

/-- What the loop emits is neither W3C trace context nor a forbidden name. -/
theorem httpHeaderCalls_name {entries : List (GoString × List GoString)}
    {p : GoString × GoString} (hp : p ∈ httpHeaderCalls L entries) :
    p.1 ∉ w3cHeaders ∧ IsEmittableHeaderName p.1 := by
  simp only [httpHeaderCalls, List.mem_flatMap] at hp
  obtain ⟨e, -, hp⟩ := hp
  split_ifs at hp with hbag hcopy
  · cases h : e.2.head? <;> simp_all +decide
  · obtain ⟨v, -, rfl⟩ := List.mem_map.mp hp
    obtain ⟨hres, hbin⟩ := hcopy
    simp only [httpReservedKeys, List.mem_cons, not_or] at hres
    exact ⟨reservedGRPCMetadataToDaprPrefixHeader_not_mem_w3cHeaders (by simp [w3cHeaders, hres]),
      reservedGRPCMetadataToDaprPrefixHeader_emittable hres.2.2.2.2.2.1 hres.2.2.2.1 hbin⟩
  · simp at hp

theorem w3cNamed_httpTraceCalls (ctx : Context) (internalMD : DaprInternalMetadata) (grpc : Bool) :
    W3CNamed (httpTraceCalls L tr ctx internalMD grpc) := by
  intro p hp
  unfold httpTraceCalls at hp
  split at hp
  · exact name_mem_w3cHeaders_of_mem_processGRPCToHTTPTraceHeaders ctx _ hp
  · exact name_mem_w3cHeaders_of_mem_processHTTPToHTTPTraceHeaders ctx _ _ hp

/-- The loop's calls are the ones not named as W3C trace context. -/
theorem filter_not_w3c_httpCalls (entries : List (GoString × List GoString))
    {trace : List (GoString × GoString)} (htrace : W3CNamed trace) :
    (httpHeaderCalls L entries ++ trace).filter (fun p => p.1 ∉ w3cHeaders) =
      httpHeaderCalls L entries := by
  rw [List.filter_append, List.filter_eq_self.mpr, List.filter_eq_nil_iff.mpr, List.append_nil]
  · exact fun p hp => by simpa using htrace p hp
  · exact fun p hp => by simpa using (httpHeaderCalls_name hp).1

/-- The trace step's calls are the ones named as W3C trace context. -/
theorem filter_w3c_httpCalls (entries : List (GoString × List GoString))
    {trace : List (GoString × GoString)} (htrace : W3CNamed trace) :
    (httpHeaderCalls L entries ++ trace).filter (fun p => p.1 ∈ w3cHeaders) = trace := by
  rw [List.filter_append, List.filter_eq_nil_iff.mpr, List.filter_eq_self.mpr, List.nil_append]
  · exact fun p hp => by simpa using htrace p hp
  · exact fun p hp => by simpa using (httpHeaderCalls_name hp).1

/-! ## HTTP headers -/

/-- On a map whose value lists are all non-empty the HTTP conversion
succeeds; its calls off the W3C headers are those of the user loop, its calls
on them are those of the trace step, and every name it sets may be emitted. -/
theorem internalMetadataToHTTPHeader_calls (ctx : Context) (internalMD : DaprInternalMetadata)
    (hne : internalMD.NonemptyValues) :
    ∃ calls, internalMetadataToHTTPHeader L tr ctx internalMD = some calls ∧
      calls.filter (fun p => p.1 ∉ w3cHeaders) = httpHeaderCalls L internalMD.entries ∧
      (∃ grpc, isGRPCProtocol internalMD = some grpc ∧
        calls.filter (fun p => p.1 ∈ w3cHeaders) = httpTraceCalls L tr ctx internalMD grpc) ∧
      ∀ p ∈ calls, IsEmittableHeaderName p.1 := by
  obtain ⟨grpc, hgrpc⟩ := isGRPCProtocol_isSome hne
  have htrace : W3CNamed (httpTraceCalls L tr ctx internalMD grpc) :=
    w3cNamed_httpTraceCalls ctx internalMD grpc
  have hw : ∀ K ∈ w3cHeaders, IsEmittableHeaderName K := by decide
  refine ⟨_, by rw [internalMetadataToHTTPHeader_eq, hgrpc]; rfl,
    filter_not_w3c_httpCalls _ htrace, ⟨grpc, hgrpc, filter_w3c_httpCalls _ htrace⟩, ?_⟩
  intro p hp
  rcases List.mem_append.mp hp with hp | hp
  · exact (httpHeaderCalls_name hp).2
  · exact hw _ (htrace p hp)

theorem internalMetadataToHTTPHeader_calls_example :
    let internalMD : DaprInternalMetadata :=
      ⟨[(ofString ":path", [ofString "/v1"]), (ofString "grpc-timeout", [ofString "1S"]),
        (ofString "Baggage", [ofString "k=v", ofString "x=y"])], by decide⟩
    internalMD.NonemptyValues ∧
      ∃ calls, internalMetadataToHTTPHeader Lowering.ascii Tracing.echo [] internalMD = some calls ∧
        calls.filter (fun p => p.1 ∉ w3cHeaders) = httpHeaderCalls Lowering.ascii internalMD.entries ∧
        (∃ grpc, isGRPCProtocol internalMD = some grpc ∧
          calls.filter (fun p => p.1 ∈ w3cHeaders) =
            httpTraceCalls Lowering.ascii Tracing.echo [] internalMD grpc) ∧
        ∀ p ∈ calls, IsEmittableHeaderName p.1 :=
  ⟨by decide, internalMetadataToHTTPHeader_calls _ _ (by decide)⟩

end DaprMessaging
