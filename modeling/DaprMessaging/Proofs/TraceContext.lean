import DaprMessaging.Proofs.KeyMapping

/-!
# The trace context of the outgoing gRPC metadata

Which span context the gRPC metadata carries, by origin protocol, for a map
whose value lists are all non-empty:

```text
origin  grpc-trace-bin value               grpc-trace-bin   traceparent, tracestate
HTTP    (not read)                         Binary(sc)       headers of sc
gRPC    empty                              Binary(ambient)  headers of ambient
gRPC    decodes to bytes b                 b                headers of Parse(b), none if b does not parse
gRPC    does not decode                    (nothing set)    (nothing set)
```

where `sc` is the span context parsed from `traceparent` with `tracestate`,
or the ambient one.  `internalMetadataToGrpcMetadata_trace_context` proves
the first three rows.  The gRPC-to-gRPC step is the only one of the four
trace steps with no fallback to the ambient span, and
`internalMetadataToGrpcMetadata_malformed_token` proves what it does with a
malformed token: one that does not decode leaves every trace key unset (the
last row), and one that decodes to bytes `SpanContextFromBinary` rejects is
forwarded with no W3C mirror (the third row with no parse).

The HTTP direction has the converse slip: `processGRPCToHTTPTraceHeaders`
discards the decoding error and parses the bytes decoded before it
(`processGRPCToHTTPTraceHeaders_partial_token`).
-/

namespace DaprMessaging

open GoString

variable {Context SpanContext TraceState : Type} {L : Lowering}
  {tr : Tracing Context SpanContext TraceState}

/-- What the metadata carries of a span context: `bin` under `grpc-trace-bin`,
and under `traceparent` and `tracestate` what the calls `headers` set. -/
def CarriesTrace (md : MD) (bin : GoString) (headers : List (GoString × GoString)) : Prop :=
  md.get grpcTraceContextKey = [bin] ∧
    md.get traceparentHeader = setValue headers traceparentHeader ∧
      md.get tracestateHeader = setValue headers tracestateHeader

variable (tr) in
/-- The span context parsed from `traceparent` with `tracestate`, or the
ambient one when `traceparent` does not parse. -/
def inboundW3CSpanContext (ctx : Context) (traceparentValue traceStateValue : GoString) :
    SpanContext :=
  match tr.spanContextFromW3CString traceparentValue with
  | some sc => tr.withTraceState sc (tr.traceStateFromW3CString traceStateValue)
  | none => tr.spanFromContext ctx

theorem grpcValuesAt_of_mem_traceKeys (h : Bool) {K : GoString} (hK : K ∈ traceKeys)
    (entries : List (GoString × List GoString)) : grpcValuesAt L h K entries = [] := by
  have htake : ∀ K ∈ traceKeys, K.take 2 ≠ [100, 97] := by decide
  rw [grpcValuesAt, List.filter_eq_nil_iff.mpr, List.flatMap_nil]
  rintro ⟨k, vs⟩ - hsel
  simp only [decide_eq_true_eq] at hsel
  obtain ⟨hdiv, rfl⟩ := hsel
  unfold outgoingKey at hK
  split_ifs at hK
  · exact daprHeaderPrefix_append_ne (htake _ hK) _ rfl
  · exact hdiv (List.mem_cons_of_mem _ hK)

theorem grpcUserMetadata_get_of_mem_w3cHeaders (h : Bool) {K : GoString} (hK : K ∈ w3cHeaders)
    (entries : List (GoString × List GoString)) : (grpcUserMetadata L h entries).get K = [] :=
  grpcValuesAt_of_mem_traceKeys h (List.Sublist.subset (by decide) hK) entries

theorem carriesTrace_set (md : MD) (bin : GoString) {headers : List (GoString × GoString)}
    (hnames : W3CNamed headers) (hmd : ∀ K ∈ w3cHeaders, md.get K = []) :
    CarriesTrace ((setHeaders L md headers).set L grpcTraceContextKey [bin]) bin headers := by
  refine ⟨by simp, ?_, ?_⟩ <;>
    simp +decide only [MD.get_set_singleton, Lowering.toLower_grpcTraceContextKey, ↓reduceIte]
  · exact setHeaders_get_of_empty md hnames (hmd traceparentHeader (by decide))
  · exact setHeaders_get_of_empty md hnames (hmd tracestateHeader (by decide))

/-- The rows of the table above: on a map whose value lists are all
non-empty the gRPC conversion succeeds, and its trace keys carry the span
context its origin protocol and `grpc-trace-bin` value select. -/
theorem internalMetadataToGrpcMetadata_trace_context (ctx : Context)
    (internalMD : DaprInternalMetadata) (h : Bool) (hne : internalMD.NonemptyValues) :
    ∃ md, internalMetadataToGrpcMetadata L tr ctx internalMD h = some md ∧
      (isGRPCProtocol internalMD = some false →
        let sc := inboundW3CSpanContext tr ctx
          (traceValue L traceparentHeader internalMD.entries [])
          (traceValue L tracestateHeader internalMD.entries [])
        CarriesTrace md (tr.binaryFromSpanContext sc) (tr.spanContextToHTTPHeaders sc)) ∧
      (isGRPCProtocol internalMD = some true →
        traceValue L grpcTraceContextKey internalMD.entries [] = [] →
        CarriesTrace md (tr.binaryFromSpanContext (tr.spanFromContext ctx))
          (tr.spanContextToHTTPHeaders (tr.spanFromContext ctx))) ∧
      (isGRPCProtocol internalMD = some true → ∀ decoded,
        traceValue L grpcTraceContextKey internalMD.entries [] ≠ [] →
        decodeString (traceValue L grpcTraceContextKey internalMD.entries []) = (decoded, true) →
        CarriesTrace md decoded (((tr.spanContextFromBinary decoded).map
          tr.spanContextToHTTPHeaders).getD [])) := by
  obtain ⟨grpc, hgrpc⟩ := isGRPCProtocol_isSome hne
  have hempty : ∀ K ∈ w3cHeaders, (grpcUserMetadata L h internalMD.entries).get K = [] :=
    fun K hK => grpcUserMetadata_get_of_mem_w3cHeaders h hK _
  refine ⟨grpcTraceStep L tr ctx internalMD h grpc, ?_, fun hg => ?_, fun hg htoken => ?_,
    fun hg decoded htoken hdecode => ?_⟩
  · rw [internalMetadataToGrpcMetadata_eq ctx internalMD h (hne.traceValuesPresent L), hgrpc]
    rfl
  · obtain rfl : grpc = false := Option.some_injective _ (hgrpc.symm.trans hg)
    exact carriesTrace_set _ _ (w3cNamed_spanContextToHTTPHeaders _) hempty
  · obtain rfl : grpc = true := Option.some_injective _ (hgrpc.symm.trans hg)
    simp only [grpcTraceStep, processGRPCToGRPCTraceHeader, htoken, ↓reduceIte]
    exact carriesTrace_set _ _ (w3cNamed_spanContextToHTTPHeaders _) hempty
  · obtain rfl : grpc = true := Option.some_injective _ (hgrpc.symm.trans hg)
    simp only [grpcTraceStep, processGRPCToGRPCTraceHeader, htoken, hdecode, ↓reduceIte]
    cases tr.spanContextFromBinary decoded with
    | none => exact carriesTrace_set _ _ (fun _ hp => absurd hp (List.not_mem_nil _)) hempty
    | some sc => exact carriesTrace_set _ _ (w3cNamed_spanContextToHTTPHeaders _) hempty

theorem internalMetadataToGrpcMetadata_trace_context_example :
    let internalMD : DaprInternalMetadata :=
      ⟨[(ofString "Traceparent", [ofString "00-ab-cd-01"]), (ofString "x-id", [ofString "7"])],
        by decide⟩
    internalMD.NonemptyValues ∧
      ∃ md, internalMetadataToGrpcMetadata Lowering.ascii Tracing.echo [] internalMD false = some md ∧
        (isGRPCProtocol internalMD = some false →
          let sc := inboundW3CSpanContext Tracing.echo []
            (traceValue Lowering.ascii traceparentHeader internalMD.entries [])
            (traceValue Lowering.ascii tracestateHeader internalMD.entries [])
          CarriesTrace md (Tracing.echo.binaryFromSpanContext sc)
            (Tracing.echo.spanContextToHTTPHeaders sc)) ∧
        (isGRPCProtocol internalMD = some true →
          traceValue Lowering.ascii grpcTraceContextKey internalMD.entries [] = [] →
          CarriesTrace md (Tracing.echo.binaryFromSpanContext (Tracing.echo.spanFromContext []))
            (Tracing.echo.spanContextToHTTPHeaders (Tracing.echo.spanFromContext []))) ∧
        (isGRPCProtocol internalMD = some true → ∀ decoded,
          traceValue Lowering.ascii grpcTraceContextKey internalMD.entries [] ≠ [] →
          decodeString (traceValue Lowering.ascii grpcTraceContextKey internalMD.entries []) =
            (decoded, true) →
          CarriesTrace md decoded (((Tracing.echo.spanContextFromBinary decoded).map
            Tracing.echo.spanContextToHTTPHeaders).getD [])) :=
  ⟨by decide, internalMetadataToGrpcMetadata_trace_context _ _ _ (by decide)⟩

/-- The gRPC-to-gRPC trace step has no fallback for a malformed token: a
`grpc-trace-bin` value that is not base64 leaves every trace key unset, and one
that decodes to bytes `SpanContextFromBinary` rejects is forwarded as it is,
with no W3C mirror. -/
theorem internalMetadataToGrpcMetadata_malformed_token (ctx : Context)
    (internalMD : DaprInternalMetadata) (h : Bool) (hne : internalMD.NonemptyValues)
    (hg : isGRPCProtocol internalMD = some true)
    (htoken : traceValue L grpcTraceContextKey internalMD.entries [] ≠ []) :
    ∃ md, internalMetadataToGrpcMetadata L tr ctx internalMD h = some md ∧
      ((decodeString (traceValue L grpcTraceContextKey internalMD.entries [])).2 = false →
        ∀ K ∈ traceKeys, md.get K = []) ∧
      (∀ decoded,
        decodeString (traceValue L grpcTraceContextKey internalMD.entries []) = (decoded, true) →
        tr.spanContextFromBinary decoded = none →
        md.get grpcTraceContextKey = [decoded] ∧ ∀ K ∈ w3cHeaders, md.get K = []) := by
  refine ⟨grpcTraceStep L tr ctx internalMD h true, ?_, fun hfail K hK => ?_,
    fun decoded hdecode hparse => ?_⟩
  · rw [internalMetadataToGrpcMetadata_eq ctx internalMD h (hne.traceValuesPresent L), hg]
    rfl
  · obtain ⟨decoded, hdecode⟩ : ∃ decoded,
        decodeString (traceValue L grpcTraceContextKey internalMD.entries []) = (decoded, false) :=
      ⟨_, Prod.ext rfl hfail⟩
    simp only [grpcTraceStep, processGRPCToGRPCTraceHeader, htoken, hdecode, ↓reduceIte]
    exact grpcValuesAt_of_mem_traceKeys h hK _
  · simp only [grpcTraceStep, processGRPCToGRPCTraceHeader, htoken, hdecode, hparse, ↓reduceIte]
    refine ⟨by simp, fun K hK => ?_⟩
    have hne : K ≠ grpcTraceContextKey := by
      rintro rfl
      exact absurd hK (by decide)
    rw [MD.get_set_singleton, Lowering.toLower_grpcTraceContextKey, if_neg hne]
    exact grpcUserMetadata_get_of_mem_w3cHeaders h hK _

/-- A gRPC-origin map whose `grpc-trace-bin` value `!!!!` is not base64 leaves
with no trace context at all. -/
theorem internalMetadataToGrpcMetadata_malformed_token_example :
    (⟨[(contentTypeHeader, [grpcContentType]), (grpcTraceContextKey, [ofString "!!!!"])],
        by decide⟩ : DaprInternalMetadata).NonemptyValues ∧
      isGRPCProtocol ⟨[(contentTypeHeader, [grpcContentType]),
        (grpcTraceContextKey, [ofString "!!!!"])], by decide⟩ = some true ∧
      traceValue Lowering.ascii grpcTraceContextKey
        [(contentTypeHeader, [grpcContentType]), (grpcTraceContextKey, [ofString "!!!!"])] [] ≠ [] ∧
      ∃ md, internalMetadataToGrpcMetadata Lowering.ascii Tracing.echo (ofString "ambient")
          ⟨[(contentTypeHeader, [grpcContentType]), (grpcTraceContextKey, [ofString "!!!!"])],
            by decide⟩ false = some md ∧
        ((decodeString (traceValue Lowering.ascii grpcTraceContextKey
          [(contentTypeHeader, [grpcContentType]), (grpcTraceContextKey, [ofString "!!!!"])]
            [])).2 = false →
          ∀ K ∈ traceKeys, md.get K = []) ∧
        (∀ decoded, decodeString (traceValue Lowering.ascii grpcTraceContextKey
            [(contentTypeHeader, [grpcContentType]), (grpcTraceContextKey, [ofString "!!!!"])]
              []) = (decoded, true) →
          Tracing.echo.spanContextFromBinary decoded = none →
          md.get grpcTraceContextKey = [decoded] ∧ ∀ K ∈ w3cHeaders, md.get K = []) :=
  ⟨by decide, by decide, by decide,
    internalMetadataToGrpcMetadata_malformed_token _ _ _ (by decide) (by decide) (by decide)⟩

/-! ## The gRPC-to-HTTP direction -/

theorem processGRPCToHTTPTraceHeaders_eq (ctx : Context) (traceContext : GoString) :
    processGRPCToHTTPTraceHeaders tr ctx traceContext =
      tr.spanContextToHTTPHeaders
        ((tr.spanContextFromBinary (decodeString traceContext).1).getD (tr.spanFromContext ctx)) := by
  simp only [processGRPCToHTTPTraceHeaders]
  cases tr.spanContextFromBinary (decodeString traceContext).1 <;> rfl

/-- A well-formed binary span context followed by a stray byte is not base64,
yet the HTTP direction parses the bytes decoded before the error and
propagates that span context whenever `SpanContextFromBinary` accepts them. -/
theorem processGRPCToHTTPTraceHeaders_partial_token (ctx : Context) :
    decodeString (ofString "AAABAgMEBQYHCAkKCwwNDg8QAQECAwQFBgcIAgE=!") =
        ([0, 0, 1, 2, 3, 4, 5, 6, 7, 8, 9, 10, 11, 12, 13, 14, 15, 16, 1, 1, 2, 3, 4, 5, 6, 7, 8, 2, 1],
          false) ∧
      internalMetadataToHTTPHeader L tr ctx
        ⟨[(contentTypeHeader, [grpcContentType]),
          (grpcTraceContextKey, [ofString "AAABAgMEBQYHCAkKCwwNDg8QAQECAwQFBgcIAgE=!"])], by decide⟩ =
        some (tr.spanContextToHTTPHeaders ((tr.spanContextFromBinary
          [0, 0, 1, 2, 3, 4, 5, 6, 7, 8, 9, 10, 11, 12, 13, 14, 15, 16, 1, 1, 2, 3, 4, 5, 6, 7, 8, 2, 1]).getD
          (tr.spanFromContext ctx))) := by
  have hdecode : decodeString (ofString "AAABAgMEBQYHCAkKCwwNDg8QAQECAwQFBgcIAgE=!") =
      ([0, 0, 1, 2, 3, 4, 5, 6, 7, 8, 9, 10, 11, 12, 13, 14, 15, 16, 1, 1, 2, 3, 4, 5, 6, 7, 8, 2, 1],
        false) := by decide
  refine ⟨hdecode, ?_⟩
  rw [internalMetadataToHTTPHeader_eq, show isGRPCProtocol _ = some true by decide]
  simp +decide [httpHeaderCalls, IsCopiedHTTPKey, httpReservedKeys, httpTraceCalls,
    processGRPCToHTTPTraceHeaders_eq, hdecode]

end DaprMessaging
