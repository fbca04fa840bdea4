import DaprMessaging.Proofs.TraceSteps

/-!
# Both conversions in closed form

With the loops replaced by their closed forms, each conversion is its trace
step applied to what the loop produced, once `IsGRPCProtocol` has picked the
origin protocol:

* `internalMetadataToGrpcMetadata_eq`: when no trace key has an empty list,
  the gRPC conversion is `grpcTraceStep` over `grpcUserMetadata`;
* `internalMetadataToHTTPHeader_eq`: the HTTP conversion is the calls
  `httpHeaderCalls` followed by `httpTraceCalls`.

Reading them off gives exactly when each conversion panics.
-/

namespace DaprMessaging

variable {Context SpanContext TraceState : Type} (L : Lowering)
  (tr : Tracing Context SpanContext TraceState)

/-- The metadata the gRPC loop produces from `entries`. -/
def grpcUserMetadata (h : Bool) (entries : List (GoString × List GoString)) : MD :=
  ⟨fun K => grpcValuesAt L h K entries⟩

/-- The trace step of the gRPC direction, on the loop's result for `internalMD`;
`grpc` is the origin `IsGRPCProtocol` reports. -/
def grpcTraceStep (ctx : Context) (internalMD : DaprInternalMetadata) (h grpc : Bool) : MD :=
  if grpc then
    processGRPCToGRPCTraceHeader L tr ctx (grpcUserMetadata L h internalMD.entries)
      (traceValue L grpcTraceContextKey internalMD.entries [])
  else
    processHTTPToGRPCTraceHeader L tr ctx (grpcUserMetadata L h internalMD.entries)
      (traceValue L traceparentHeader internalMD.entries [])
      (traceValue L tracestateHeader internalMD.entries [])

/-- The `setHeader` calls of the trace step of the HTTP direction. -/
def httpTraceCalls (ctx : Context) (internalMD : DaprInternalMetadata) (grpc : Bool) :
    List (GoString × GoString) :=
  if grpc then processGRPCToHTTPTraceHeaders tr ctx (traceValue L grpcTraceContextKey internalMD.entries [])
  else
    processHTTPToHTTPTraceHeaders tr ctx (traceValue L traceparentHeader internalMD.entries [])
      (traceValue L tracestateHeader internalMD.entries [])

variable {L tr}

theorem grpcRangeResult_init (h : Bool) (entries : List (GoString × List GoString)) :
    grpcRangeResult L h (RangeState.init MD.empty) entries =
      ⟨traceValue L traceparentHeader entries [], traceValue L tracestateHeader entries [],
        traceValue L grpcTraceContextKey entries [], grpcUserMetadata L h entries⟩ := by
  simp [grpcRangeResult, RangeState.init, grpcUserMetadata]

/-- The trace step writes only trace keys. -/
theorem grpcTraceStep_get_of_not_mem (ctx : Context) (internalMD : DaprInternalMetadata)
    (h grpc : Bool) {K : GoString} (hK : K ∉ traceKeys) :
    (grpcTraceStep L tr ctx internalMD h grpc).get K = grpcValuesAt L h K internalMD.entries := by
  unfold grpcTraceStep
  split
  · exact processGRPCToGRPCTraceHeader_get_of_not_mem ctx _ _ hK
  · exact processHTTPToGRPCTraceHeader_get_of_not_mem ctx _ _ _ hK

theorem internalMetadataToGrpcMetadata_eq (ctx : Context) (internalMD : DaprInternalMetadata)
    (h : Bool) (hpresent : TraceValuesPresent L internalMD.entries) :
    internalMetadataToGrpcMetadata L tr ctx internalMD h =
      (isGRPCProtocol internalMD).map (grpcTraceStep L tr ctx internalMD h) := by
  unfold internalMetadataToGrpcMetadata
  rw [foldlM_grpcRangeStep h _ hpresent, grpcRangeResult_init]
  cases isGRPCProtocol internalMD with
  | none => rfl
  | some grpc => cases grpc <;> rfl

theorem internalMetadataToGrpcMetadata_eq_none_of_not_present (ctx : Context)
    (internalMD : DaprInternalMetadata) (h : Bool)
    (hpresent : ¬ TraceValuesPresent L internalMD.entries) :
    internalMetadataToGrpcMetadata L tr ctx internalMD h = none := by
  unfold internalMetadataToGrpcMetadata
  rw [(foldlM_grpcRangeStep_eq_none_iff h _ _).mpr hpresent]
  rfl

theorem internalMetadataToHTTPHeader_eq (ctx : Context) (internalMD : DaprInternalMetadata) :
    internalMetadataToHTTPHeader L tr ctx internalMD =
      (isGRPCProtocol internalMD).map fun grpc =>
        httpHeaderCalls L internalMD.entries ++ httpTraceCalls L tr ctx internalMD grpc := by
  unfold internalMetadataToHTTPHeader
  rw [foldl_httpRangeStep]
  cases isGRPCProtocol internalMD with
  | none => rfl
  | some grpc => cases grpc <;> simp [httpRangeResult, RangeState.init, httpTraceCalls]

/-! ## When the conversions panic -/

/-- The gRPC conversion panics exactly when an entry whose key lowers to a
trace key holds an empty value list, or `content-type` does. -/
theorem internalMetadataToGrpcMetadata_eq_none_iff (ctx : Context)
    (internalMD : DaprInternalMetadata) (h : Bool) :
    internalMetadataToGrpcMetadata L tr ctx internalMD h = none ↔
      ¬ TraceValuesPresent L internalMD.entries ∨ internalMD.get? contentTypeHeader = some [] := by
  by_cases hpresent : TraceValuesPresent L internalMD.entries
  · simp [internalMetadataToGrpcMetadata_eq ctx internalMD h hpresent, hpresent,
      ← isGRPCProtocol_eq_none_iff]
  · simp [internalMetadataToGrpcMetadata_eq_none_of_not_present ctx internalMD h hpresent,
      hpresent]

/-- The HTTP conversion panics exactly when `content-type` holds an empty
value list. -/
theorem internalMetadataToHTTPHeader_eq_none_iff (ctx : Context)
    (internalMD : DaprInternalMetadata) :
    internalMetadataToHTTPHeader L tr ctx internalMD = none ↔
      internalMD.get? contentTypeHeader = some [] := by
  simp [internalMetadataToHTTPHeader_eq, ← isGRPCProtocol_eq_none_iff]

/-- An empty value list under `content-type` gets past the HTTP loop's
emptiness check and panics in `IsGRPCProtocol`; under a trace key it panics in
the gRPC loop, which has no such check. -/
theorem internalMetadata_empty_value_list_panics (ctx : Context) (h : Bool) :
    internalMetadataToHTTPHeader L tr ctx ⟨[(contentTypeHeader, [])], by decide⟩ = none ∧
      internalMetadataToGrpcMetadata L tr ctx ⟨[(traceparentHeader, [])], by decide⟩ h = none := by
  refine ⟨?_, internalMetadataToGrpcMetadata_eq_none_of_not_present ctx _ h ?_⟩
  · rw [internalMetadataToHTTPHeader_eq, Option.map_eq_none', isGRPCProtocol_eq_none_iff]
    rfl
  · exact fun hpresent => hpresent _ (List.mem_singleton_self _) (by simp [traceKeys]) rfl

end DaprMessaging
