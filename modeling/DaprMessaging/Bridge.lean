import DaprMessaging.Tracing

/-!
# The metadata bridge

`InternalMetadataToGrpcMetadata` and `InternalMetadataToHTTPHeader`.  Both run
one `range` loop over the internal metadata, which sets the three trace values
aside, drops `destination-app-id` and copies the other keys, and then hand the
trace values to the trace step of the origin protocol.  `WithCustomGRPCMetadata`
runs a third loop, over a plain map, into the outgoing metadata of a context.

A `range` loop is a fold over the entries in visiting order.  A read of
`GetValues()[0]` from an empty list panics; a function that can panic returns
an `Option`, `none` for the panic.  The gRPC loop reads the first value of a
trace key without looking at the length of the list, and `IsGRPCProtocol` reads
the first `content-type` value likewise; the HTTP loop skips empty lists first.
-/

namespace DaprMessaging

/-- The variables of both `range` loops: the three trace values set aside, and
what the loop has produced so far (`md`, or the `setHeader` calls). -/
structure RangeState (α : Type) where
  traceparentValue : GoString
  tracestateValue : GoString
  grpctracebinValue : GoString
  out : α

/-- The state before the loop: empty trace values, nothing produced. -/
def RangeState.init {α : Type} (out : α) : RangeState α := ⟨[], [], [], out⟩

variable {Context SpanContext TraceState : Type} (L : Lowering)
  (tr : Tracing Context SpanContext TraceState)

/-! ## To gRPC metadata -/

/-- The inner loop over the values of a `-bin` key: each value that decodes is
appended decoded, the others are skipped. -/
def appendDecoded (md : MD) (keyName : GoString) (values : List GoString) : MD :=
  values.foldl (fun md val =>
    match decodeString val with
    | (decoded, true) => md.append L keyName [decoded]
    | (_, false) => md) md

/-- One iteration of `InternalMetadataToGrpcMetadata`'s loop, on the entry
`(k, listVal)`. -/
def grpcRangeStep (httpHeaderConversion : Bool) (s : RangeState MD) (k : GoString)
    (listVal : List GoString) : Option (RangeState MD) :=
  let keyName := L.toLower k
  if keyName = traceparentHeader then listVal.head?.map fun v => { s with traceparentValue := v }
  else if keyName = tracestateHeader then listVal.head?.map fun v => { s with tracestateValue := v }
  else if keyName = grpcTraceContextKey then
    listVal.head?.map fun v => { s with grpctracebinValue := v }
  else if keyName = destinationIDHeader then some s
  else
    let keyName :=
      if httpHeaderConversion && isPermanentHTTPHeader k then daprHeaderPrefix ++ keyName
      else keyName
    if hasSuffix k gRPCBinaryMetadataSuffix then
      some { s with out := appendDecoded L s.out keyName listVal }
    else some { s with out := s.out.append L keyName listVal }

/-- `InternalMetadataToGrpcMetadata(ctx, internalMD, httpHeaderConversion)`. -/
def internalMetadataToGrpcMetadata (ctx : Context) (internalMD : DaprInternalMetadata)
    (httpHeaderConversion : Bool) : Option MD := do
  let s ← internalMD.entries.foldlM (fun s e => grpcRangeStep L httpHeaderConversion s e.1 e.2)
    (RangeState.init MD.empty)
  if ← isGRPCProtocol internalMD then
    pure (processGRPCToGRPCTraceHeader L tr ctx s.out s.grpctracebinValue)
  else
    pure (processHTTPToGRPCTraceHeader L tr ctx s.out s.traceparentValue s.tracestateValue)

/-! ## To HTTP headers -/

/-- One iteration of `InternalMetadataToHTTPHeader`'s loop, on the entry
`(k, listVal)`; the `setHeader` calls are appended to `out`. -/
def httpRangeStep (s : RangeState (List (GoString × GoString))) (k : GoString) :
    List GoString → RangeState (List (GoString × GoString))
  | [] => s
  | v :: vs =>
      let keyName := L.toLower k
      if keyName = traceparentHeader then { s with traceparentValue := v }
      else if keyName = tracestateHeader then { s with tracestateValue := v }
      else if keyName = grpcTraceContextKey then { s with grpctracebinValue := v }
      else if keyName = destinationIDHeader then s
      else if keyName = baggageHeader then { s with out := s.out ++ [(baggageHeader, v)] }
      else if hasSuffix keyName gRPCBinaryMetadataSuffix ∨ keyName = contentTypeHeader then s
      else
        { s with out := s.out ++ (v :: vs).map fun v =>
            (reservedGRPCMetadataToDaprPrefixHeader keyName, v) }

/-- `InternalMetadataToHTTPHeader(ctx, internalMD, setHeader)`: the `setHeader`
calls it makes, in order. -/
def internalMetadataToHTTPHeader (ctx : Context) (internalMD : DaprInternalMetadata) :
    Option (List (GoString × GoString)) := do
  let s := internalMD.entries.foldl (fun s e => httpRangeStep L s e.1 e.2) (RangeState.init [])
  if ← isGRPCProtocol internalMD then
    pure (s.out ++ processGRPCToHTTPTraceHeaders tr ctx s.grpctracebinValue)
  else
    pure (s.out ++ processHTTPToHTTPTraceHeaders tr ctx s.traceparentValue s.tracestateValue)

/-! ## Custom metadata -/

/-- A `map[string]string`, as its entries in the order a `range` loop visits
them. -/
structure StringMap where
  entries : List (GoString × GoString)
  nodup : (entries.map Prod.fst).Nodup

variable (F : Folding)

/-- `strings.EqualFold(k, ContentTypeHeader) || strings.EqualFold(k, ContentLengthHeader)`:
the keys `WithCustomGRPCMetadata` skips. -/
def isSkippedCustomKey (k : GoString) : Bool :=
  F.equalFold k contentTypeHeader || F.equalFold k contentLengthHeader

/-- One iteration of `WithCustomGRPCMetadata`'s loop, on the entry `(k, v)`,
over the outgoing metadata as `metadata.FromOutgoingContext` reads it:
`AppendToOutgoingContext(ctx, k, v)` adds `v` under the lowered key (lowered
again on reading, which changes nothing). -/
def customMetadataStep (md : MD) (k v : GoString) : MD :=
  if isSkippedCustomKey F k then md else md.append L k [v]

/-- `WithCustomGRPCMetadata(ctx, md)`, on the outgoing metadata of `ctx`. -/
def withCustomGRPCMetadata (outgoing : MD) (md : StringMap) : MD :=
  md.entries.foldl (fun out e => customMetadataStep L F out e.1 e.2) outgoing

end DaprMessaging
