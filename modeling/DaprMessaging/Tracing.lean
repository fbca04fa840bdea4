import DaprMessaging.Metadata

/-!
# Trace propagation

The four `process…Trace…` functions, one per pair of origin and target
protocol.  The origin is the protocol `IsGRPCProtocol` reads off the inbound
metadata; each function receives the trace values the conversion loop set
aside.

```text
origin → target   reads               falls back to the ambient span when
HTTP → HTTP       traceparent, state  traceparent is empty (else passes both through)
gRPC → HTTP       grpc-trace-bin      the decoded bytes do not parse
HTTP → gRPC       traceparent, state  traceparent does not parse
gRPC → gRPC       grpc-trace-bin      the value is empty; if it does not decode, nothing is set
```

The span contexts and their encodings belong to the tracing SDK and to
`diag`/`diagUtils`, which the bridge only calls: `Tracing` takes them as
parameters.  The one fact about them the results use is the one the design
states: `SpanContextToHTTPHeaders` emits only `traceparent` and `tracestate`.
-/

namespace DaprMessaging

/-- The tracing operations the bridge calls. -/
structure Tracing (Context SpanContext TraceState : Type) where
  /-- `diagUtils.SpanFromContext(ctx).SpanContext()`, the ambient span context. -/
  spanFromContext : Context → SpanContext
  /-- `diag.SpanContextFromW3CString`. -/
  spanContextFromW3CString : GoString → Option SpanContext
  /-- `diag.TraceStateFromW3CString`. -/
  traceStateFromW3CString : GoString → TraceState
  /-- `sc.WithTraceState(ts)`. -/
  withTraceState : SpanContext → TraceState → SpanContext
  /-- `diagUtils.SpanContextFromBinary`. -/
  spanContextFromBinary : GoString → Option SpanContext
  /-- `diagUtils.BinaryFromSpanContext`. -/
  binaryFromSpanContext : SpanContext → GoString
  /-- `diag.SpanContextToHTTPHeaders`, as the `setHeader` calls it makes, in order. -/
  spanContextToHTTPHeaders : SpanContext → List (GoString × GoString)
  spanContextToHTTPHeaders_name : ∀ sc p, p ∈ spanContextToHTTPHeaders sc →
    p.1 = traceparentHeader ∨ p.1 = tracestateHeader

/-- A tracer whose span context is its own token: a non-empty token parses as
itself in either encoding, and the ambient span context is the context.  It
runs the examples. -/
def Tracing.echo : Tracing GoString GoString Unit where
  spanFromContext ctx := ctx
  spanContextFromW3CString s := if s = [] then none else some s
  traceStateFromW3CString _ := ()
  withTraceState sc _ := sc
  spanContextFromBinary b := if b = [] then none else some b
  binaryFromSpanContext sc := sc
  spanContextToHTTPHeaders sc := [(traceparentHeader, sc)]
  spanContextToHTTPHeaders_name _ _ h := by simp_all

variable {Context SpanContext TraceState : Type} (L : Lowering)
  (tr : Tracing Context SpanContext TraceState)

/-- The callback `func(header, value string) { md.Set(header, value) }`, run
over the calls `SpanContextToHTTPHeaders` makes. -/
def setHeaders (md : MD) (headers : List (GoString × GoString)) : MD :=
  headers.foldl (fun md p => md.set L p.1 [p.2]) md

/-- `processGRPCToHTTPTraceHeaders`: the `setHeader` calls it makes.  The
decoding error is discarded, and whatever bytes were decoded are parsed. -/
def processGRPCToHTTPTraceHeaders (ctx : Context) (traceContext : GoString) :
    List (GoString × GoString) :=
  let decoded := (decodeString traceContext).1
  let sc := match tr.spanContextFromBinary decoded with
    | some sc => sc
    | none => tr.spanFromContext ctx
  tr.spanContextToHTTPHeaders sc

/-- `processHTTPToHTTPTraceHeaders`: the `setHeader` calls it makes. -/
def processHTTPToHTTPTraceHeaders (ctx : Context) (traceparentValue traceStateValue : GoString) :
    List (GoString × GoString) :=
  if traceparentValue = [] then tr.spanContextToHTTPHeaders (tr.spanFromContext ctx)
  else (traceparentHeader, traceparentValue) ::
    if traceStateValue = [] then [] else [(tracestateHeader, traceStateValue)]

/-- `processHTTPToGRPCTraceHeader`: the span context parsed from `traceparent`
(with `tracestate`), or the ambient one, written to `md` in both encodings. -/
def processHTTPToGRPCTraceHeader (ctx : Context) (md : MD)
    (traceparentValue traceStateValue : GoString) : MD :=
  let sc := match tr.spanContextFromW3CString traceparentValue with
    | some sc => tr.withTraceState sc (tr.traceStateFromW3CString traceStateValue)
    | none => tr.spanFromContext ctx
  (setHeaders L md (tr.spanContextToHTTPHeaders sc)).set L grpcTraceContextKey
    [tr.binaryFromSpanContext sc]

/-- `processGRPCToGRPCTraceHeader`.  A value that decodes is forwarded as its
decoded bytes, mirrored as W3C headers only when those bytes parse; a value
that does not decode leaves `md` as it is. -/
def processGRPCToGRPCTraceHeader (ctx : Context) (md : MD) (grpctracebinValue : GoString) : MD :=
  if grpctracebinValue = [] then
    let sc := tr.spanFromContext ctx
    (setHeaders L md (tr.spanContextToHTTPHeaders sc)).set L grpcTraceContextKey
      [tr.binaryFromSpanContext sc]
  else
    match decodeString grpctracebinValue with
    | (decoded, true) =>
        let md := match tr.spanContextFromBinary decoded with
          | some sc => setHeaders L md (tr.spanContextToHTTPHeaders sc)
          | none => md
        md.set L grpcTraceContextKey [decoded]
    | (_, false) => md

end DaprMessaging
