import DaprMessaging.Metadata
import DaprMessaging.Status

/-!
# gRPC metrics

The recorder `grpcMetrics`, the views its `Init` registers, and its four
interceptors.  A view is a measure with the tag keys it is broken down by and
its aggregation.  A `Recording` is one call of `stats.RecordWithOptions` as
this package makes it: the measure, the tag pairs passed to
`diagUtils.WithTags`, and the measurement; the elapsed time since `start`, in
milliseconds, is a parameter, as the clock is outside the model.  What the
stats library keeps of a call is not modelled: `diagUtils.WithTags` and the
tag library lie outside this package and may leave a pair out or refuse the
call (an empty app id, a method name the tag library does not accept), so the
model says which calls are made, with which arguments, and not what a backend
stores.

An interceptor runs the handler and then reports around it: the calls of its
recording method, then `RecordErrorCode` when the handler failed.  It returns
the handler's result unchanged, so the model keeps only its reports, in order
(`MetricsEvent`).  The handler's result is an `Outcome`: the payload size of
its response, or the status code of its error.

Every recording method first checks `IsEnabled()`, so the five of them are one
guarded list of calls each (`recordWhenEnabled`).  The two streaming
interceptors differ only in the method they report with, and measure only
proxied streams, those whose incoming metadata has a `dapr-app-id` value
(`proxiedStreamEvents`).
-/

namespace DaprMessaging

open GoString

/-- The tag keys: `appIDKey`, and `KeyServerMethod`, `KeyServerStatus`,
`KeyClientMethod`, `KeyClientStatus`. -/
inductive TagKey
  | appID | serverMethod | serverStatus | clientMethod | clientStatus
  deriving DecidableEq, Repr

/-- The measures of `grpcMetrics`, by field. -/
inductive Measure
  | serverReceivedBytes | serverSentBytes | serverLatency | serverCompletedRpcs
  | clientSentBytes | clientReceivedBytes | clientRoundtripLatency | clientCompletedRpcs
  | healthProbeCompletedCount | healthProbeRoundtripLatency
  deriving DecidableEq, Repr

/-- The arguments of one `stats.RecordWithOptions` call: the measure, the tag
pairs passed to `diagUtils.WithTags`, and the measurement.  It is the call,
not what the stats library stores of it. -/
structure Recording where
  measure : Measure
  tags : List (TagKey × GoString)
  value : Int
  deriving DecidableEq, Repr

/-- `grpcMetrics`: the fields the recording methods read. -/
structure GrpcMetrics where
  appID : GoString
  enabled : Bool
  deriving DecidableEq, Repr

/-- `newGRPCMetrics()`: a recorder that makes no call until `Init`. -/
def newGRPCMetrics : GrpcMetrics := ⟨[], false⟩

/-- `g.Init(meter, appID, latencyDistribution)`, on the recorder's fields. -/
def GrpcMetrics.init (g : GrpcMetrics) (appID : GoString) : GrpcMetrics :=
  { g with appID := appID, enabled := true }

/-- `g.IsEnabled()`. -/
def GrpcMetrics.isEnabled (g : GrpcMetrics) : Bool := g.enabled

/-- The aggregations of the views: `defaultSizeDistribution`, the
`latencyDistribution` given to `Init`, and `view.Count()`. -/
inductive Aggregation
  | defaultSizeDistribution | latencyDistribution | count
  deriving DecidableEq, Repr

/-- `diagUtils.NewMeasureView(measure, tagKeys, aggregation)`. -/
structure MeasureView where
  measure : Measure
  tagKeys : List TagKey
  aggregation : Aggregation
  deriving DecidableEq, Repr

/-- The views `Init` registers with `meter.Register`, in order. -/
def initViews : List MeasureView :=
  [⟨.serverReceivedBytes, [.appID, .serverMethod], .defaultSizeDistribution⟩,
    ⟨.serverSentBytes, [.appID, .serverMethod], .defaultSizeDistribution⟩,
    ⟨.serverLatency, [.appID, .serverMethod, .serverStatus], .latencyDistribution⟩,
    ⟨.serverCompletedRpcs, [.appID, .serverMethod, .serverStatus], .count⟩,
    ⟨.clientSentBytes, [.appID, .clientMethod], .defaultSizeDistribution⟩,
    ⟨.clientReceivedBytes, [.appID, .clientMethod], .defaultSizeDistribution⟩,
    ⟨.clientRoundtripLatency, [.appID, .clientMethod, .clientStatus], .latencyDistribution⟩,
    ⟨.clientCompletedRpcs, [.appID, .clientMethod, .clientStatus], .count⟩,
    ⟨.healthProbeRoundtripLatency, [.appID, .clientStatus], .latencyDistribution⟩,
    ⟨.healthProbeCompletedCount, [.appID, .clientStatus], .count⟩]

/-- The calls a method makes after `if !g.IsEnabled() { return }`. -/
def GrpcMetrics.recordWhenEnabled (g : GrpcMetrics) (recordings : List Recording) :
    List Recording :=
  if g.isEnabled then recordings else []

/-- `g.ServerRequestSent(ctx, method, status, reqContentSize, resContentSize, start)`. -/
def GrpcMetrics.serverRequestSent (g : GrpcMetrics) (method status : GoString)
    (reqContentSize resContentSize elapsed : Int) : List Recording :=
  g.recordWhenEnabled
    [⟨.serverCompletedRpcs, [(.appID, g.appID), (.serverMethod, method), (.serverStatus, status)], 1⟩,
      ⟨.serverReceivedBytes, [(.appID, g.appID), (.serverMethod, method)], reqContentSize⟩,
      ⟨.serverSentBytes, [(.appID, g.appID), (.serverMethod, method)], resContentSize⟩,
      ⟨.serverLatency, [(.appID, g.appID), (.serverMethod, method), (.serverStatus, status)],
        elapsed⟩]

/-- `g.StreamServerRequestSent(ctx, method, status, start)`. -/
def GrpcMetrics.streamServerRequestSent (g : GrpcMetrics) (method status : GoString)
    (elapsed : Int) : List Recording :=
  g.recordWhenEnabled
    [⟨.serverCompletedRpcs, [(.appID, g.appID), (.serverMethod, method), (.serverStatus, status)], 1⟩,
      ⟨.serverLatency, [(.appID, g.appID), (.serverMethod, method), (.serverStatus, status)],
        elapsed⟩]

/-- `g.StreamClientRequestSent(ctx, method, status, start)`. -/
def GrpcMetrics.streamClientRequestSent (g : GrpcMetrics) (method status : GoString)
    (elapsed : Int) : List Recording :=
  g.recordWhenEnabled
    [⟨.clientCompletedRpcs, [(.appID, g.appID), (.clientMethod, method), (.clientStatus, status)], 1⟩,
      ⟨.clientRoundtripLatency,
        [(.appID, g.appID), (.clientMethod, method), (.clientStatus, status)], elapsed⟩]

/-- `g.ClientRequestReceived(ctx, method, status, reqContentSize, resContentSize, start)`. -/
def GrpcMetrics.clientRequestReceived (g : GrpcMetrics) (method status : GoString)
    (reqContentSize resContentSize elapsed : Int) : List Recording :=
  g.recordWhenEnabled
    [⟨.clientCompletedRpcs, [(.appID, g.appID), (.clientMethod, method), (.clientStatus, status)], 1⟩,
      ⟨.clientRoundtripLatency,
        [(.appID, g.appID), (.clientMethod, method), (.clientStatus, status)], elapsed⟩,
      ⟨.clientSentBytes, [(.appID, g.appID), (.clientMethod, method)], reqContentSize⟩,
      ⟨.clientReceivedBytes, [(.appID, g.appID), (.clientMethod, method)], resContentSize⟩]

/-- `g.AppHealthProbeCompleted(ctx, status, start)`. -/
def GrpcMetrics.appHealthProbeCompleted (g : GrpcMetrics) (status : GoString) (elapsed : Int) :
    List Recording :=
  g.recordWhenEnabled
    [⟨.healthProbeCompletedCount, [(.appID, g.appID), (.clientStatus, status)], 1⟩,
      ⟨.healthProbeRoundtripLatency, [(.appID, g.appID), (.clientStatus, status)], elapsed⟩]

/-! ## Interceptors -/

/-- `codes.Code.String()`: the name of a named code, and `Code(n)` with the
decimal value `n` (`strconv.FormatInt`) for any other. -/
def Code.str (code : Code) : GoString :=
  if code = .ok then ofString "OK"
  else if code = .canceled then ofString "Canceled"
  else if code = .unknown then ofString "Unknown"
  else if code = .invalidArgument then ofString "InvalidArgument"
  else if code = .deadlineExceeded then ofString "DeadlineExceeded"
  else if code = .notFound then ofString "NotFound"
  else if code = .alreadyExists then ofString "AlreadyExists"
  else if code = .permissionDenied then ofString "PermissionDenied"
  else if code = .resourceExhausted then ofString "ResourceExhausted"
  else if code = .failedPrecondition then ofString "FailedPrecondition"
  else if code = .aborted then ofString "Aborted"
  else if code = .outOfRange then ofString "OutOfRange"
  else if code = .unimplemented then ofString "Unimplemented"
  else if code = .internal then ofString "Internal"
  else if code = .unavailable then ofString "Unavailable"
  else if code = .dataLoss then ofString "DataLoss"
  else if code = .unauthenticated then ofString "Unauthenticated"
  else ofString "Code(" ++ itoa code.val.toNat ++ ofString ")"

example : (Code.mk 17).str = ofString "Code(17)" := by decide

/-- What the wrapped handler returned: a response with the payload size
`getPayloadSize` gives, or an error with its status code. -/
inductive Outcome
  | ok (respSize : Int)
  | error (code : Code)

/-- `status.Code(err)`. -/
def Outcome.code : Outcome → Code
  | .ok _ => .ok
  | .error code => code

/-- The size the interceptors record for the response: `0` after an error. -/
def Outcome.respSize : Outcome → Int
  | .ok respSize => respSize
  | .error _ => 0

/-- What an interceptor reports: a `RecordWithOptions` call, or
`RecordErrorCode(err)`. -/
inductive MetricsEvent
  | record (r : Recording)
  | recordErrorCode (code : Code)

/-- The reports after the handler: the `RecordWithOptions` calls, then
`if err != nil { RecordErrorCode(err) }`. -/
def completedCallEvents (recordings : List Recording) (outcome : Outcome) : List MetricsEvent :=
  recordings.map .record ++
    match outcome with
    | .ok _ => []
    | .error code => [.recordErrorCode code]

/-- `appHealthCheckMethod`. -/
def appHealthCheckMethod : GoString :=
  ofString "/dapr.proto.runtime.v1.AppCallbackHealthCheck/HealthCheck"

/-- `diagConsts.GRPCProxyAppIDKey`. -/
def grpcProxyAppIDKey : GoString := ofString "dapr-app-id"

/-- `g.UnaryServerInterceptor()` around a call of `fullMethod` whose request
has payload size `reqSize`. -/
def GrpcMetrics.unaryServerInterceptor (g : GrpcMetrics) (fullMethod : GoString) (reqSize : Int)
    (outcome : Outcome) (elapsed : Int) : List MetricsEvent :=
  completedCallEvents
    (g.serverRequestSent fullMethod outcome.code.str reqSize outcome.respSize elapsed) outcome

/-- `g.UnaryClientInterceptor()`: a call of the health-check method is a
health probe. -/
def GrpcMetrics.unaryClientInterceptor (g : GrpcMetrics) (method : GoString) (reqSize : Int)
    (outcome : Outcome) (elapsed : Int) : List MetricsEvent :=
  completedCallEvents
    (if method = appHealthCheckMethod then g.appHealthProbeCompleted outcome.code.str elapsed
      else g.clientRequestReceived method outcome.code.str reqSize outcome.respSize elapsed)
    outcome

/-- A streaming interceptor: a stream whose incoming metadata has no
`dapr-app-id` value (`!ok || len(vals) == 0`) goes straight to the handler
with no report; a proxied one reports the calls `recordings`. -/
def proxiedStreamEvents (md : MD) (recordings : List Recording) (outcome : Outcome) :
    List MetricsEvent :=
  if md.get grpcProxyAppIDKey = [] then [] else completedCallEvents recordings outcome

/-- `g.StreamingServerInterceptor()`. -/
def GrpcMetrics.streamingServerInterceptor (g : GrpcMetrics) (md : MD) (fullMethod : GoString)
    (outcome : Outcome) (elapsed : Int) : List MetricsEvent :=
  proxiedStreamEvents md (g.streamServerRequestSent fullMethod outcome.code.str elapsed) outcome

/-- `g.StreamingClientInterceptor()`. -/
def GrpcMetrics.streamingClientInterceptor (g : GrpcMetrics) (md : MD) (fullMethod : GoString)
    (outcome : Outcome) (elapsed : Int) : List MetricsEvent :=
  proxiedStreamEvents md (g.streamClientRequestSent fullMethod outcome.code.str elapsed) outcome

end DaprMessaging
