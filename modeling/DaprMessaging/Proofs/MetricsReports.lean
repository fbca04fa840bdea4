import DaprMessaging.Metrics

/-!
# What the interceptors report

The four interceptors as one recorder seen from outside: `GrpcMetrics.intercept`
sends a call to the interceptor that wraps it.  What they report is a list of
`RecordWithOptions` calls and `RecordErrorCode` calls; what the stats library
keeps of the former is outside the model (see `Metrics.lean`).

* `recordingsOf_intercept` and `errorCodesOf_intercept` give the two kinds of
  report of every interceptor, with its guards: the recorder's switch, the
  health-check method and the `dapr-app-id` value.  A disabled recorder makes
  no `RecordWithOptions` call (`recordingsOf_intercept_of_disabled`), while
  `RecordErrorCode` is not behind that switch.
* Every `RecordWithOptions` call passes `WithTags` exactly the tag keys, in
  order, of the view `Init` registers for its measure (`tagKeys_intercept`):
  the recording methods and `Init` agree.
-/

namespace DaprMessaging

open GoString

/-- A call an interceptor wraps, with what its interceptor reads of it. -/
inductive InterceptedCall
  | unaryServer (fullMethod : GoString) (reqSize : Int)
  | unaryClient (method : GoString) (reqSize : Int)
  | streamServer (md : MD) (fullMethod : GoString)
  | streamClient (md : MD) (fullMethod : GoString)

/-- The reports of the interceptor that wraps `call`. -/
def GrpcMetrics.intercept (g : GrpcMetrics) :
    InterceptedCall → Outcome → Int → List MetricsEvent
  | .unaryServer fullMethod reqSize => g.unaryServerInterceptor fullMethod reqSize
  | .unaryClient method reqSize => g.unaryClientInterceptor method reqSize
  | .streamServer md fullMethod => g.streamingServerInterceptor md fullMethod
  | .streamClient md fullMethod => g.streamingClientInterceptor md fullMethod

/-- Whether the interceptor measures the call: every unary call, and the
streams with a `dapr-app-id` value. -/
def InterceptedCall.measured : InterceptedCall → Bool
  | .unaryServer .. | .unaryClient .. => true
  | .streamServer md _ | .streamClient md _ => md.get grpcProxyAppIDKey ≠ []

/-- The `RecordWithOptions` calls among the reports. -/
def recordingsOf (events : List MetricsEvent) : List Recording :=
  events.filterMap fun
    | .record r => some r
    | .recordErrorCode _ => none

/-- The error codes reported to `RecordErrorCode`. -/
def errorCodesOf (events : List MetricsEvent) : List Code :=
  events.filterMap fun
    | .record _ => none
    | .recordErrorCode code => some code

/-- The error code of a failed handler. -/
def Outcome.error? : Outcome → Option Code
  | .ok _ => none
  | .error code => some code

/-- The view `Init` registers for a measure. -/
def viewOf (m : Measure) : Option MeasureView := initViews.find? fun v => v.measure = m

/-! ## The reports of one call -/

@[simp] theorem recordingsOf_completedCallEvents (recordings : List Recording) (outcome : Outcome) :
    recordingsOf (completedCallEvents recordings outcome) = recordings := by
  cases outcome <;> simp [completedCallEvents, recordingsOf, List.filterMap_map, Function.comp_def]

@[simp] theorem errorCodesOf_completedCallEvents (recordings : List Recording) (outcome : Outcome) :
    errorCodesOf (completedCallEvents recordings outcome) = outcome.error?.toList := by
  cases outcome <;> simp [completedCallEvents, errorCodesOf, List.filterMap_map, Function.comp_def,
    Outcome.error?]

@[simp] theorem recordingsOf_nil : recordingsOf [] = [] := rfl

@[simp] theorem errorCodesOf_nil : errorCodesOf [] = [] := rfl

theorem recordWhenEnabled_of_disabled {g : GrpcMetrics} (hg : g.enabled = false)
    (recordings : List Recording) : g.recordWhenEnabled recordings = [] := by
  simp [GrpcMetrics.recordWhenEnabled, GrpcMetrics.isEnabled, hg]

/-! ## Every call -/

section
variable (g : GrpcMetrics) (call : InterceptedCall) (outcome : Outcome) (elapsed : Int)

/-- The `RecordWithOptions` calls of each interceptor, with its guards. -/
theorem recordingsOf_intercept :
    recordingsOf (g.intercept call outcome elapsed) =
      match call with
      | .unaryServer fullMethod reqSize =>
          g.serverRequestSent fullMethod outcome.code.str reqSize outcome.respSize elapsed
      | .unaryClient method reqSize =>
          if method = appHealthCheckMethod then g.appHealthProbeCompleted outcome.code.str elapsed
          else g.clientRequestReceived method outcome.code.str reqSize outcome.respSize elapsed
      | .streamServer md fullMethod =>
          if md.get grpcProxyAppIDKey = [] then []
          else g.streamServerRequestSent fullMethod outcome.code.str elapsed
      | .streamClient md fullMethod =>
          if md.get grpcProxyAppIDKey = [] then []
          else g.streamClientRequestSent fullMethod outcome.code.str elapsed := by
  cases call <;>
    simp only [GrpcMetrics.intercept, GrpcMetrics.unaryServerInterceptor,
      GrpcMetrics.unaryClientInterceptor, GrpcMetrics.streamingServerInterceptor,
      GrpcMetrics.streamingClientInterceptor, proxiedStreamEvents, recordingsOf_completedCallEvents] <;>
    split_ifs <;> simp only [recordingsOf_nil, recordingsOf_completedCallEvents]

/-- A disabled recorder makes no `RecordWithOptions` call, whatever the call it
wraps. -/
theorem recordingsOf_intercept_of_disabled (hg : g.enabled = false) :
    recordingsOf (g.intercept call outcome elapsed) = [] := by
  rw [recordingsOf_intercept]
  cases call <;> simp only [GrpcMetrics.serverRequestSent, GrpcMetrics.clientRequestReceived,
    GrpcMetrics.appHealthProbeCompleted, GrpcMetrics.streamServerRequestSent,
    GrpcMetrics.streamClientRequestSent, recordWhenEnabled_of_disabled hg, ite_self]

/-- A measured call reports the handler's error code exactly when the
handler failed; an unproxied stream reports nothing. -/
theorem errorCodesOf_intercept :
    errorCodesOf (g.intercept call outcome elapsed) =
      if call.measured then outcome.error?.toList else [] := by
  cases call <;>
    simp [GrpcMetrics.intercept, GrpcMetrics.unaryServerInterceptor,
      GrpcMetrics.unaryClientInterceptor, GrpcMetrics.streamingServerInterceptor,
      GrpcMetrics.streamingClientInterceptor, proxiedStreamEvents, InterceptedCall.measured] <;>
    split_ifs <;> simp

/-- Every `RecordWithOptions` call passes `WithTags` exactly the tag keys, in
order, of the view `Init` registers for its measure: the call names every key
of the view, and no key the view ignores. -/
theorem tagKeys_intercept :
    ∀ r ∈ recordingsOf (g.intercept call outcome elapsed),
      (viewOf r.measure).map MeasureView.tagKeys = some (r.tags.map Prod.fst) := by
  have hall : ∀ l : List Recording, (l.all fun r =>
      (viewOf r.measure).map MeasureView.tagKeys = some (r.tags.map Prod.fst)) = true →
      ∀ r ∈ l, (viewOf r.measure).map MeasureView.tagKeys = some (r.tags.map Prod.fst) :=
    fun l h r hr => of_decide_eq_true (List.all_eq_true.mp h r hr)
  rw [recordingsOf_intercept]
  cases call <;>
    simp only [GrpcMetrics.serverRequestSent, GrpcMetrics.clientRequestReceived,
      GrpcMetrics.appHealthProbeCompleted, GrpcMetrics.streamServerRequestSent,
      GrpcMetrics.streamClientRequestSent, GrpcMetrics.recordWhenEnabled] <;>
    split_ifs <;> exact hall _ rfl

end

end DaprMessaging
