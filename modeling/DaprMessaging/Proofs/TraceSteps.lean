import DaprMessaging.Proofs.HTTPRange

/-!
# What the trace steps write

The two gRPC trace steps write `md` only through `Set`, under `grpc-trace-bin`
and under the names `SpanContextToHTTPHeaders` emits, which are `traceparent`
and `tracestate`.  So every other key keeps what the loop put there
(`processGRPCToGRPCTraceHeader_get_of_not_mem`,
`processHTTPToGRPCTraceHeader_get_of_not_mem`), and under a trace key the
value is the last one set (`setHeaders_get`).  The two HTTP trace steps emit
only calls named `traceparent` or `tracestate`.
-/

namespace DaprMessaging

variable {Context SpanContext TraceState : Type} {L : Lowering}
  {tr : Tracing Context SpanContext TraceState}

/-- The values `md.Set` leaves under `K` after the calls `headers`, on a key
that held nothing before. -/
def setValue (headers : List (GoString × GoString)) (K : GoString) : List GoString :=
  ((headers.filter fun p => p.1 = K).getLast?.map fun p => [p.2]).getD []

/-- The two names of W3C trace context. -/
def w3cHeaders : List GoString := [traceparentHeader, tracestateHeader]

theorem setHeaders_get (md : MD) (headers : List (GoString × GoString)) (K : GoString) :
    (setHeaders L md headers).get K =
      ((headers.filter fun p => L.toLower p.1 = K).getLast?.map fun p => [p.2]).getD (md.get K) := by
  induction headers generalizing md with
  | nil => rfl
  | cons p headers ih =>
      simp only [setHeaders, List.foldl_cons] at ih ⊢
      rw [ih, List.filter_cons]
      by_cases hp : L.toLower p.1 = K
      · subst hp
        simp only [decide_True, ↓reduceIte, List.getLast?_cons]
        cases (headers.filter fun q => L.toLower q.1 = L.toLower p.1).getLast? <;> simp
      · simp [hp, @eq_comm _ K]

theorem name_mem_w3cHeaders_of_mem (sc : SpanContext) {p : GoString × GoString}
    (hp : p ∈ tr.spanContextToHTTPHeaders sc) : p.1 ∈ w3cHeaders := by
  rcases tr.spanContextToHTTPHeaders_name sc p hp with h | h <;> simp [w3cHeaders, h]

/-- Calls named only `traceparent` or `tracestate`, as `SpanContextToHTTPHeaders` makes. -/
def W3CNamed (headers : List (GoString × GoString)) : Prop := ∀ p ∈ headers, p.1 ∈ w3cHeaders

theorem w3cNamed_spanContextToHTTPHeaders (sc : SpanContext) :
    W3CNamed (tr.spanContextToHTTPHeaders sc) :=
  fun _ hp => name_mem_w3cHeaders_of_mem sc hp

theorem setHeaders_get_of_not_mem (md : MD) {headers : List (GoString × GoString)}
    (hnames : W3CNamed headers) {K : GoString} (hK : K ∉ w3cHeaders) :
    (setHeaders L md headers).get K = md.get K := by
  rw [setHeaders_get, List.filter_eq_nil_iff.mpr]
  · rfl
  · intro p hp hlow
    have hname := hnames p hp
    simp only [w3cHeaders, List.mem_cons, List.mem_singleton, List.not_mem_nil, or_false]
      at hname hK
    rcases hname with h | h <;> simp_all

theorem setHeaders_get_of_empty (md : MD) {headers : List (GoString × GoString)}
    (hnames : W3CNamed headers) {K : GoString} (hK : md.get K = []) :
    (setHeaders L md headers).get K = setValue headers K := by
  rw [setHeaders_get, hK, setValue, List.filter_congr]
  intro p hp
  have hname := hnames p hp
  simp only [w3cHeaders, List.mem_cons, List.mem_singleton, List.not_mem_nil, or_false] at hname
  rcases hname with h | h <;> simp [h]

theorem processGRPCToGRPCTraceHeader_get_of_not_mem (ctx : Context) (md : MD) (value : GoString)
    {K : GoString} (hK : K ∉ traceKeys) :
    (processGRPCToGRPCTraceHeader L tr ctx md value).get K = md.get K := by
  have hw : K ∉ w3cHeaders := by simp_all [traceKeys, w3cHeaders]
  have hb : K ≠ grpcTraceContextKey := by simp_all [traceKeys]
  unfold processGRPCToGRPCTraceHeader
  split_ifs
  · simp [hb, setHeaders_get_of_not_mem _ (w3cNamed_spanContextToHTTPHeaders _) hw]
  · rcases decodeString value with ⟨decoded, _ | _⟩
    · rfl
    · cases hsc : tr.spanContextFromBinary decoded <;>
        simp [hsc, hb, setHeaders_get_of_not_mem _ (w3cNamed_spanContextToHTTPHeaders _) hw]

theorem processHTTPToGRPCTraceHeader_get_of_not_mem (ctx : Context) (md : MD)
    (traceparentValue traceStateValue : GoString) {K : GoString} (hK : K ∉ traceKeys) :
    (processHTTPToGRPCTraceHeader L tr ctx md traceparentValue traceStateValue).get K = md.get K := by
  have hw : K ∉ w3cHeaders := by simp_all [traceKeys, w3cHeaders]
  have hb : K ≠ grpcTraceContextKey := by simp_all [traceKeys]
  simp [processHTTPToGRPCTraceHeader, hb, setHeaders_get_of_not_mem _ (w3cNamed_spanContextToHTTPHeaders _) hw]

theorem name_mem_w3cHeaders_of_mem_processGRPCToHTTPTraceHeaders (ctx : Context)
    (traceContext : GoString) {p : GoString × GoString}
    (hp : p ∈ processGRPCToHTTPTraceHeaders tr ctx traceContext) : p.1 ∈ w3cHeaders :=
  name_mem_w3cHeaders_of_mem _ hp

theorem name_mem_w3cHeaders_of_mem_processHTTPToHTTPTraceHeaders (ctx : Context)
    (traceparentValue traceStateValue : GoString) {p : GoString × GoString}
    (hp : p ∈ processHTTPToHTTPTraceHeaders tr ctx traceparentValue traceStateValue) :
    p.1 ∈ w3cHeaders := by
  unfold processHTTPToHTTPTraceHeaders at hp
  split_ifs at hp
  · exact name_mem_w3cHeaders_of_mem _ hp
  · simp only [List.mem_singleton] at hp
    simp [hp, w3cHeaders]
  · simp only [List.mem_cons, List.mem_singleton, List.not_mem_nil, or_false] at hp
    rcases hp with rfl | rfl <;> simp [w3cHeaders]

end DaprMessaging
