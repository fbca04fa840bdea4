import DaprMessaging.Proofs.GrpcRange

/-!
# The HTTP loop in closed form

`InternalMetadataToHTTPHeader`'s loop never panics: it skips an entry with no
value before reading its first value.  Over a list of entries it reaches
`httpRangeResult`: the same trace values as the gRPC loop (`traceValue` already
passes over entries with no value), and the `setHeader` calls
`httpHeaderCalls`, in visiting order:

* `(baggage, vs[0])` for an entry whose key lowers to `baggage`;
* `(R(lower(k)), v)` for every value `v` of an entry whose lowered key is
  none of the trace keys, `destination-app-id`, `baggage` or `content-type`,
  and does not end in `-bin`; `R` is `ReservedGRPCMetadataToDaprPrefixHeader`.
-/

namespace DaprMessaging

variable (L : Lowering)

/-- The lowered keys the HTTP loop never copies as they are. -/
def httpReservedKeys : List GoString :=
  [traceparentHeader, tracestateHeader, grpcTraceContextKey, destinationIDHeader, baggageHeader,
    contentTypeHeader]

/-- Whether the HTTP loop copies the values of a key that lowers to `keyName`. -/
def IsCopiedHTTPKey (keyName : GoString) : Prop :=
  keyName ∉ httpReservedKeys ∧ ¬ hasSuffix keyName gRPCBinaryMetadataSuffix

instance (keyName : GoString) : Decidable (IsCopiedHTTPKey keyName) :=
  inferInstanceAs (Decidable (_ ∧ _))

/-- The `setHeader` calls the HTTP loop makes for `entries`, in visiting order. -/
def httpHeaderCalls (entries : List (GoString × List GoString)) : List (GoString × GoString) :=
  entries.flatMap fun e =>
    if L.toLower e.1 = baggageHeader then (e.2.head?.map fun v => (baggageHeader, v)).toList
    else if IsCopiedHTTPKey (L.toLower e.1) then
      e.2.map fun v => (reservedGRPCMetadataToDaprPrefixHeader (L.toLower e.1), v)
    else []

/-- The state the HTTP loop reaches from `s` by visiting `entries`. -/
def httpRangeResult (s : RangeState (List (GoString × GoString)))
    (entries : List (GoString × List GoString)) : RangeState (List (GoString × GoString)) :=
  ⟨traceValue L traceparentHeader entries s.traceparentValue,
    traceValue L tracestateHeader entries s.tracestateValue,
    traceValue L grpcTraceContextKey entries s.grpctracebinValue,
    s.out ++ httpHeaderCalls L entries⟩

section
variable {L}

@[simp] theorem httpHeaderCalls_nil : httpHeaderCalls L [] = [] := rfl

theorem httpRangeResult_cons (s : RangeState (List (GoString × GoString))) (k : GoString)
    (vs : List GoString) (entries : List (GoString × List GoString)) :
    httpRangeResult L s ((k, vs) :: entries) =
      httpRangeResult L (httpRangeResult L s [(k, vs)]) entries := by
  simp [httpRangeResult, httpHeaderCalls]

/-- One iteration moves to the closed form of the one-entry list. -/
theorem httpRangeStep_eq (s : RangeState (List (GoString × GoString))) (k : GoString)
    (listVal : List GoString) :
    httpRangeStep L s k listVal = httpRangeResult L s [(k, listVal)] := by
  cases listVal with
  | nil =>
      simp only [httpRangeStep, httpRangeResult, httpHeaderCalls, traceValue_cons, traceValue_nil,
        List.headD_nil, ite_self, List.flatMap_cons, List.flatMap_nil, List.head?_nil,
        Option.map_none', Option.toList_none, List.map_nil, List.append_nil]
  | cons v vs =>
      obtain ⟨h12, h13, h14, h15, h23, h24, h25, h34, h35, h45⟩ := reservedNames_ne
      simp only [httpRangeStep, httpRangeResult, httpHeaderCalls, traceValue_cons, traceValue_nil,
        List.headD_cons, List.flatMap_cons, List.flatMap_nil, List.append_nil, List.head?_cons,
        Option.map_some', Option.toList_some]
      by_cases h1 : L.toLower k = traceparentHeader
      · simp [h1, h12, h13, h15, IsCopiedHTTPKey, httpReservedKeys]
      by_cases h2 : L.toLower k = tracestateHeader
      · simp [h2, h12.symm, h23, h25, IsCopiedHTTPKey, httpReservedKeys]
      by_cases h3 : L.toLower k = grpcTraceContextKey
      · simp [h3, h13.symm, h23.symm, h35, IsCopiedHTTPKey, httpReservedKeys]
      by_cases h4 : L.toLower k = destinationIDHeader
      · simp [h4, h14.symm, h24.symm, h34.symm, h45, IsCopiedHTTPKey, httpReservedKeys]
      by_cases h5 : L.toLower k = baggageHeader
      · simp [h5, h15.symm, h25.symm, h35.symm, h45.symm]
      simp only [h1, h2, h3, h4, h5, if_false, IsCopiedHTTPKey, httpReservedKeys, List.mem_cons,
        List.mem_singleton, List.not_mem_nil, false_or, or_false, true_and]
      split_ifs <;> simp_all

/-- The run, from any state. -/
theorem foldl_httpRangeStep (entries : List (GoString × List GoString))
    (s : RangeState (List (GoString × GoString))) :
    entries.foldl (fun s e => httpRangeStep L s e.1 e.2) s = httpRangeResult L s entries := by
  induction entries generalizing s with
  | nil => simp [httpRangeResult]
  | cons e entries ih =>
      obtain ⟨k, vs⟩ := e
      rw [List.foldl_cons, ih, httpRangeStep_eq, ← httpRangeResult_cons]

end

end DaprMessaging
