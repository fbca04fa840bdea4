import DaprMessaging.Bridge

/-!
# The gRPC loop in closed form

`InternalMetadataToGrpcMetadata`'s loop, run over a list of entries, either
panics or reaches `grpcRangeResult`:

* each trace value is the first value of the last entry visited whose key
  lowers to that trace key (`traceValue`);
* under a key `K`, `md` holds the contributions of the entries that are not
  diverted and whose outgoing key `key_h(k)` is `K`, in visiting order
  (`grpcValuesAt`).  An entry contributes its values, or for a key ending in
  `-bin` the decodings of those that decode.

It panics exactly when some entry under a trace key has no value
(`foldlM_grpcRangeStep_eq_none_iff`).  `grpcRangeStep_eq` says what one entry
does; the run lemma `foldlM_grpcRangeStep` follows by induction, because both
closed forms split over a cons.
-/

namespace DaprMessaging

variable (L : Lowering)

/-- The keys both loops set aside. -/
def traceKeys : List GoString := [traceparentHeader, tracestateHeader, grpcTraceContextKey]

/-- The keys the gRPC loop does not copy: the trace keys and `destination-app-id`. -/
def divertedKeys : List GoString := destinationIDHeader :: traceKeys

/-- The value set aside for the trace key `key` after visiting `entries`,
starting from `d`: the first value of the last entry with a value whose key
lowers to `key`. -/
def traceValue (key : GoString) (entries : List (GoString × List GoString)) (d : GoString) :
    GoString :=
  (entries.filterMap fun e => if L.toLower e.1 = key then e.2.head? else none).getLastD d

/-- The key the gRPC loop files an entry's values under (`key_h(k)`). -/
def outgoingKey (h : Bool) (k : GoString) : GoString :=
  if h && isPermanentHTTPHeader k then daprHeaderPrefix ++ L.toLower k else L.toLower k

/-- The values that decode, decoded. -/
def decodedValues (values : List GoString) : List GoString :=
  values.filterMap fun val =>
    match decodeString val with
    | (decoded, true) => some decoded
    | (_, false) => none

/-- What the entry `(k, vs)` adds under its outgoing key. -/
def grpcContribution (k : GoString) (vs : List GoString) : List GoString :=
  if hasSuffix k gRPCBinaryMetadataSuffix then decodedValues vs else vs

/-- The values the gRPC loop files under `K`: the contributions of the entries
that are not diverted and whose outgoing key is `K`, in visiting order. -/
def grpcValuesAt (h : Bool) (K : GoString) (entries : List (GoString × List GoString)) :
    List GoString :=
  (entries.filter fun e => L.toLower e.1 ∉ divertedKeys ∧ outgoingKey L h e.1 = K).flatMap
    fun e => grpcContribution e.1 e.2

/-- The state the gRPC loop reaches from `s` by visiting `entries`, when it
does not panic. -/
def grpcRangeResult (h : Bool) (s : RangeState MD) (entries : List (GoString × List GoString)) :
    RangeState MD :=
  ⟨traceValue L traceparentHeader entries s.traceparentValue,
    traceValue L tracestateHeader entries s.tracestateValue,
    traceValue L grpcTraceContextKey entries s.grpctracebinValue,
    ⟨fun K => s.out.get K ++ grpcValuesAt L h K entries⟩⟩

/-- Every entry under a trace key has a value: the reads of `GetValues()[0]`
are in range. -/
def TraceValuesPresent (entries : List (GoString × List GoString)) : Prop :=
  ∀ e ∈ entries, L.toLower e.1 ∈ traceKeys → e.2 ≠ []

/-! ## The closed forms over a cons -/

section
variable {L}

@[simp] theorem traceValue_nil (key d : GoString) : traceValue L key [] d = d := rfl

@[simp] theorem traceValue_cons (key d k : GoString) (vs : List GoString)
    (entries : List (GoString × List GoString)) :
    traceValue L key ((k, vs) :: entries) d =
      traceValue L key entries (if L.toLower k = key then vs.headD d else d) := by
  unfold traceValue
  rw [List.filterMap_cons]
  split_ifs with hk <;> cases vs <;>
    simp only [hk, ↓reduceIte, List.head?_cons, List.head?_nil, List.headD_cons, List.headD_nil,
      List.getLastD_cons]

@[simp] theorem grpcValuesAt_nil (h : Bool) (K : GoString) : grpcValuesAt L h K [] = [] := rfl

@[simp] theorem grpcValuesAt_cons (h : Bool) (K k : GoString) (vs : List GoString)
    (entries : List (GoString × List GoString)) :
    grpcValuesAt L h K ((k, vs) :: entries) =
      (if L.toLower k ∉ divertedKeys ∧ outgoingKey L h k = K then grpcContribution k vs else []) ++
        grpcValuesAt L h K entries := by
  simp only [grpcValuesAt, List.filter_cons]
  split <;> simp_all

theorem grpcRangeResult_cons (h : Bool) (s : RangeState MD) (k : GoString) (vs : List GoString)
    (entries : List (GoString × List GoString)) :
    grpcRangeResult L h s ((k, vs) :: entries) =
      grpcRangeResult L h (grpcRangeResult L h s [(k, vs)]) entries := by
  simp [grpcRangeResult]

end

/-! ## One iteration -/

section
variable {L}

theorem toLower_outgoingKey (h : Bool) (k : GoString) :
    L.toLower (outgoingKey L h k) = outgoingKey L h k := by
  unfold outgoingKey
  split <;> simp [L.toLower_idem]

theorem appendDecoded_get (md : MD) (keyName : GoString) (values : List GoString) (K : GoString) :
    (appendDecoded L md keyName values).get K =
      md.get K ++ if K = L.toLower keyName then decodedValues values else [] := by
  induction values generalizing md with
  | nil => simp [appendDecoded, decodedValues]
  | cons val values ih =>
      simp only [appendDecoded, List.foldl_cons] at ih ⊢
      rw [ih]
      rcases hval : decodeString val with ⟨decoded, _ | _⟩ <;>
        split_ifs <;> simp [decodedValues, hval, *]

/-- One iteration, when it does not panic, moves to the closed form of the
one-entry list. -/
theorem grpcRangeStep_eq (h : Bool) (s : RangeState MD) (k : GoString) (listVal : List GoString)
    (hk : L.toLower k ∈ traceKeys → listVal ≠ []) :
    grpcRangeStep L h s k listVal = some (grpcRangeResult L h s [(k, listVal)]) := by
  obtain ⟨h12, h13, h14, -, h23, h24, -, h34, -, -⟩ := reservedNames_ne
  simp only [grpcRangeStep, grpcRangeResult, traceValue_cons, traceValue_nil, grpcValuesAt_cons,
    grpcValuesAt_nil, List.append_nil]
  by_cases h1 : L.toLower k = traceparentHeader
  · obtain ⟨v, vs, rfl⟩ := List.exists_cons_of_ne_nil (hk (by simp [traceKeys, h1]))
    simp [h1, h12, h13, divertedKeys, traceKeys]
  by_cases h2 : L.toLower k = tracestateHeader
  · obtain ⟨v, vs, rfl⟩ := List.exists_cons_of_ne_nil (hk (by simp [traceKeys, h2]))
    simp [h2, h12.symm, h23, divertedKeys, traceKeys]
  by_cases h3 : L.toLower k = grpcTraceContextKey
  · obtain ⟨v, vs, rfl⟩ := List.exists_cons_of_ne_nil (hk (by simp [traceKeys, h3]))
    simp [h3, h13.symm, h23.symm, divertedKeys, traceKeys]
  by_cases h4 : L.toLower k = destinationIDHeader
  · simp [h4, h14.symm, h24.symm, h34.symm, divertedKeys]
  have hdiv : L.toLower k ∉ divertedKeys := by simp [divertedKeys, traceKeys, h1, h2, h3, h4]
  simp only [h1, h2, h3, h4, if_false, hdiv, not_false_eq_true, true_and]
  rw [show (if h && isPermanentHTTPHeader k then daprHeaderPrefix ++ L.toLower k else L.toLower k) =
    outgoingKey L h k from rfl]
  split_ifs with hbin <;> simp only [Option.some.injEq, RangeState.mk.injEq, true_and] <;>
    refine MD.ext (funext fun K => ?_) <;> by_cases hK : outgoingKey L h k = K
  · subst hK
    simp [appendDecoded_get, toLower_outgoingKey, grpcContribution, hbin]
  · simp [appendDecoded_get, toLower_outgoingKey, grpcContribution, hbin, hK, @eq_comm _ K]
  · subst hK
    simp [toLower_outgoingKey, grpcContribution, hbin]
  · simp [toLower_outgoingKey, grpcContribution, hbin, hK, @eq_comm _ K]

/-- One iteration panics exactly on an empty list under a trace key. -/
theorem grpcRangeStep_eq_none_iff (h : Bool) (s : RangeState MD) (k : GoString)
    (listVal : List GoString) :
    grpcRangeStep L h s k listVal = none ↔ L.toLower k ∈ traceKeys ∧ listVal = [] := by
  by_cases hgood : L.toLower k ∈ traceKeys → listVal ≠ []
  · rw [grpcRangeStep_eq h s k listVal hgood]
    exact ⟨nofun, fun ⟨hk, hl⟩ => absurd hl (hgood hk)⟩
  · obtain ⟨hk, rfl⟩ : L.toLower k ∈ traceKeys ∧ listVal = [] := by simpa using hgood
    simp only [traceKeys, List.mem_cons, List.mem_singleton, List.not_mem_nil, or_false] at hk
    rcases hk with hk | hk | hk <;> simp +decide [grpcRangeStep, hk, traceKeys]

end

/-! ## The run -/

section
variable {L}

/-- A loop that does not panic reaches the closed form, from any state. -/
theorem foldlM_grpcRangeStep (h : Bool) (entries : List (GoString × List GoString))
    (hpresent : TraceValuesPresent L entries) (s : RangeState MD) :
    entries.foldlM (fun s e => grpcRangeStep L h s e.1 e.2) s =
      some (grpcRangeResult L h s entries) := by
  induction entries generalizing s with
  | nil => simp [grpcRangeResult]
  | cons e entries ih =>
      obtain ⟨k, vs⟩ := e
      have hk : L.toLower k ∈ traceKeys → vs ≠ [] := hpresent (k, vs) (List.mem_cons_self _ _)
      simp only [List.foldlM_cons, grpcRangeStep_eq h s k vs hk, Option.bind_eq_bind,
        Option.some_bind, grpcRangeResult_cons h s k vs entries]
      exact ih (fun e he => hpresent e (List.mem_cons_of_mem _ he)) _

/-- The loop panics exactly when an entry under a trace key has no value. -/
theorem foldlM_grpcRangeStep_eq_none_iff (h : Bool) (entries : List (GoString × List GoString))
    (s : RangeState MD) :
    entries.foldlM (fun s e => grpcRangeStep L h s e.1 e.2) s = none ↔
      ¬ TraceValuesPresent L entries := by
  induction entries generalizing s with
  | nil => simp [TraceValuesPresent]
  | cons e entries ih =>
      simp only [List.foldlM_cons, TraceValuesPresent, List.forall_mem_cons]
      cases hstep : grpcRangeStep L h s e.1 e.2 with
      | none =>
          rw [grpcRangeStep_eq_none_iff] at hstep
          simp [hstep]
      | some s' =>
          have hgood : ¬ (L.toLower e.1 ∈ traceKeys ∧ e.2 = []) := by
            rw [← grpcRangeStep_eq_none_iff h s]
            simp [hstep]
          simp only [Option.bind_eq_bind, Option.some_bind, ih, TraceValuesPresent]
          tauto

end

/-! ## Reading `content-type` -/

/-- Every entry has a value. -/
def DaprInternalMetadata.NonemptyValues (internalMD : DaprInternalMetadata) : Prop :=
  ∀ e ∈ internalMD.entries, e.2 ≠ []

instance (internalMD : DaprInternalMetadata) : Decidable internalMD.NonemptyValues :=
  inferInstanceAs (Decidable (∀ e ∈ internalMD.entries, e.2 ≠ []))

theorem DaprInternalMetadata.mem_of_get?_eq_some {internalMD : DaprInternalMetadata}
    {key : GoString} {vs : List GoString} (h : internalMD.get? key = some vs) :
    (key, vs) ∈ internalMD.entries := by
  simp only [DaprInternalMetadata.get?, Option.map_eq_some'] at h
  obtain ⟨⟨k, vs'⟩, hfind, rfl⟩ := h
  have hk : k = key := by simpa using List.find?_some hfind
  exact hk ▸ List.mem_of_find?_eq_some hfind

theorem isGRPCProtocol_eq_none_iff (internalMD : DaprInternalMetadata) :
    isGRPCProtocol internalMD = none ↔ internalMD.get? contentTypeHeader = some [] := by
  unfold isGRPCProtocol
  rcases internalMD.get? contentTypeHeader with _ | _ | ⟨v, vs⟩ <;> simp

theorem isGRPCProtocol_isSome {internalMD : DaprInternalMetadata}
    (hne : internalMD.NonemptyValues) : ∃ b, isGRPCProtocol internalMD = some b := by
  rw [← Option.isSome_iff_exists, Option.isSome_iff_ne_none, Ne, isGRPCProtocol_eq_none_iff]
  exact fun h => hne _ (DaprInternalMetadata.mem_of_get?_eq_some h) rfl

theorem DaprInternalMetadata.NonemptyValues.traceValuesPresent {internalMD : DaprInternalMetadata}
    (hne : internalMD.NonemptyValues) : TraceValuesPresent L internalMD.entries :=
  fun e he _ => hne e he

end DaprMessaging
