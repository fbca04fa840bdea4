import DaprMessaging.Proofs.TraceContext

/-!
# Visiting order

Go does not fix the order in which `range` visits a map.  Two maps whose
entry lists are permutations of each other are the same map visited in two
orders, and `internalMetadata_visit_order` compares the two runs:

* both panic or neither (the relations are `Option.Rel`);
* under every key other than the trace keys the gRPC metadata holds the same
  values, possibly in another order, and the HTTP calls not named
  `traceparent` or `tracestate` are the same multiset;
* when no two keys lower to the same trace key (`TraceKeysDistinct`), the
  HTTP calls are the same multiset, and when moreover no two keys the gRPC
  loop copies share an outgoing gRPC key (`CollisionFree`), the gRPC metadata
  is the same.

Only colliding keys make the order show: the values of keys that meet are
appended in visiting order, and among keys that lower to the same trace key
the last one visited wins (`internalMetadata_visit_order_collision`).

Strategy: both conversions are a function of the protocol `IsGRPCProtocol`
reads, of whether a trace key has an empty list, of the trace values and of
the per-key values (`Conversions`).  The first two do not depend on the order
at all; the per-key values are a `flatMap` over a filter, so a permutation of
the entries permutes them; and a filter that selects at most one entry
(`filter_eq_of_perm`) is the same in every order, which gives the equalities
under the collision hypotheses.
-/

namespace DaprMessaging

open GoString

variable {Context SpanContext TraceState : Type} {L : Lowering}
  {tr : Tracing Context SpanContext TraceState}

variable (L) in
/-- No two keys of the map lower to the same trace key. -/
def TraceKeysDistinct (internalMD : DaprInternalMetadata) : Prop :=
  ((internalMD.entries.map fun e => L.toLower e.1).filter (· ∈ traceKeys)).Nodup

instance (internalMD : DaprInternalMetadata) : Decidable (TraceKeysDistinct L internalMD) :=
  inferInstanceAs (Decidable (List.Nodup _))

variable (L) in
/-- No two keys of the map lower to the same trace key, and no two of the keys
the gRPC loop copies share an outgoing gRPC key. -/
def CollisionFree (h : Bool) (internalMD : DaprInternalMetadata) : Prop :=
  TraceKeysDistinct L internalMD ∧
    ((internalMD.entries.filter fun e => L.toLower e.1 ∉ divertedKeys).map
      fun e => outgoingKey L h e.1).Nodup

instance (h : Bool) (internalMD : DaprInternalMetadata) :
    Decidable (CollisionFree L h internalMD) :=
  inferInstanceAs (Decidable (_ ∧ _))

/-! ## Filters of permuted lists -/

/-- Where `g` is injective on a list, the elements with `g a = b` are the same
in any permutation of it: there is at most one. -/
theorem filter_eq_of_perm {α β : Type} [DecidableEq β] {l₁ l₂ : List α} (hperm : l₁.Perm l₂)
    (g : α → β) (hnodup : (l₁.map g).Nodup) (b : β) :
    l₁.filter (fun a => g a = b) = l₂.filter (fun a => g a = b) := by
  have hp := hperm.filter (fun a => g a = b)
  have hsub : ((l₁.filter fun a => g a = b).map g).Nodup :=
    hnodup.sublist ((List.filter_sublist _).map g)
  have hsel : ∀ a ∈ l₁.filter (fun a => g a = b), g a = b := fun a ha => by
    simpa using (List.mem_filter.mp ha).2
  rcases h : l₁.filter (fun a => g a = b) with _ | ⟨x, _ | ⟨y, rest⟩⟩ <;> rw [h] at hp hsub hsel
  · exact (List.perm_nil.mp hp.symm).symm
  · exact (List.perm_singleton.mp hp.symm).symm
  · simp [hsel x (by simp), hsel y (by simp)] at hsub

/-- The same where `g` is injective only on the elements whose image satisfies
`p`, for a `b` that satisfies it. -/
theorem filter_eq_of_perm_of_filter {α β : Type} [DecidableEq β] {l₁ l₂ : List α}
    (hperm : l₁.Perm l₂) (g : α → β) (p : β → Bool) (hnodup : ((l₁.map g).filter p).Nodup)
    {b : β} (hb : p b = true) :
    l₁.filter (fun a => g a = b) = l₂.filter (fun a => g a = b) := by
  have hsel : ∀ l : List α, l.filter (fun a => g a = b) =
      (l.filter (p ∘ g)).filter (fun a => g a = b) := fun l => by
    rw [List.filter_filter]
    exact List.filter_congr fun a _ => by
      by_cases hab : g a = b <;> simp [hab, hb]
  rw [hsel l₁, hsel l₂]
  exact filter_eq_of_perm (hperm.filter _) g (by rwa [List.filter_map] at hnodup) b

theorem traceValue_eq_filter (key d : GoString) (entries : List (GoString × List GoString)) :
    traceValue L key entries d = traceValue L key (entries.filter fun e => L.toLower e.1 = key) d := by
  induction entries generalizing d with
  | nil => rfl
  | cons e entries ih =>
      obtain ⟨k, vs⟩ := e
      by_cases hk : L.toLower k = key <;> simp [List.filter_cons, hk, ih]

theorem grpcValuesAt_eq_filter (h : Bool) (K : GoString) (entries : List (GoString × List GoString)) :
    grpcValuesAt L h K entries =
      ((entries.filter fun e => L.toLower e.1 ∉ divertedKeys).filter
        fun e => outgoingKey L h e.1 = K).flatMap fun e => grpcContribution e.1 e.2 := by
  simp only [grpcValuesAt, List.filter_filter]
  congr 2
  funext e
  simp only [Bool.decide_and, Bool.and_comm]

/-! ## What the order does not change -/

theorem traceparent_mem_traceKeys : traceparentHeader ∈ traceKeys := by decide

theorem tracestate_mem_traceKeys : tracestateHeader ∈ traceKeys := by decide

theorem grpcTraceContextKey_mem_traceKeys : grpcTraceContextKey ∈ traceKeys := by decide

section
variable {l₁ l₂ : List (GoString × List GoString)} (hperm : l₁.Perm l₂)
include hperm

theorem traceValue_eq_of_perm
    (hnodup : ((l₁.map fun e => L.toLower e.1).filter (· ∈ traceKeys)).Nodup) {key : GoString}
    (hkey : key ∈ traceKeys) (d : GoString) : traceValue L key l₁ d = traceValue L key l₂ d := by
  rw [traceValue_eq_filter, filter_eq_of_perm_of_filter hperm _ _ hnodup (decide_eq_true hkey),
    ← traceValue_eq_filter]

theorem grpcValuesAt_eq_of_perm (h : Bool)
    (hnodup : ((l₁.filter fun e => L.toLower e.1 ∉ divertedKeys).map
      fun e => outgoingKey L h e.1).Nodup)
    (K : GoString) : grpcValuesAt L h K l₁ = grpcValuesAt L h K l₂ := by
  rw [grpcValuesAt_eq_filter, grpcValuesAt_eq_filter,
    filter_eq_of_perm (hperm.filter _) _ hnodup]

theorem grpcValuesAt_perm (h : Bool) (K : GoString) :
    (grpcValuesAt L h K l₁).Perm (grpcValuesAt L h K l₂) :=
  (hperm.filter _).flatMap_right _

theorem httpHeaderCalls_perm : (httpHeaderCalls L l₁).Perm (httpHeaderCalls L l₂) :=
  hperm.flatMap_right _

theorem traceValuesPresent_iff_of_perm : TraceValuesPresent L l₁ ↔ TraceValuesPresent L l₂ := by
  simp only [TraceValuesPresent, hperm.mem_iff]

end

section
variable {M₁ M₂ : DaprInternalMetadata} (hperm : M₁.entries.Perm M₂.entries)
include hperm

theorem get?_eq_of_perm (key : GoString) : M₁.get? key = M₂.get? key := by
  simp only [DaprInternalMetadata.get?, ← List.filter_head?,
    filter_eq_of_perm hperm Prod.fst M₁.nodup key]

theorem isGRPCProtocol_eq_of_perm : isGRPCProtocol M₁ = isGRPCProtocol M₂ := by
  simp only [isGRPCProtocol, get?_eq_of_perm hperm]

/-- The gRPC conversions of two orders are related as their trace steps are. -/
theorem internalMetadataToGrpcMetadata_rel (ctx : Context) (h : Bool) (R : MD → MD → Prop)
    (hR : ∀ grpc, R (grpcTraceStep L tr ctx M₁ h grpc) (grpcTraceStep L tr ctx M₂ h grpc)) :
    Option.Rel R (internalMetadataToGrpcMetadata L tr ctx M₁ h)
      (internalMetadataToGrpcMetadata L tr ctx M₂ h) := by
  have hpresent : TraceValuesPresent L M₁.entries ↔ TraceValuesPresent L M₂.entries :=
    traceValuesPresent_iff_of_perm hperm
  by_cases hp : TraceValuesPresent L M₁.entries
  · rw [internalMetadataToGrpcMetadata_eq ctx M₁ h hp,
      internalMetadataToGrpcMetadata_eq ctx M₂ h (hpresent.mp hp), ← isGRPCProtocol_eq_of_perm hperm]
    cases isGRPCProtocol M₁ with
    | none => exact .none
    | some grpc => exact .some (hR grpc)
  · rw [internalMetadataToGrpcMetadata_eq_none_of_not_present ctx M₁ h hp,
      internalMetadataToGrpcMetadata_eq_none_of_not_present ctx M₂ h (mt hpresent.mpr hp)]
    exact .none

/-- The HTTP conversions of two orders are related as their calls are. -/
theorem internalMetadataToHTTPHeader_rel (ctx : Context) (R : List (GoString × GoString) →
      List (GoString × GoString) → Prop)
    (hR : ∀ grpc, R (httpHeaderCalls L M₁.entries ++ httpTraceCalls L tr ctx M₁ grpc)
      (httpHeaderCalls L M₂.entries ++ httpTraceCalls L tr ctx M₂ grpc)) :
    Option.Rel R (internalMetadataToHTTPHeader L tr ctx M₁)
      (internalMetadataToHTTPHeader L tr ctx M₂) := by
  rw [internalMetadataToHTTPHeader_eq, internalMetadataToHTTPHeader_eq,
    ← isGRPCProtocol_eq_of_perm hperm]
  cases isGRPCProtocol M₁ with
  | none => exact .none
  | some grpc => exact .some (hR grpc)

theorem grpcTraceStep_eq_of_perm (ctx : Context) (h grpc : Bool) (hfree : CollisionFree L h M₁) :
    grpcTraceStep L tr ctx M₁ h grpc = grpcTraceStep L tr ctx M₂ h grpc := by
  have hmd : grpcUserMetadata L h M₁.entries = grpcUserMetadata L h M₂.entries :=
    MD.ext (funext (grpcValuesAt_eq_of_perm hperm h hfree.2))
  simp only [grpcTraceStep, hmd, traceValue_eq_of_perm hperm hfree.1 traceparent_mem_traceKeys,
    traceValue_eq_of_perm hperm hfree.1 tracestate_mem_traceKeys,
    traceValue_eq_of_perm hperm hfree.1 grpcTraceContextKey_mem_traceKeys]

theorem httpTraceCalls_eq_of_perm (ctx : Context) (grpc : Bool) (hlow : TraceKeysDistinct L M₁) :
    httpTraceCalls L tr ctx M₁ grpc = httpTraceCalls L tr ctx M₂ grpc := by
  simp only [httpTraceCalls, traceValue_eq_of_perm hperm hlow traceparent_mem_traceKeys,
    traceValue_eq_of_perm hperm hlow tracestate_mem_traceKeys,
    traceValue_eq_of_perm hperm hlow grpcTraceContextKey_mem_traceKeys]

end

theorem eq_of_option_rel_eq {α : Type} {a b : Option α} (hrel : Option.Rel Eq a b) : a = b := by
  cases hrel with
  | none => rfl
  | some hab => rw [hab]

/-- Visiting the entries of a map in two orders: both conversions panic for
both or for neither; the gRPC metadata agrees up to order under every key
other than the trace keys, and the HTTP calls other than the W3C trace
headers agree as a multiset.  Without key collisions the order does not show
at all. -/
theorem internalMetadata_visit_order (ctx : Context) (h : Bool) {M₁ M₂ : DaprInternalMetadata}
    (hperm : M₁.entries.Perm M₂.entries) :
    Option.Rel (fun md₁ md₂ => ∀ K ∉ traceKeys, (md₁.get K).Perm (md₂.get K))
        (internalMetadataToGrpcMetadata L tr ctx M₁ h) (internalMetadataToGrpcMetadata L tr ctx M₂ h) ∧
      Option.Rel (fun calls₁ calls₂ => (calls₁.filter fun p => p.1 ∉ w3cHeaders).Perm
          (calls₂.filter fun p => p.1 ∉ w3cHeaders))
        (internalMetadataToHTTPHeader L tr ctx M₁) (internalMetadataToHTTPHeader L tr ctx M₂) ∧
      (TraceKeysDistinct L M₁ → Option.Rel List.Perm
        (internalMetadataToHTTPHeader L tr ctx M₁) (internalMetadataToHTTPHeader L tr ctx M₂)) ∧
      (CollisionFree L h M₁ →
        internalMetadataToGrpcMetadata L tr ctx M₁ h = internalMetadataToGrpcMetadata L tr ctx M₂ h) := by
  refine ⟨internalMetadataToGrpcMetadata_rel hperm ctx h _ fun grpc K hK => ?_,
    internalMetadataToHTTPHeader_rel hperm ctx _ fun grpc => ?_,
    fun hlow => internalMetadataToHTTPHeader_rel hperm ctx _ fun grpc => ?_,
    fun hfree => eq_of_option_rel_eq (internalMetadataToGrpcMetadata_rel hperm ctx h _
      fun grpc => grpcTraceStep_eq_of_perm hperm ctx h grpc hfree)⟩
  · rw [grpcTraceStep_get_of_not_mem ctx _ h grpc hK, grpcTraceStep_get_of_not_mem ctx _ h grpc hK]
    exact grpcValuesAt_perm hperm h K
  · rw [filter_not_w3c_httpCalls _ (w3cNamed_httpTraceCalls ctx M₁ grpc),
      filter_not_w3c_httpCalls _ (w3cNamed_httpTraceCalls ctx M₂ grpc)]
    exact httpHeaderCalls_perm hperm
  · rw [httpTraceCalls_eq_of_perm hperm ctx grpc hlow]
    exact (httpHeaderCalls_perm hperm).append_right _

theorem internalMetadata_visit_order_example :
    let M₁ : DaprInternalMetadata :=
      ⟨[(ofString "Accept", [ofString "text/plain"]), (ofString "x-id", [ofString "7"])], by decide⟩
    let M₂ : DaprInternalMetadata :=
      ⟨[(ofString "x-id", [ofString "7"]), (ofString "Accept", [ofString "text/plain"])], by decide⟩
    M₁.entries.Perm M₂.entries ∧
      Option.Rel (fun md₁ md₂ => ∀ K ∉ traceKeys, (md₁.get K).Perm (md₂.get K))
        (internalMetadataToGrpcMetadata Lowering.ascii Tracing.echo [] M₁ true)
        (internalMetadataToGrpcMetadata Lowering.ascii Tracing.echo [] M₂ true) ∧
      Option.Rel (fun calls₁ calls₂ => (calls₁.filter fun p => p.1 ∉ w3cHeaders).Perm
          (calls₂.filter fun p => p.1 ∉ w3cHeaders))
        (internalMetadataToHTTPHeader Lowering.ascii Tracing.echo [] M₁)
        (internalMetadataToHTTPHeader Lowering.ascii Tracing.echo [] M₂) ∧
      (TraceKeysDistinct Lowering.ascii M₁ → Option.Rel List.Perm
        (internalMetadataToHTTPHeader Lowering.ascii Tracing.echo [] M₁)
        (internalMetadataToHTTPHeader Lowering.ascii Tracing.echo [] M₂)) ∧
      (CollisionFree Lowering.ascii true M₁ →
        internalMetadataToGrpcMetadata Lowering.ascii Tracing.echo [] M₁ true =
          internalMetadataToGrpcMetadata Lowering.ascii Tracing.echo [] M₂ true) :=
  let hperm := List.Perm.swap _ _ _
  ⟨hperm, internalMetadata_visit_order [] true hperm⟩

/-- Keys that meet after lower-casing make the order show: `Foo` and `foo`
are appended under `foo` in visiting order, and of `traceparent` and
`Traceparent` the one visited last is propagated, in both directions. -/
theorem internalMetadata_visit_order_collision :
    let M₁ : DaprInternalMetadata :=
      ⟨[(ofString "Foo", [ofString "a"]), (ofString "foo", [ofString "b"]),
        (ofString "traceparent", [ofString "x"]), (ofString "Traceparent", [ofString "y"])],
        by decide⟩
    let M₂ : DaprInternalMetadata :=
      ⟨[(ofString "Traceparent", [ofString "y"]), (ofString "traceparent", [ofString "x"]),
        (ofString "foo", [ofString "b"]), (ofString "Foo", [ofString "a"])], by decide⟩
    let grpcView := fun M : DaprInternalMetadata =>
      (internalMetadataToGrpcMetadata Lowering.ascii Tracing.echo [] M false).map fun md =>
        (md.get (ofString "foo"), md.get traceparentHeader)
    M₁.entries.Perm M₂.entries ∧
      grpcView M₁ = some ([ofString "a", ofString "b"], [ofString "y"]) ∧
      grpcView M₂ = some ([ofString "b", ofString "a"], [ofString "x"]) ∧
      internalMetadataToHTTPHeader Lowering.ascii Tracing.echo [] M₁ =
        some [(ofString "foo", ofString "a"), (ofString "foo", ofString "b"),
          (traceparentHeader, ofString "y")] ∧
      internalMetadataToHTTPHeader Lowering.ascii Tracing.echo [] M₂ =
        some [(ofString "foo", ofString "b"), (ofString "foo", ofString "a"),
          (traceparentHeader, ofString "x")] :=
  ⟨(List.reverse_perm _).symm, by decide, by decide, by decide, by decide⟩

end DaprMessaging
