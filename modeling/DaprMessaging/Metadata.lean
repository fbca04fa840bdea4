import DaprMessaging.Base64

/-!
# Metadata maps and header names

The two Go maps the bridge converts between, and the key tests it applies.

* `DaprInternalMetadata`, the input, a `map[string]*ListStringValue`.  A Go map
  has no order, but a `range` loop visits its entries in some order, and the
  bridge's results can depend on it.  The map is modelled by the list of its
  entries in visiting order, with distinct keys; a permutation of the list is
  the same map visited in another order.
* `MD` (`metadata.MD`), the output of the gRPC direction, a
  `map[string][]string` written only through `Append` and `Set`.  Both
  lower-case the key and return early on an empty value list, so no key is
  ever stored with an empty list, and the map is modelled by the value list of
  every key, empty when absent.
-/

namespace DaprMessaging

open GoString

/-! ## Header names -/

/-- `GRPCContentType`. -/
def grpcContentType : GoString := ofString "application/grpc"
/-- `JSONContentType`. -/
def jsonContentType : GoString := ofString "application/json"
/-- `ContentTypeHeader`. -/
def contentTypeHeader : GoString := ofString "content-type"
/-- `ContentLengthHeader`. -/
def contentLengthHeader : GoString := ofString "content-length"
/-- `DaprHeaderPrefix`. -/
def daprHeaderPrefix : GoString := ofString "dapr-"
/-- `gRPCBinaryMetadataSuffix`. -/
def gRPCBinaryMetadataSuffix : GoString := ofString "-bin"
/-- `DestinationIDHeader`. -/
def destinationIDHeader : GoString := ofString "destination-app-id"
/-- `diagConsts.TraceparentHeader`. -/
def traceparentHeader : GoString := ofString "traceparent"
/-- `diagConsts.TracestateHeader`. -/
def tracestateHeader : GoString := ofString "tracestate"
/-- `diagConsts.BaggageHeader`. -/
def baggageHeader : GoString := ofString "baggage"
/-- `diagConsts.GRPCTraceContextKey`. -/
def grpcTraceContextKey : GoString := ofString "grpc-trace-bin"

/-- The IANA permanent request headers of `isPermanentHTTPHeader`'s switch, in
their canonical capitalisation. -/
def permanentHTTPHeaders : List GoString :=
  ["Accept", "Accept-Charset", "Accept-Language", "Accept-Ranges", "Connection", "Keep-Alive",
    "Proxy-Connection", "Transfer-Encoding", "Upgrade", "Cache-Control", "Content-Type",
    "Content-Length", "Cookie", "Date", "Expect", "From", "Host", "If-Match",
    "If-Modified-Since", "If-None-Match", "If-Schedule-Tag-Match", "If-Unmodified-Since",
    "Max-Forwards", "Origin", "Pragma", "Referer", "Via", "Warning"].map ofString

/-! The names are ASCII and lower case, so `ToLower` leaves them alone. -/
section
variable (L : Lowering)

@[simp] theorem Lowering.toLower_traceparentHeader : L.toLower traceparentHeader = traceparentHeader :=
  L.toLower_eq_self (by decide) (by decide)

@[simp] theorem Lowering.toLower_tracestateHeader : L.toLower tracestateHeader = tracestateHeader :=
  L.toLower_eq_self (by decide) (by decide)

@[simp] theorem Lowering.toLower_grpcTraceContextKey :
    L.toLower grpcTraceContextKey = grpcTraceContextKey :=
  L.toLower_eq_self (by decide) (by decide)

@[simp] theorem Lowering.toLower_contentTypeHeader : L.toLower contentTypeHeader = contentTypeHeader :=
  L.toLower_eq_self (by decide) (by decide)

@[simp] theorem Lowering.toLower_daprHeaderPrefix_append (s : GoString) :
    L.toLower (daprHeaderPrefix ++ s) = daprHeaderPrefix ++ L.toLower s := by
  rw [L.toLower_ascii_append _ _ (by decide)]
  rfl

end

/-- The names the loops test a key against are pairwise distinct. -/
theorem reservedNames_ne :
    traceparentHeader ≠ tracestateHeader ∧ traceparentHeader ≠ grpcTraceContextKey ∧
      traceparentHeader ≠ destinationIDHeader ∧ traceparentHeader ≠ baggageHeader ∧
      tracestateHeader ≠ grpcTraceContextKey ∧ tracestateHeader ≠ destinationIDHeader ∧
      tracestateHeader ≠ baggageHeader ∧ grpcTraceContextKey ≠ destinationIDHeader ∧
      grpcTraceContextKey ≠ baggageHeader ∧ destinationIDHeader ≠ baggageHeader := by
  decide

/-- `isPermanentHTTPHeader(hdr)`: an exact, case-sensitive match. -/
def isPermanentHTTPHeader (hdr : GoString) : Bool := decide (hdr ∈ permanentHTTPHeaders)

/-- The gRPC pseudo-headers `ReservedGRPCMetadataToDaprPrefixHeader` renames. -/
def grpcPseudoHeaders : List GoString := [":method", ":scheme", ":path", ":authority"].map ofString

/-- `ReservedGRPCMetadataToDaprPrefixHeader(key)`. -/
def reservedGRPCMetadataToDaprPrefixHeader (key : GoString) : GoString :=
  if key ∈ grpcPseudoHeaders then daprHeaderPrefix ++ key.drop 1
  else if hasPrefix key (ofString "grpc-") then daprHeaderPrefix ++ key
  else key

/-! ## The internal metadata map -/

/-- `DaprInternalMetadata`, as its entries in the order a `range` loop visits
them.  A nil `*ListStringValue` reads as the empty list, as `GetValues()` of
nil does. -/
structure DaprInternalMetadata where
  entries : List (GoString × List GoString)
  nodup : (entries.map Prod.fst).Nodup

/-- `val, ok := internalMD[key]`, as `some val` when `ok`. -/
def DaprInternalMetadata.get? (internalMD : DaprInternalMetadata) (key : GoString) :
    Option (List GoString) :=
  (internalMD.entries.find? fun e => e.1 = key).map Prod.snd

/-- `IsGRPCProtocol(internalMD)`: whether the first `content-type` value starts
with `application/grpc`; `none` when reading that value panics, the key being
present with no value. -/
def isGRPCProtocol (internalMD : DaprInternalMetadata) : Option Bool := do
  let originContentType ← match internalMD.get? contentTypeHeader with
    | some val => val.head?
    | none => some []
  pure (hasPrefix originContentType grpcContentType)

/-- `IsJSONContentType(contentType)`: whether the lowered content type starts
with `application/json`. -/
def isJSONContentType (L : Lowering) (contentType : GoString) : Bool :=
  hasPrefix (L.toLower contentType) jsonContentType

/-! ## gRPC metadata -/

/-- `metadata.MD`: the values stored under each key, empty for an absent key. -/
@[ext] structure MD where
  get : GoString → List GoString

/-- `metadata.MD{}`. -/
def MD.empty : MD := ⟨fun _ => []⟩

/-- `md.Append(k, vals...)`.  Appending no value changes nothing, which is
`Append`'s early return. -/
def MD.append (L : Lowering) (md : MD) (k : GoString) (vals : List GoString) : MD :=
  ⟨fun key => if key = L.toLower k then md.get key ++ vals else md.get key⟩

/-- `md.Set(k, vals...)`. -/
def MD.set (L : Lowering) (md : MD) (k : GoString) (vals : List GoString) : MD :=
  if vals = [] then md else ⟨fun key => if key = L.toLower k then vals else md.get key⟩

@[simp] theorem MD.get_empty (key : GoString) : MD.empty.get key = [] := rfl

@[simp] theorem MD.get_append (L : Lowering) (md : MD) (k : GoString) (vals : List GoString)
    (key : GoString) :
    (md.append L k vals).get key = if key = L.toLower k then md.get key ++ vals else md.get key :=
  rfl

@[simp] theorem MD.get_set_singleton (L : Lowering) (md : MD) (k v key : GoString) :
    (md.set L k [v]).get key = if key = L.toLower k then [v] else md.get key := rfl

end DaprMessaging
