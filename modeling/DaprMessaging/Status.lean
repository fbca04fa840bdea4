import DaprMessaging.GoString

/-!
# Status translation

`HTTPStatusFromCode`, `CodeFromHTTPStatus` and `ErrorFromHTTPResponseCode`,
with what they call of Go's `net/http`, `strconv` and gRPC status packages.

`ErrorFromHTTPResponseCode` attaches an `errdetails.ErrorInfo` with
`WithDetails`, which marshals it.  `ErrorInfo` is a proto3 message, and Go's
protobuf runtime refuses to marshal a proto3 string field, map keys and values
included, that is not valid UTF-8; `WithDetails` then fails and the function
falls back to the status without details.  That is the only way the
attachment can fail here, since the status is never `OK` when it is reached,
so `ErrorInfo.marshals` is the UTF-8 check and nothing else.

A gRPC status is a code, a message and the details attached to it; the
function's error is modelled as the status it carries, and `nil` as `none`.
-/

namespace DaprMessaging

open GoString

/-- `codes.Code`, a `uint32`.  gRPC names seventeen of its values; every
other value is a code too, and reaches the default branch of each switch. -/
@[ext] structure Code where
  val : UInt32
  deriving DecidableEq, Repr

namespace Code

/-- `codes.OK`. -/
def ok : Code := ⟨0⟩
/-- `codes.Canceled`. -/
def canceled : Code := ⟨1⟩
/-- `codes.Unknown`. -/
def unknown : Code := ⟨2⟩
/-- `codes.InvalidArgument`. -/
def invalidArgument : Code := ⟨3⟩
/-- `codes.DeadlineExceeded`. -/
def deadlineExceeded : Code := ⟨4⟩
/-- `codes.NotFound`. -/
def notFound : Code := ⟨5⟩
/-- `codes.AlreadyExists`. -/
def alreadyExists : Code := ⟨6⟩
/-- `codes.PermissionDenied`. -/
def permissionDenied : Code := ⟨7⟩
/-- `codes.ResourceExhausted`. -/
def resourceExhausted : Code := ⟨8⟩
/-- `codes.FailedPrecondition`. -/
def failedPrecondition : Code := ⟨9⟩
/-- `codes.Aborted`. -/
def aborted : Code := ⟨10⟩
/-- `codes.OutOfRange`. -/
def outOfRange : Code := ⟨11⟩
/-- `codes.Unimplemented`. -/
def unimplemented : Code := ⟨12⟩
/-- `codes.Internal`. -/
def internal : Code := ⟨13⟩
/-- `codes.Unavailable`. -/
def unavailable : Code := ⟨14⟩
/-- `codes.DataLoss`. -/
def dataLoss : Code := ⟨15⟩
/-- `codes.Unauthenticated`. -/
def unauthenticated : Code := ⟨16⟩

end Code

/-- `HTTPStatusFromCode`: the switch over the named codes, in the source's
order, and `http.StatusInternalServerError` after it for every other code. -/
def httpStatusFromCode (code : Code) : Int :=
  if code = .ok then 200
  else if code = .canceled then 408
  else if code = .unknown then 500
  else if code = .invalidArgument then 400
  else if code = .deadlineExceeded then 504
  else if code = .notFound then 404
  else if code = .alreadyExists then 409
  else if code = .permissionDenied then 403
  else if code = .unauthenticated then 401
  else if code = .resourceExhausted then 429
  else if code = .failedPrecondition then 400
  else if code = .aborted then 409
  else if code = .outOfRange then 400
  else if code = .unimplemented then 501
  else if code = .internal then 500
  else if code = .unavailable then 503
  else if code = .dataLoss then 500
  else 500

/-- `CodeFromHTTPStatus`. -/
def codeFromHTTPStatus (httpStatusCode : Int) : Code :=
  if 200 ≤ httpStatusCode ∧ httpStatusCode < 300 then .ok
  else
    match httpStatusCode with
    | 408 => .canceled
    | 500 => .unknown
    | 400 => .internal
    | 504 => .deadlineExceeded
    | 404 => .notFound
    | 409 => .alreadyExists
    | 403 => .permissionDenied
    | 401 => .unauthenticated
    | 429 => .resourceExhausted
    | 501 => .unimplemented
    | 503 => .unavailable
    | _ => .unknown

/-- The reason phrases of `net/http`'s status table, by code. -/
def statusTexts : List (Int × String) :=
  [(100, "Continue"), (101, "Switching Protocols"), (102, "Processing"), (103, "Early Hints"),
   (200, "OK"), (201, "Created"), (202, "Accepted"), (203, "Non-Authoritative Information"),
   (204, "No Content"), (205, "Reset Content"), (206, "Partial Content"), (207, "Multi-Status"),
   (208, "Already Reported"), (226, "IM Used"), (300, "Multiple Choices"),
   (301, "Moved Permanently"), (302, "Found"), (303, "See Other"), (304, "Not Modified"),
   (305, "Use Proxy"), (307, "Temporary Redirect"), (308, "Permanent Redirect"),
   (400, "Bad Request"), (401, "Unauthorized"), (402, "Payment Required"), (403, "Forbidden"),
   (404, "Not Found"), (405, "Method Not Allowed"), (406, "Not Acceptable"),
   (407, "Proxy Authentication Required"), (408, "Request Timeout"), (409, "Conflict"),
   (410, "Gone"), (411, "Length Required"), (412, "Precondition Failed"),
   (413, "Request Entity Too Large"), (414, "Request URI Too Long"),
   (415, "Unsupported Media Type"), (416, "Requested Range Not Satisfiable"),
   (417, "Expectation Failed"), (418, "I\x27m a teapot"), (421, "Misdirected Request"),
   (422, "Unprocessable Entity"), (423, "Locked"), (424, "Failed Dependency"),
   (425, "Too Early"), (426, "Upgrade Required"), (428, "Precondition Required"),
   (429, "Too Many Requests"), (431, "Request Header Fields Too Large"),
   (451, "Unavailable For Legal Reasons"), (500, "Internal Server Error"),
   (501, "Not Implemented"), (502, "Bad Gateway"), (503, "Service Unavailable"),
   (504, "Gateway Timeout"), (505, "HTTP Version Not Supported"),
   (506, "Variant Also Negotiates"), (507, "Insufficient Storage"), (508, "Loop Detected"),
   (510, "Not Extended"), (511, "Network Authentication Required")]

/-- `http.StatusText`: the reason phrase of a status code, empty for a code
`net/http` does not know. -/
def statusText (code : Int) : GoString :=
  match statusTexts.find? (fun p => p.1 = code) with
  | some (_, text) => ofString text
  | none => []

/-- The ASCII byte of the decimal digit `d`. -/
def digitByte (d : Nat) : UInt8 := (48 + d).toUInt8

/-- The decimal digits of `n` in front of `acc`, most significant first;
`fuel` bounds the number of digits. -/
def decimalDigits : Nat → Nat → GoString → GoString
  | 0, _, acc => acc
  | fuel + 1, n, acc =>
      if n < 10 then digitByte n :: acc else decimalDigits fuel (n / 10) (digitByte (n % 10) :: acc)

/-- `strconv.Itoa`: the decimal text of `n`, with a leading `-` when it is
negative.  A number has fewer digits than its value plus one. -/
def itoa (n : Int) : GoString :=
  let digits := decimalDigits (n.natAbs + 1) n.natAbs []
  if n < 0 then 45 :: digits else digits

/-- `maxMetadataValueLen`, the byte length `http.error_message` is cut to. -/
def maxMetadataValueLen : Nat := 63

/-- `errorInfoDomain`. -/
def errorInfoDomain : GoString := ofString "dapr.io"

/-- `errorInfoHTTPCodeMetadata`. -/
def errorInfoHTTPCodeMetadata : GoString := ofString "http.code"

/-- `errorInfoHTTPErrorMetadata`. -/
def errorInfoHTTPErrorMetadata : GoString := ofString "http.error_message"

/-- `errdetails.ErrorInfo`; its `metadata` map as its entries. -/
structure ErrorInfo where
  reason : GoString
  domain : GoString
  metadata : List (GoString × GoString)
  deriving DecidableEq, Repr

/-- Whether `proto.Marshal` accepts the message: every string in it is valid
UTF-8. -/
def ErrorInfo.marshals (info : ErrorInfo) : Bool :=
  validString info.reason && validString info.domain &&
    info.metadata.all fun kv => validString kv.1 && validString kv.2

/-- A gRPC status: code, message and the details attached to it. -/
structure Status where
  code : Code
  message : GoString
  details : List ErrorInfo
  deriving DecidableEq, Repr

/-- `grpcStatus.New(code, message)`. -/
def Status.new (code : Code) (message : GoString) : Status := ⟨code, message, []⟩

/-- `s.WithDetails(info)`: no details on an `OK` status, and none that do not
marshal. -/
def Status.withDetails (s : Status) (info : ErrorInfo) : Option Status :=
  if s.code = .ok then none
  else if info.marshals then some { s with details := s.details ++ [info] }
  else none

/-- `ErrorFromHTTPResponseCode(code, detail)`: the status of the error, `none`
for `nil`. -/
def errorFromHTTPResponseCode (code : Int) (detail : GoString) : Option Status :=
  let grpcCode := codeFromHTTPStatus code
  if grpcCode = .ok then none
  else
    let httpStatusText := statusText code
    let respStatus := Status.new grpcCode httpStatusText
    let detail := if detail.length ≥ maxMetadataValueLen then detail.take maxMetadataValueLen
      else detail
    match respStatus.withDetails
        ⟨httpStatusText, errorInfoDomain,
          [(errorInfoHTTPCodeMetadata, itoa code), (errorInfoHTTPErrorMetadata, detail)]⟩ with
    | some resps => some resps
    | none => some respStatus

end DaprMessaging
