import DaprMessaging.GoString
import DaprMessaging.Base64
import DaprMessaging.Metadata
import DaprMessaging.Tracing
import DaprMessaging.Bridge
import DaprMessaging.Proofs.GrpcRange
import DaprMessaging.Proofs.HTTPRange
import DaprMessaging.Proofs.TraceSteps
import DaprMessaging.Proofs.Conversions
import DaprMessaging.Proofs.KeyMapping
import DaprMessaging.Proofs.TraceContext
import DaprMessaging.Proofs.VisitOrder
import DaprMessaging.Proofs.CustomMetadata
import DaprMessaging.Utf8
import DaprMessaging.ToLower
import DaprMessaging.Proofs.Utf8Codec
import DaprMessaging.Proofs.StringsMap
import DaprMessaging.Proofs.StringsToLower
import DaprMessaging.EqualFold
import DaprMessaging.Proofs.EqualFold
import DaprMessaging.Status
import DaprMessaging.Proofs.StatusTranslation
import DaprMessaging.Proofs.BinaryValues
import DaprMessaging.Metrics
import DaprMessaging.Proofs.MetricsReports
