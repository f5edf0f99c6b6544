import DocumentDBGateway.Rust.Str
import DocumentDBGateway.Rust.Num
import DocumentDBGateway.Error
import DocumentDBGateway.Telemetry.Env
import DocumentDBGateway.Telemetry.ContextPropagation
import DocumentDBGateway.Telemetry.Tracing
import DocumentDBGateway.Telemetry.Metrics
import DocumentDBGateway.Telemetry.Logging
import DocumentDBGateway.Telemetry.Config
import DocumentDBGateway.Telemetry.TelemetryManager
import DocumentDBGateway.Telemetry.Lifecycle
import DocumentDBGateway.Telemetry.RequestMetrics
import DocumentDBGateway.Bson
import DocumentDBGateway.Processor.DataManagement
