import AirDump.Connection.Reporting
import AirDump.Connection.Refusal
import AirDump.Telemetry.Delivery
import AirDump.Telemetry.EndToEnd
import AirDump.Telemetry.Alignment
import AirDump.Telemetry.Framing
import AirDump.Foundation.Fairness
import AirDump.Foundation.Pipeline
import AirDump.Telemetry.Interleavings
import AirDump.Foundation.Blocks
import AirDump.Telemetry.Positions
import AirDump.Foundation.Monitor
import AirDump.Telemetry.Trace
import AirDump.Connection.Receiving
import AirDump.Telemetry.Lifecycle
import AirDump.Telemetry.Ending
import AirDump.Telemetry.Termination
import AirDump.Telemetry.Stepwise
import AirDump.Connection.Discovery
import AirDump.Foundation.NumberText
import AirDump.Foundation.Hundredths
import AirDump.Telemetry.Transcript
import AirDump.Telemetry.Console
import AirDump.Connection.Loss
