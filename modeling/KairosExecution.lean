import KairosExecution.Paper.AtMostOnce
import KairosExecution.Simulation.Depth
import KairosExecution.Simulation.Causality
import KairosExecution.Simulation.Replay
import KairosExecution.Simulation.Drain
import KairosExecution.Production.Authorized
import KairosExecution.Production.Releases
import KairosExecution.Production.Signatures
import KairosExecution.Production.WireFormats
import KairosExecution.Venue.Recovery
import KairosExecution.Venue.Handling
import KairosExecution.Production.OneWay
import KairosExecution.Production.Receipts
import KairosExecution.Simulation.Conservation
import KairosExecution.Python.Context
import KairosExecution.Simulation.Arithmetic
import KairosExecution.Simulation.Precision
import KairosExecution.Simulation.Answers
import KairosExecution.Simulation.Priority
import KairosExecution.Production.ExitRisk
import KairosExecution.Production.SignedEvidence
import KairosExecution.Production.Dispatch
import KairosExecution.Production.WireTerminals
import KairosExecution.Interactive.Exclusive
import KairosExecution.Paper.Protections
import KairosExecution.Sidecar.Budget
import KairosExecution.Pagination.Exhausted
import KairosExecution.Production.StageBounds
import KairosExecution.Production.CaptureParse
import KairosExecution.Python.JsonDump
import KairosExecution.Production.CustodyAgreement
import KairosExecution.Sidecar.Client
import KairosExecution.Paper.Admission
import KairosExecution.Production.WireSends
import KairosExecution.Production.NativeCapture
import KairosExecution.Venue.StopLookup
