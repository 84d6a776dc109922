import FirmQuant.Application.WriteAhead
import FirmQuant.Application.ArmAuthority
import FirmQuant.Application.ObservationGap
import FirmQuant.Persistence.AbsenceProofs
import FirmQuant.Execution.LeaseDiscipline
import FirmQuant.Persistence.SyncAtomicity
import FirmQuant.Application.ControlRestarts
import FirmQuant.Application.ControlInterleaving
import FirmQuant.Application.KillSwitch
import FirmQuant.Application.DurableHalt
import FirmQuant.Execution.ReplayBars
import FirmQuant.Risk.ScopeDiscipline
import FirmQuant.Risk.CancelSweep
import FirmQuant.MarketData.Promotion
import FirmQuant.MarketData.CalendarManifest
import FirmQuant.MarketData.StrategyData
import FirmQuant.Broker.ClientIdentity
import FirmQuant.Domain.StateEconomics
import FirmQuant.Risk.GateAnswers
import FirmQuant.Broker.RestingSell
import FirmQuant.Persistence.RepeatedObservation
import FirmQuant.Execution.TargetCrossing
import FirmQuant.Execution.ReplayFacts
import FirmQuant.Application.EventPump
import FirmQuant.Strategy.DecisionDigests
import FirmQuant.Broker.OrderLifecycles
import FirmQuant.Reconciliation.ReviewedCash
import FirmQuant.MarketData.PublishedHistory
import FirmQuant.Application.EvidenceAggregate
import FirmQuant.Application.ShadowSession
import FirmQuant.Risk.ArmLease
import FirmQuant.Application.CloseCheckpoint
import FirmQuant.Execution.WaitTermination
import FirmQuant.Reconciliation.Evaluation
import FirmQuant.Reconciliation.LiveView
