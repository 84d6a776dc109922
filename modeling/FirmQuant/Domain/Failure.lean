import FirmQuant.Domain.Facts

/-!
# Failures

The exceptions that the modelled code raises, with the texts it raises them with, and the
reason codes of the risk gate and of the write authorizer.
-/

namespace FirmQuant

/-- The reason codes of `ExecutionRiskGate.evaluate` and `_Authorizer.authorize`. -/
inductive ReasonCode
  | authorizationContextInvalid | authorizationContextUnavailable | capabilityFactoryRequired
  | modeNotLiveWritable | liveTradingDisabled | modeBindingMismatch
  | programTradingReportUnconfirmed | brokerApiUnauthorized
  | armLeaseMissing | armLeaseInvalid | runtimeNotWritable
  | brokerDisconnected | brokerReadUnhealthy | brokerWriteUnhealthy
  | brokerHealthTimeInFuture | brokerHealthStale | startupReconciliationRequired
  | clockDriftUnverified | clockDriftLimit | clockReceiptTimeInFuture | clockReceiptStale
  | brokerSnapshotMissing | brokerSnapshotStale | brokerSnapshotTimeInFuture
  | quoteMissing | quoteStale | quoteTimeInFuture
  | sessionInvalid | marketNotTradable | identityMismatch | killSwitchTripped
  | unresolvedOrderState | submittingUnresolved | reconciliationMismatch | externalActivity
  | symbolNotCanonical | symbolNotDeploymentAllowed | commandExceedsUquantIntent
  | cashOrPositionUnsafe | frequencyLimit
  | submitCommandInvalid | executionRiskGateMissing | executionRiskGateDenied
  | riskGateQuantityMismatch | cancelIdInvalid | cancelRiskGateDenied
  -- the gate's own codes
  | dataIdentityDrift | configIdentityDrift | reconciliationUnhealthy | externalActiveOrder
  | positionChangeUnverified | unexplainedPositionChange | corporateActionUnverified
  | corporateActionSuspected | consecutiveRejectionLimit | accountEquityAnomaly
  | intradayLossLimit | capitalDrawdownLimit | deploymentAllowlistExpandsUniverse
  | commandExceedsUquantAuthorization | brokerDisconnectDurationUnverified
  | brokerDisconnectLimit | symbolNotCanonicalAiUniverse | accountNotCash
  | instrumentFactMissing | quoteFactMissing | freezeNewRisk | instrumentSymbolMismatch
  | securityTypeNotEquity | instrumentNotTrading | instrumentRiskStatus | quoteSymbolMismatch
  | priceLimitFactMissing | priceLimitFactMismatch | limitPriceOutOfBounds
  | limitPricePrecisionInvalid | limitPriceTickInvalid | priceReferenceMissing
  | priceDeviationLimit | orderLifetimeLimit | positionSymbolMismatch
  | buyTargetAlreadySatisfied | sellTargetAlreadySatisfied | openOrderLimit
  | submitRateLimit | cancelRateLimit
  | uquantTargetSharesShrink | uquantTargetWeightShrink | uquantTargetGrossShrink
  | symbolNotionalCapShrink | totalGrossCapShrink | availableCashShrink
  | positionQuantityShrink | sellableQuantityShrink | orderNotionalCapShrink
  | dailySubmittedCapShrink | dailyFilledCapShrink | volumeParticipationShrink
  | tradingUnitShrink | authorizedQuantityZero | allChecksPassed
  deriving DecidableEq, Repr

/-- The codes of `RuntimeClockDiscontinuity`. -/
inductive ClockDiscontinuity
  | monotonicClockRollback | wallClockRollback | runtimeObservationGap | wallMonotonicDivergence
  deriving DecidableEq, Repr

/-- The reasons with which the production daemon halts. -/
inductive HaltReason
  | clock (code : ClockDiscontinuity)
  | monotonicClockInvalid
  | reconciliationIdentityInvalid
  /-- The reason of the event pump, or `BROKER_EVENT_PUMP_HALTED`. -/
  | eventPump (reason : String)
  | writerLeaseLost
  | productionRuntimeException
  | brokerDisconnectFailed
  deriving DecidableEq, Repr

/-- An exception of the modelled code.  `outOfFuel` is none of the source's: it ends a run of
the model whose loop was given too few iterations. -/
inductive Failure
  | domainTransitionError (message : String)
  | domainValidationError (message : String)
  | domainTypeError (message : String)
  | persistenceConflict (message : String)
  | integrityError (constraint : String)
  | recoveryError (message : String)
  | recoveryContradiction (message : String)
  | productionServicesUnavailable (code : String)
  | productionDaemonHalted (reason : HaltReason)
  | writerLeaseLost
  | writeCapabilityDenied (reasonCodes : List ReasonCode)
  | brokerWriteForbidden
  | brokerWriteNotAccepted
  | brokerError (name : String)
  | runtimeError (message : String)
  | valueError (message : String)
  | typeError (message : String)
  | outOfFuel
  deriving DecidableEq, Repr

end FirmQuant
