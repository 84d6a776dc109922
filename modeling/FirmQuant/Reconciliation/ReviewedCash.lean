import Mathlib.Data.List.Dedup
import FirmQuant.Foundation.Matched
import FirmQuant.Reconciliation.AccountPreflight

/-!
# Reviewed cash differences

When a reviewed cash difference lets a later snapshot of the same economic state pass the preflight.

A review names the digest of the snapshot that was reviewed, and this digest covers the time of the
capture and the market values, which no other capture shares.
-/

namespace FirmQuant

open Effect

/-! ## Economic states -/

/-- An account without its market value. -/
def BrokerAccountFact.economics (account : BrokerAccountFact) : BrokerAccountFact :=
  { account with totalAssets := account.availableCash, cash_le_assets := le_refl _ }

/-- A position without its market value. -/
def BrokerPositionFact.economics (position : BrokerPositionFact) : BrokerPositionFact :=
  { position with marketValue := Money.zero }

/-- An order without the time at which it was received. -/
def BrokerOrderFact.economics (order : BrokerOrderFact) : BrokerOrderFact :=
  { order with receivedAt := 0 }

/-- A fill without the time at which it was received. -/
def BrokerFillFact.economics (fill : BrokerFillFact) : BrokerFillFact :=
  { fill with receivedAt := 0 }

/-- A read without market values and times of receipt. -/
def SnapshotRead.economics (read : SnapshotRead) : SnapshotRead where
  account := read.account.economics
  positions := read.positions.map BrokerPositionFact.economics
  orders := read.orders.map BrokerOrderFact.economics
  fills := read.fills.map BrokerFillFact.economics

/-- A snapshot without market values and times, but with its session and its digest. -/
def CapturedSnapshot.economics (snapshot : CapturedSnapshot) : CapturedSnapshot where
  account := snapshot.account.economics
  positions := snapshot.positions.map BrokerPositionFact.economics
  orders := snapshot.orders.map BrokerOrderFact.economics
  fills := snapshot.fills.map BrokerFillFact.economics
  sessionDate := snapshot.sessionDate
  capturedAt := 0
  brokerEventWatermark := 0
  rawPayloadSha256 := snapshot.rawPayloadSha256

/-- Sorting commutes with leaving market values and times out. -/
lemma SnapshotRead.capture_economics (read : SnapshotRead) (t : DateTime) :
    (read.capture t).economics =
      ⟨⟨read.economics.account, read.economics.sortedPositions, read.economics.sortedOrders,
        read.economics.sortedFills, shanghaiDate t, 0, 0⟩, read.payload t⟩ := by
  have hpositions : read.economics.sortedPositions =
      read.sortedPositions.map BrokerPositionFact.economics := by
    unfold sortedPositions
    exact (List.map_insertionSort _ _ BrokerPositionFact.economics _ fun _ _ _ _ => Iff.rfl).symm
  have horders : read.economics.sortedOrders =
      read.sortedOrders.map BrokerOrderFact.economics := by
    unfold sortedOrders
    exact (List.map_insertionSort _ _ BrokerOrderFact.economics _ fun _ _ _ _ => Iff.rfl).symm
  have hfills : read.economics.sortedFills =
      read.sortedFills.map BrokerFillFact.economics := by
    unfold sortedFills
    exact (List.map_insertionSort _ _ BrokerFillFact.economics _ fun _ _ _ _ => Iff.rfl).symm
  rw [hpositions, horders, hfills]
  rfl

/-- Captures of one economic state in one session have the same economics up to their digests. -/
lemma SnapshotRead.capture_economics_eq {read read' : SnapshotRead} {t t' : DateTime}
    (hsame : read.economics = read'.economics) (hsession : shanghaiDate t' = shanghaiDate t) :
    (read'.capture t').economics =
      { (read.capture t).economics with rawPayloadSha256 := read'.payload t' } := by
  rw [capture_economics, capture_economics, ← hsame, hsession]

/-! ## The preflight sees the economics alone -/

section Economics

variable {ledger : OperationalLedgerView}

lemma brokerClientId_economics (orders : List BrokerOrderFact) (id : String) :
    brokerClientId (orders.map BrokerOrderFact.economics) id = brokerClientId orders id := by
  unfold brokerClientId
  rw [← List.map_reverse, List.find?_map, Option.map_map]
  rfl

lemma orderBlockers_economics (orders : List BrokerOrderFact) :
    (orders.map BrokerOrderFact.economics).flatMap (orderBlockers ledger) =
      orders.flatMap (orderBlockers ledger) := by
  rw [List.flatMap_map]
  rfl

lemma fillStep_economics {orders : List BrokerOrderFact} {accountOrders : List AccountOrder}
    {accountFillIds : List String} (s : FillProgress) (fill : BrokerFillFact) :
    fillStep (orders.map BrokerOrderFact.economics) ledger accountOrders accountFillIds s
        fill.economics =
      fillStep orders ledger accountOrders accountFillIds s fill := by
  unfold fillStep
  rw [brokerClientId_economics]
  rfl

lemma orderedFills_economics (fills : List BrokerFillFact) :
    orderedFills (fills.map BrokerFillFact.economics) =
      (orderedFills fills).map BrokerFillFact.economics := by
  unfold orderedFills
  exact (List.map_insertionSort _ _ BrokerFillFact.economics _ fun _ _ _ _ => Iff.rfl).symm

lemma explainFills_economics (snapshot : CapturedSnapshot) (account : AccountState)
    (binding : AccountBinding) :
    explainFills snapshot.economics account ledger binding =
      explainFills snapshot account ledger binding := by
  have hfold : ∀ (accountOrders : List AccountOrder) (accountFillIds : List String)
      (s : FillProgress),
      (orderedFills snapshot.economics.fills).foldl
          (fillStep snapshot.economics.orders ledger accountOrders accountFillIds) s =
        (orderedFills snapshot.fills).foldl
          (fillStep snapshot.orders ledger accountOrders accountFillIds) s := by
    intro accountOrders accountFillIds s
    change (orderedFills (snapshot.fills.map _)).foldl _ s = _
    rw [orderedFills_economics, List.foldl_map]
    refine List.foldl_ext _ _ _ fun s fill _ => ?_
    exact fillStep_economics s fill
  have horders : snapshot.economics.orders.flatMap (orderBlockers ledger) =
      snapshot.orders.flatMap (orderBlockers ledger) := orderBlockers_economics snapshot.orders
  unfold explainFills
  simp only [hfold, horders]
  rfl

lemma checkPosition_economics (snapshot : CapturedSnapshot) (expected : Quantities)
    (reviews : Option ReviewedAdjustments) (rawSymbol : String) :
    checkPosition snapshot.economics expected reviews rawSymbol =
      checkPosition snapshot expected reviews rawSymbol := by
  unfold checkPosition
  have hbroker : (snapshot.economics.positions.map fun p =>
      (p.symbol.canonical, p.totalShares, p.sellableShares)) =
        snapshot.positions.map fun p => (p.symbol.canonical, p.totalShares, p.sellableShares) := by
    change (snapshot.positions.map _).map _ = _
    rw [List.map_map]
    rfl
  rw [hbroker]
  rfl

lemma comparedSymbols_economics (snapshot : CapturedSnapshot) (expected : Quantities) :
    comparedSymbols snapshot.economics expected = comparedSymbols snapshot expected := by
  unfold comparedSymbols
  have hsymbols : snapshot.economics.positions.map (·.symbol.canonical) =
      snapshot.positions.map (·.symbol.canonical) := by
    change (snapshot.positions.map _).map _ = _
    rw [List.map_map]
    rfl
  rw [hsymbols]

end Economics

/-! ## What blocks -/

variable {blockers : List PreflightBlocker} {b : PreflightBlocker} {orders : List BrokerOrderFact}
  {accountOrders : List AccountOrder} {accountFillIds : List String}
  {row : ReviewedAccountAdjustment}

lemma sortedBlockers_eq_nil :
    sortedBlockers blockers = [] ↔ blockers = [] := by
  have hall : ∀ b : PreflightBlocker, b ∈ PreflightBlocker.all := by
    intro b
    cases b <;> decide
  unfold sortedBlockers
  rw [List.filter_eq_nil_iff]
  constructor
  · intro h
    rw [List.eq_nil_iff_forall_not_mem]
    intro b hb
    exact h b (hall b) (decide_eq_true hb)
  · rintro rfl b _
    simp

lemma mem_of_sortedBlockers (h : sortedBlockers blockers = [b]) :
    b ∈ blockers ∧ ∀ b' ∈ blockers, b' = b := by
  have hmem : ∀ b', b' ∈ sortedBlockers blockers ↔ b' ∈ blockers := by
    intro b'
    have hall : b' ∈ PreflightBlocker.all := by cases b' <;> decide
    simp [sortedBlockers, hall]
  rw [h] at hmem
  refine ⟨(hmem b).mp (List.mem_singleton.mpr rfl), fun b' hb' => ?_⟩
  exact List.mem_singleton.mp ((hmem b').mpr hb')

variable {s : FillProgress} {snapshot : CapturedSnapshot} {rows : ReviewedAdjustments}
  {expected : Quantities} {rawSymbol : String}
  {found : List PreflightBlocker × ReviewedAdjustments}

lemma cash_notMem_block {b : PreflightBlocker} (hb : b ≠ .unexplainedCashChange)
    (h : .unexplainedCashChange ∉ s.blockers) : .unexplainedCashChange ∉ (s.block b).blockers := by
  intro hmem
  rcases List.mem_snoc.mp hmem with hmem | hmem
  · exact h hmem
  · exact hb hmem.symm

lemma cash_notMem_apply (fill : BrokerFillFact) (h : .unexplainedCashChange ∉ s.blockers) :
    .unexplainedCashChange ∉ (s.apply fill).blockers := by
  unfold FillProgress.apply
  cases fill.side with
  | buy => exact h
  | sell =>
    dsimp only
    split
    · exact cash_notMem_block (by decide) h
    · split
      · exact h
      · exact h

section Checks

variable {ledger : OperationalLedgerView} {account : AccountState} {binding : AccountBinding}
  {progress : FillProgress} {reviews : Option ReviewedAdjustments}

/-- The fills never block for the cash. -/
lemma cash_notMem_fillStep (fill : BrokerFillFact) (h : .unexplainedCashChange ∉ s.blockers) :
    .unexplainedCashChange ∉
      (fillStep orders ledger accountOrders accountFillIds s fill).blockers := by
  unfold fillStep
  split
  · split
    · exact cash_notMem_block (by decide) h
    · split
      · exact cash_notMem_block (by decide) h
      · split
        · exact cash_notMem_block (by decide) h
        · split
          · exact cash_notMem_block (by decide) h
          · dsimp only
            split
            · exact h
            · exact cash_notMem_apply fill h
  · exact cash_notMem_block (by decide) h

lemma cash_notMem_explainFills (h : explainFills snapshot account ledger binding = .ok progress) :
    .unexplainedCashChange ∉ progress.blockers := by
  unfold explainFills at h
  obtain ⟨accountOrders, -, h⟩ := bind_ok_iff.mp h
  obtain ⟨accountFillIds, -, h⟩ := bind_ok_iff.mp h
  obtain ⟨positions, -, h⟩ := bind_ok_iff.mp h
  obtain ⟨cash, -, h⟩ := bind_ok_iff.mp h
  cases h
  have hstart : PreflightBlocker.unexplainedCashChange ∉
      identityBlockers snapshot.account ledger binding ++
        snapshot.orders.flatMap (orderBlockers ledger) := by
    rw [List.mem_append, not_or]
    constructor
    · unfold identityBlockers
      split_ifs <;> decide
    · intro hmem
      obtain ⟨order, -, hmem⟩ := List.mem_flatMap.mp hmem
      unfold orderBlockers at hmem
      split at hmem
      · cases List.mem_singleton.mp hmem
      · split at hmem
        · cases List.mem_singleton.mp hmem
        · cases hmem
  have hfold : ∀ (fills : List BrokerFillFact) (s : FillProgress),
      .unexplainedCashChange ∉ s.blockers → .unexplainedCashChange ∉ (fills.foldl
        (fillStep snapshot.orders ledger accountOrders accountFillIds) s).blockers := by
    intro fills
    induction fills with
    | nil => exact fun s hs => hs
    | cons fill fills ih => exact fun s hs => ih _ (cash_notMem_fillStep fill hs)
  exact hfold _ _ hstart

/-! ## Reviews -/

/-- An adjustment reviews a difference. -/
structure ReviewedAccountAdjustment.Reviews (adjustment : ReviewedAccountAdjustment)
    (d : AccountDifference) : Prop where
  accountIdHash : adjustment.accountIdHash = d.accountIdHash
  session : adjustment.session = d.session
  coverage : adjustment.coverage = d.coverage
  brokerSnapshotSha256 : adjustment.brokerSnapshotSha256 = d.brokerSnapshotSha256
  differenceSha256 : adjustment.differenceSha256 = d

variable {d : AccountDifference}

/-- The adjustments that match a difference without a symbol are those that review it. -/
lemma mem_matching (hsymbol : d.symbol = none) :
    row ∈ rows.matching d ↔ row ∈ rows ∧ row.Reviews d := by
  unfold ReviewedAdjustments.matching
  rw [List.mem_filter, decide_eq_true_eq, hsymbol]
  constructor
  · rintro ⟨hmem, haccount, hsession, hcoverage, hbroker, hdifference, -⟩
    exact ⟨hmem, haccount, hsession, hcoverage, hbroker, hdifference⟩
  · rintro ⟨hmem, haccount, hsession, hcoverage, hbroker, hdifference⟩
    exact ⟨hmem, haccount, hsession, hcoverage, hbroker, hdifference,
      fun symbol h => by cases h⟩

lemma reviews_of_mem_matching (h : row ∈ rows.matching d) :
    row.differenceSha256 = d := by
  unfold ReviewedAdjustments.matching at h
  rw [List.mem_filter, decide_eq_true_eq] at h
  exact h.2.2.2.2.2.1

lemma matchingReviewIds_eq_ok {found : ReviewedAdjustments} :
    matchingReviewIds (some rows) d = .ok found ↔
      isSha256 d.accountIdHash = true ∧ found = rows.matching d := by
  unfold matchingReviewIds
  by_cases h : isSha256 d.accountIdHash
  · simp [h, eq_comm]
  · simp [h]

/-- What the preflight returns is made of its three checks. -/
lemma evaluateAccountPreflight_eq_ok {tolerance : Money} {result : AccountPreflightResult}
    (h : evaluateAccountPreflight snapshot account ledger binding tolerance reviews = .ok result) :
    ∃ progress cash positions, explainFills snapshot account ledger binding = .ok progress ∧
      checkCash snapshot progress.cash tolerance reviews = .ok cash ∧
      (comparedSymbols snapshot (expectedValues progress.positions)).mapM
        (checkPosition snapshot (expectedValues progress.positions) reviews) = .ok positions ∧
      result.blockers =
        sortedBlockers (progress.blockers ++ cash.1 ++ positions.flatMap Prod.fst) ∧
      (result.passed ↔ result.blockers = []) ∧
      result.reviewedAdjustmentIds = (cash.2 ++ positions.flatMap Prod.snd).dedup := by
  unfold evaluateAccountPreflight at h
  obtain ⟨progress, hprogress, h⟩ := bind_ok_iff.mp h
  obtain ⟨cash, hcash, h⟩ := bind_ok_iff.mp h
  obtain ⟨positions, hpositions, h⟩ := bind_ok_iff.mp h
  cases h
  exact ⟨progress, cash, positions, hprogress, hcash, hpositions, rfl, by simp, rfl⟩

lemma evaluateAccountPreflight_of {snapshot : CapturedSnapshot} {tolerance : Money}
    {cash : List PreflightBlocker × ReviewedAdjustments}
    {positions : List (List PreflightBlocker × ReviewedAdjustments)}
    (hprogress : explainFills snapshot account ledger binding = .ok progress)
    (hcash : checkCash snapshot progress.cash tolerance reviews = .ok cash)
    (hpositions : (comparedSymbols snapshot (expectedValues progress.positions)).mapM
      (checkPosition snapshot (expectedValues progress.positions) reviews) = .ok positions) :
    ∃ result, evaluateAccountPreflight snapshot account ledger binding tolerance reviews =
        .ok result ∧
      result.blockers =
        sortedBlockers (progress.blockers ++ cash.1 ++ positions.flatMap Prod.fst) ∧
      (result.passed ↔ result.blockers = []) := by
  unfold evaluateAccountPreflight
  refine ⟨_, bind_ok_iff.mpr ⟨progress, hprogress, bind_ok_iff.mpr ⟨cash, hcash,
    bind_ok_iff.mpr ⟨positions, hpositions, rfl⟩⟩⟩, rfl, ?_⟩
  exact decide_eq_true_iff

/-! ## Positions -/

lemma mapM_eq_ok_of_const {ε α β : Type} {f : α → Except ε β} {xs : List α} {y : β}
    (h : ∀ x ∈ xs, f x = .ok y) :
    xs.mapM f = .ok (xs.map fun _ => y) := by
  rw [mapM_eq_ok, List.forall₂_map_right_iff, List.forall₂_same]
  exact h

/-- A position that blocks nothing is reviewed by nothing, whatever was reviewed. -/
lemma checkPosition_of_nil
    (h : checkPosition snapshot expected reviews rawSymbol = .ok found) (hnone : found.1 = []) :
    ∀ (digest : SnapshotPayload) (reviews' : Option ReviewedAdjustments),
      checkPosition { snapshot with rawPayloadSha256 := digest } expected reviews' rawSymbol =
        .ok ([], []) := by
  intro digest reviews'
  have hmismatch : ∀ d, positionMismatch reviews d = .ok found → False := by
    intro d hd
    obtain ⟨rows, -, hfound⟩ := bind_ok_iff.mp hd
    cases hfound
    simp at hnone
  unfold checkPosition at h ⊢
  dsimp only at h ⊢
  cases hsymbol : Symbol.parse rawSymbol with
  | none =>
    rw [hsymbol] at h
    cases h
  | some symbol =>
    rw [hsymbol] at h
    dsimp only at h ⊢
    split at h
    · exact (hmismatch _ h).elim
    · next htotal =>
      rw [if_neg htotal]
      split at h
      · exact (hmismatch _ h).elim
      · next hsellable => rw [if_neg hsellable]

/-- A position never blocks for the cash. -/
lemma cash_notMem_checkPosition
    (h : checkPosition snapshot expected reviews rawSymbol = .ok found) :
    .unexplainedCashChange ∉ found.1 := by
  have hmismatch : ∀ d, positionMismatch reviews d = .ok found →
      .unexplainedCashChange ∉ found.1 := by
    intro d hd
    obtain ⟨rows, -, hfound⟩ := bind_ok_iff.mp hd
    cases hfound
    dsimp only
    split <;> decide
  unfold checkPosition at h
  dsimp only at h
  split at h
  · cases h
  · split at h
    · exact hmismatch _ h
    · split at h
      · exact hmismatch _ h
      · cases h
        exact List.not_mem_nil

/-- A position is never reviewed by an adjustment of the cash. -/
lemma coverage_of_checkPosition
    (h : checkPosition snapshot expected reviews rawSymbol = .ok found) :
    ∀ row ∈ found.2, row.differenceSha256.coverage ≠ .availableCash := by
  have hmismatch : ∀ d : AccountDifference, d.coverage ≠ .availableCash →
      positionMismatch reviews d = .ok found →
      ∀ row ∈ found.2, row.differenceSha256.coverage ≠ .availableCash := by
    intro d hcoverage hd row hrow
    obtain ⟨rows, hrows, hfound⟩ := bind_ok_iff.mp hd
    cases hfound
    cases reviews with
    | none =>
      cases hrows
      cases hrow
    | some reviews =>
      obtain ⟨-, rfl⟩ := matchingReviewIds_eq_ok.mp hrows
      rw [reviews_of_mem_matching hrow]
      exact hcoverage
  unfold checkPosition at h
  dsimp only at h
  split at h
  · cases h
  · split at h
    · exact hmismatch _ (by simp [positionDifference]) h
    · split at h
      · exact hmismatch _ (by simp [positionDifference]) h
      · cases h
        intro row hrow
        cases hrow

/-! ## The expected cash -/

/-- The difference between the cash of a snapshot and what the account and the fills explain. -/
def cashDifferenceOf (snapshot : CapturedSnapshot) (account : AccountState)
    (ledger : OperationalLedgerView) (binding : AccountBinding) :
    Except Failure AccountDifference := do
  let progress ← explainFills snapshot account ledger binding
  return cashDifference snapshot progress.cash

/-- A fill adds an amount of its own to the cash. -/
lemma FillProgress.apply_cash (fill : BrokerFillFact) :
    ∃ amount : ℚ, ∀ s : FillProgress, (s.apply fill).cash = s.cash + amount := by
  cases hside : fill.side with
  | buy =>
    refine ⟨-(fill.price.value * fill.shares +
      (fill.commission.value + fill.stampDuty.value + fill.transferFee.value)), fun s => ?_⟩
    unfold FillProgress.apply
    rw [hside]
    exact sub_eq_add_neg _ _
  | sell =>
    refine ⟨fill.price.value * fill.shares -
      (fill.commission.value + fill.stampDuty.value + fill.transferFee.value), fun s => ?_⟩
    unfold FillProgress.apply
    rw [hside]
    dsimp only
    split
    · rfl
    · split
      · rfl
      · rfl

/-- What the fills make of the cash does not depend on the positions. -/
lemma fillStep_cash {s' : FillProgress} (fill : BrokerFillFact) (h : s.cash = s'.cash) :
    (fillStep orders ledger accountOrders accountFillIds s fill).cash =
      (fillStep orders ledger accountOrders accountFillIds s' fill).cash := by
  unfold fillStep
  split
  · split
    · exact h
    · split
      · exact h
      · split
        · exact h
        · split
          · exact h
          · dsimp only
            split
            · exact h
            · obtain ⟨amount, hamount⟩ := FillProgress.apply_cash fill
              rw [hamount, hamount]
              exact congrArg (· + amount) h
  · exact h

/-- The cash that is expected does not depend on the session. -/
lemma explainFills_cash {snapshot' : CapturedSnapshot} {progress' : FillProgress}
    (horders : snapshot.orders = snapshot'.orders) (hfills : snapshot.fills = snapshot'.fills)
    (h : explainFills snapshot account ledger binding = .ok progress)
    (h' : explainFills snapshot' account ledger binding = .ok progress') :
    progress.cash = progress'.cash := by
  unfold explainFills at h h'
  obtain ⟨accountOrders, horder, h⟩ := bind_ok_iff.mp h
  obtain ⟨accountFillIds, hids, h⟩ := bind_ok_iff.mp h
  obtain ⟨positions, -, h⟩ := bind_ok_iff.mp h
  obtain ⟨cash, hcash, h⟩ := bind_ok_iff.mp h
  obtain ⟨accountOrders', horder', h'⟩ := bind_ok_iff.mp h'
  obtain ⟨accountFillIds', hids', h'⟩ := bind_ok_iff.mp h'
  obtain ⟨positions', -, h'⟩ := bind_ok_iff.mp h'
  obtain ⟨cash', hcash', h'⟩ := bind_ok_iff.mp h'
  rw [horder] at horder'
  rw [hids] at hids'
  rw [hcash] at hcash'
  cases horder'
  cases hids'
  cases hcash'
  have hfold : ∀ (fills : List BrokerFillFact) (s s' : FillProgress), s.cash = s'.cash →
      (fills.foldl (fillStep snapshot.orders ledger accountOrders accountFillIds) s).cash =
        (fills.foldl (fillStep snapshot.orders ledger accountOrders accountFillIds) s').cash := by
    intro fills
    induction fills with
    | nil => exact fun s s' hs => hs
    | cons fill fills ih => exact fun s s' hs => ih _ _ (fillStep_cash fill hs)
  cases h
  cases h'
  rw [← horders, ← hfills]
  exact hfold _ _ _ rfl

end Checks

/-! ## Captures of one economic state -/

section Captures

variable {read read' : SnapshotRead} {t t' : DateTime} {account : AccountState}
  {ledger : OperationalLedgerView} {binding : AccountBinding} {tolerance : Money}

/-- The account of two reads of one economic state. -/
lemma account_of_economics (h : read.economics = read'.economics) :
    read.account.accountIdHash = read'.account.accountIdHash ∧
      read.account.availableCash = read'.account.availableCash := by
  have haccount : read.account.economics = read'.account.economics := congrArg (·.account) h
  exact ⟨congrArg (·.accountIdHash) haccount, congrArg (·.availableCash) haccount⟩

variable {progress : FillProgress} {snapshot : CapturedSnapshot}

/-- The expected cash of captures of one economic state is the same. -/
lemma expectedCash_of_economics {progress' : FillProgress}
    (hsame : read.economics = read'.economics)
    (h : explainFills (read.capture t) account ledger binding = .ok progress)
    (h' : explainFills (read'.capture t') account ledger binding = .ok progress') :
    progress.cash = progress'.cash := by
  rw [← explainFills_economics] at h h'
  refine explainFills_cash ?_ ?_ h h'
  all_goals rw [SnapshotRead.capture_economics, SnapshotRead.capture_economics, hsame]

/-- A snapshot that is blocked by its cash alone: nothing else blocks, and the difference is more
than the tolerance. -/
structure CashBlocked (snapshot : CapturedSnapshot) (account : AccountState)
    (ledger : OperationalLedgerView) (binding : AccountBinding) (tolerance : Money)
    (progress : FillProgress) : Prop where
  explained : explainFills snapshot account ledger binding = .ok progress
  noBlockers : progress.blockers = []
  nonneg : ¬ progress.cash < 0
  exceeds : tolerance.value < |snapshot.account.availableCash.value - progress.cash|
  account : isSha256 snapshot.account.accountIdHash = true
  positions : ∀ rawSymbol ∈ comparedSymbols snapshot (expectedValues progress.positions),
    ∀ (digest : SnapshotPayload) (reviews : Option ReviewedAdjustments),
      checkPosition { snapshot with rawPayloadSha256 := digest }
        (expectedValues progress.positions) reviews rawSymbol = .ok ([], [])

variable {result : AccountPreflightResult}

/-- What a snapshot whose only blocker is the cash looks like. -/
lemma cashBlocked_of_only {reviews : ReviewedAdjustments}
    (h : evaluateAccountPreflight snapshot account ledger binding tolerance (some reviews) =
      .ok result) (honly : result.blockers = [.unexplainedCashChange]) :
    ∃ progress, CashBlocked snapshot account ledger binding tolerance progress := by
  obtain ⟨progress, cash, positions, hprogress, hcash, hpositions, hblockers, -, -⟩ :=
    evaluateAccountPreflight_eq_ok h
  rw [honly] at hblockers
  obtain ⟨hmem, hall⟩ := mem_of_sortedBlockers hblockers.symm
  have hnoBlockers : progress.blockers = [] := by
    rw [List.eq_nil_iff_forall_not_mem]
    intro b hb
    have hcashBlocker := hall b (List.mem_append_left _ (List.mem_append_left _ hb))
    exact cash_notMem_explainFills hprogress (hcashBlocker ▸ hb)
  have hquiet : ∀ found ∈ positions, found.1 = [] := by
    intro found hfound
    obtain ⟨rawSymbol, -, hcheck⟩ :=
      Matched.exists_of_forall₂ (mapM_eq_ok.mp hpositions) found hfound
    rw [List.eq_nil_iff_forall_not_mem]
    intro b hb
    have hcashBlocker := hall b (List.mem_append_right _ (List.mem_flatMap.mpr ⟨found, hfound, hb⟩))
    exact cash_notMem_checkPosition hcheck (hcashBlocker ▸ hb)
  have hcashOnly : .unexplainedCashChange ∈ cash.1 := by
    rw [hnoBlockers, List.nil_append, List.mem_append] at hmem
    refine hmem.resolve_right fun hmem => ?_
    obtain ⟨found, hfound, hb⟩ := List.mem_flatMap.mp hmem
    rw [hquiet found hfound] at hb
    cases hb
  unfold checkCash at hcash
  split at hcash
  · cases hcash
    cases List.mem_singleton.mp hcashOnly
  · next hnonneg =>
    split at hcash
    · next hexceeds =>
      obtain ⟨found, hfound, -⟩ := bind_ok_iff.mp hcash
      obtain ⟨haccount, -⟩ := matchingReviewIds_eq_ok.mp hfound
      refine ⟨progress, hprogress, hnoBlockers, hnonneg, hexceeds, haccount, ?_⟩
      intro rawSymbol hrawSymbol digest reviews'
      obtain ⟨found, hfound, hcheck⟩ :=
        Matched.exists_right_of_forall₂ (mapM_eq_ok.mp hpositions) rawSymbol hrawSymbol
      exact checkPosition_of_nil hcheck (hquiet found hfound) digest reviews'
    · cases hcash
      cases hcashOnly

/-- The only way past a difference of the cash is a review of it. -/
lemma reviewed_of_passed
    (h : evaluateAccountPreflight snapshot account ledger binding tolerance (some rows) =
      .ok result) (hpassed : result.passed = true)
    (hprogress : explainFills snapshot account ledger binding = .ok progress)
    (hexceeds : tolerance.value < |snapshot.account.availableCash.value - progress.cash|) :
    ∃ row ∈ rows, row.Reviews (cashDifference snapshot progress.cash) := by
  obtain ⟨progress', cash, positions, hprogress', hcash, -, hblockers, hiff, -⟩ :=
    evaluateAccountPreflight_eq_ok h
  rw [hprogress] at hprogress'
  cases hprogress'
  have hnone := sortedBlockers_eq_nil.mp (hblockers.symm.trans (hiff.mp hpassed))
  have hcashNone : cash.1 = [] := (List.append_eq_nil_iff.mp (List.append_eq_nil_iff.mp hnone).1).2
  unfold checkCash at hcash
  rw [if_pos hexceeds] at hcash
  split at hcash
  · cases hcash
    cases hcashNone
  · obtain ⟨found, hfound, hcash⟩ := bind_ok_iff.mp hcash
    obtain ⟨-, rfl⟩ := matchingReviewIds_eq_ok.mp hfound
    by_cases hempty : rows.matching (cashDifference snapshot progress.cash) = []
    · rw [hempty] at hcash
      cases hcash
      cases hcashNone
    · obtain ⟨row, hrow⟩ := List.exists_mem_of_ne_nil _ hempty
      obtain ⟨hmem, hreviews⟩ := (mem_matching rfl).mp hrow
      exact ⟨row, hmem, hreviews⟩

/-- A snapshot that is blocked by its cash alone passes with a review of the difference, whatever
its digest is. -/
lemma passed_of_reviewed {snapshot : CapturedSnapshot} {rows : ReviewedAdjustments}
    {progress : FillProgress} {digest : SnapshotPayload}
    (h : CashBlocked snapshot account ledger binding tolerance progress)
    (hreviewed : ∃ row ∈ rows, row.Reviews
      (cashDifference { snapshot with rawPayloadSha256 := digest } progress.cash)) :
    ∃ result, evaluateAccountPreflight { snapshot with rawPayloadSha256 := digest } account ledger
      binding tolerance (some rows) = .ok result ∧ result.passed = true := by
  let snapshot' : CapturedSnapshot := { snapshot with rawPayloadSha256 := digest }
  let d := cashDifference snapshot' progress.cash
  obtain ⟨row, hrow, hreviews⟩ := hreviewed
  have hfound : rows.matching d ≠ [] :=
    List.ne_nil_of_mem ((mem_matching rfl).mpr ⟨hrow, hreviews⟩)
  have hexplain : explainFills snapshot' account ledger binding = .ok progress := h.explained
  have hids : matchingReviewIds (some rows) d = .ok (rows.matching d) :=
    matchingReviewIds_eq_ok.mpr ⟨h.account, rfl⟩
  have hcash : checkCash snapshot' progress.cash tolerance (some rows) =
      .ok ([], rows.matching d) := by
    unfold checkCash
    rw [if_neg h.nonneg, if_pos h.exceeds]
    refine bind_ok_iff.mpr ⟨_, hids, ?_⟩
    rw [if_pos hfound]
    rfl
  have hpositions : (comparedSymbols snapshot' (expectedValues progress.positions)).mapM
      (checkPosition snapshot' (expectedValues progress.positions) (some rows)) = .ok
        ((comparedSymbols snapshot' (expectedValues progress.positions)).map fun _ => ([], [])) :=
    mapM_eq_ok_of_const fun rawSymbol hrawSymbol =>
      h.positions rawSymbol hrawSymbol digest (some rows)
  obtain ⟨result, hresult, hblockers, hiff⟩ :=
    evaluateAccountPreflight_of hexplain hcash hpositions
  refine ⟨result, hresult, hiff.mpr ?_⟩
  rw [hblockers, sortedBlockers_eq_nil, h.noBlockers]
  simp

/-- The preflight sees the economics and the digest of a snapshot alone. -/
lemma evaluateAccountPreflight_economics (snapshot : CapturedSnapshot)
    (reviews : Option ReviewedAdjustments) :
    evaluateAccountPreflight snapshot.economics account ledger binding tolerance reviews =
      evaluateAccountPreflight snapshot account ledger binding tolerance reviews := by
  have hposition : ∀ expected, checkPosition snapshot.economics expected reviews =
      checkPosition snapshot expected reviews :=
    fun expected => funext fun rawSymbol => checkPosition_economics snapshot expected reviews
      rawSymbol
  unfold evaluateAccountPreflight
  simp only [explainFills_economics, hposition, comparedSymbols_economics]
  rfl

/-- The difference that a later capture of one economic state has. -/
def AccountDifference.recaptured (d : AccountDifference) (payload : SnapshotPayload) :
    AccountDifference :=
  { d with session := shanghaiDate payload.capturedAt, brokerSnapshotSha256 := payload }

lemma cashDifference_recaptured (hsame : read.economics = read'.economics) :
    cashDifference (read'.capture t') progress.cash =
      (cashDifference (read.capture t) progress.cash).recaptured (read'.payload t') := by
  obtain ⟨haccount, hcash⟩ := account_of_economics hsame
  have haccount' : (read'.capture t').account.accountIdHash =
      (read.capture t).account.accountIdHash := haccount.symm
  have hcash' : (read'.capture t').account.availableCash =
      (read.capture t).account.availableCash := hcash.symm
  unfold cashDifference AccountDifference.recaptured
  rw [haccount', hcash']
  rfl

lemma cashDifferenceOf_eq_ok {d : AccountDifference} :
    cashDifferenceOf snapshot account ledger binding = .ok d ↔
      ∃ progress, explainFills snapshot account ledger binding = .ok progress ∧
        d = cashDifference snapshot progress.cash := by
  unfold cashDifferenceOf
  rw [bind_ok_iff]
  refine exists_congr fun progress => and_congr_right fun _ => ?_
  exact ⟨fun h => (Except.ok.inj h).symm, fun h => congrArg Except.ok h.symm⟩

variable {reviews : ReviewedAdjustments} {adjustment : ReviewedAccountAdjustment}
  {d : AccountDifference} {result : AccountPreflightResult}

/-- A review of a difference reviews the later one just if the payloads agree. -/
lemma reviews_recaptured (hreview : adjustment.Reviews d)
    (hpayload : d.brokerSnapshotSha256 = read.payload t) {payload : SnapshotPayload}
    (h : adjustment.Reviews (d.recaptured payload)) : payload = read.payload t := by
  have hdifference : d = d.recaptured payload :=
    hreview.differenceSha256.symm.trans h.differenceSha256
  exact (congrArg (·.brokerSnapshotSha256) hdifference).symm.trans hpayload

/-- A later capture passes only if it has the payload that was reviewed, or another adjustment
reviews its difference. -/
lemma recaptured_of_passed {later : AccountPreflightResult}
    (hfirst : evaluateAccountPreflight (read.capture t) account ledger binding tolerance
      (some reviews) = .ok result)
    (honly : result.blockers = [.unexplainedCashChange])
    (hdifference : cashDifferenceOf (read.capture t) account ledger binding = .ok d)
    (hreview : adjustment.Reviews d) (hsame : read.economics = read'.economics)
    (hlater : evaluateAccountPreflight (read'.capture t') account ledger binding tolerance
      (some (reviews ++ [adjustment])) = .ok later) (hpassed : later.passed = true) :
    read'.payload t' = read.payload t ∨
      ∃ row ∈ reviews, row.Reviews (d.recaptured (read'.payload t')) := by
  obtain ⟨progress, hblocked⟩ := cashBlocked_of_only hfirst honly
  obtain ⟨progress₁, hprogress₁, rfl⟩ := cashDifferenceOf_eq_ok.mp hdifference
  rw [hblocked.explained] at hprogress₁
  cases hprogress₁
  obtain ⟨progress', -, -, hprogress', -⟩ := evaluateAccountPreflight_eq_ok hlater
  have hcash := expectedCash_of_economics hsame hblocked.explained hprogress'
  have hexceeds : tolerance.value <
      |(read'.capture t').account.availableCash.value - progress'.cash| := by
    rw [← hcash]
    change _ < |read'.account.availableCash.value - _|
    rw [← (account_of_economics hsame).2]
    exact hblocked.exceeds
  obtain ⟨row, hrow, hreviews⟩ := reviewed_of_passed hlater hpassed hprogress' hexceeds
  rw [← hcash, cashDifference_recaptured hsame] at hreviews
  rcases List.mem_append.mp hrow with hrow | hrow
  · exact .inr ⟨row, hrow, hreviews⟩
  · rw [List.mem_singleton] at hrow
    subst hrow
    exact .inl (reviews_recaptured hreview rfl hreviews)

/-- An adjustment of the cash is used for the difference that it reviews and for no other. -/
lemma difference_of_used (hreview : adjustment.Reviews d) (hcoverage : d.coverage = .availableCash)
    (h : evaluateAccountPreflight snapshot account ledger binding tolerance (some rows) =
      .ok result) (hused : adjustment ∈ result.reviewedAdjustmentIds) :
    cashDifferenceOf snapshot account ledger binding = .ok d := by
  obtain ⟨progress, cash, positions, hprogress, hcash, hpositions, -, -, hids⟩ :=
    evaluateAccountPreflight_eq_ok h
  rw [hids, List.mem_dedup, List.mem_append] at hused
  rcases hused with hused | hused
  · unfold checkCash at hcash
    split at hcash
    · cases hcash
      cases hused
    · split at hcash
      · obtain ⟨found, hfound, hcash⟩ := bind_ok_iff.mp hcash
        obtain ⟨-, rfl⟩ := matchingReviewIds_eq_ok.mp hfound
        have hmem : adjustment ∈ rows.matching (cashDifference snapshot progress.cash) := by
          split at hcash
          · cases hcash
            exact hused
          · cases hcash
            cases hused
        refine cashDifferenceOf_eq_ok.mpr ⟨progress, hprogress, ?_⟩
        exact hreview.differenceSha256.symm.trans (reviews_of_mem_matching hmem)
      · cases hcash
        cases hused
  · obtain ⟨found, hfound, hmem⟩ := List.mem_flatMap.mp hused
    obtain ⟨rawSymbol, -, hcheck⟩ :=
      Matched.exists_of_forall₂ (mapM_eq_ok.mp hpositions) found hfound
    refine absurd ?_ (coverage_of_checkPosition hcheck adjustment hmem)
    rw [hreview.differenceSha256, hcoverage]

end Captures

section Usable

variable {read read' : SnapshotRead} {t t' : DateTime} {account : AccountState}
  {ledger : OperationalLedgerView} {binding : AccountBinding} {tolerance : Money}
  {reviews : ReviewedAdjustments} {adjustment : ReviewedAccountAdjustment}
  {d : AccountDifference} {result : AccountPreflightResult}

/-- With a review of the only difference that blocks a snapshot, another capture of the same
economic state passes only if it has the same payload, the time of the capture and the market values
included, or has a review of its own; in the same session it then does pass.  The review is used for
its difference alone. -/
theorem reviewed_cash_usable_iff
    (hfirst : evaluateAccountPreflight (read.capture t) account ledger binding tolerance
      (some reviews) = .ok result)
    (honly : result.blockers = [.unexplainedCashChange])
    (hdifference : cashDifferenceOf (read.capture t) account ledger binding = .ok d)
    (hreview : adjustment.Reviews d) (hsame : read.economics = read'.economics) :
    ((∃ later, evaluateAccountPreflight (read'.capture t') account ledger binding tolerance
        (some (reviews ++ [adjustment])) = .ok later ∧ later.passed = true) →
      read'.payload t' = read.payload t ∨
        ∃ row ∈ reviews, row.Reviews (d.recaptured (read'.payload t'))) ∧
    (shanghaiDate t' = shanghaiDate t →
      (read'.payload t' = read.payload t ∨
        ∃ row ∈ reviews, row.Reviews (d.recaptured (read'.payload t'))) →
      ∃ later, evaluateAccountPreflight (read'.capture t') account ledger binding tolerance
        (some (reviews ++ [adjustment])) = .ok later ∧ later.passed = true) ∧
    ∀ (snapshot : CapturedSnapshot) (account' : AccountState) (ledger' : OperationalLedgerView)
      (binding' : AccountBinding) (tolerance' : Money) (rows : ReviewedAdjustments)
      (other : AccountPreflightResult),
      evaluateAccountPreflight snapshot account' ledger' binding' tolerance' (some rows) =
        .ok other → adjustment ∈ other.reviewedAdjustmentIds →
      cashDifferenceOf snapshot account' ledger' binding' = .ok d := by
  have hcoverage : d.coverage = .availableCash := by
    obtain ⟨progress, -, rfl⟩ := cashDifferenceOf_eq_ok.mp hdifference
    rfl
  refine ⟨?_, ?_, fun snapshot account' ledger' binding' tolerance' rows other =>
    difference_of_used hreview hcoverage⟩
  · rintro ⟨later, hlater, hpassed⟩
    exact recaptured_of_passed hfirst honly hdifference hreview hsame hlater hpassed
  · intro hsession hcovered
    rw [← evaluateAccountPreflight_economics] at hfirst
    obtain ⟨progress, hblocked⟩ := cashBlocked_of_only hfirst honly
    obtain ⟨progress₁, hprogress₁, rfl⟩ := cashDifferenceOf_eq_ok.mp hdifference
    have hexplained := hblocked.explained
    rw [explainFills_economics, hprogress₁] at hexplained
    cases hexplained
    have hreviewed : ∃ row ∈ reviews ++ [adjustment], row.Reviews
        ((cashDifference (read.capture t) progress.cash).recaptured (read'.payload t')) := by
      rcases hcovered with hpayload | ⟨row, hrow, hreviews⟩
      · refine ⟨adjustment, by simp, ?_⟩
        have hagain : (cashDifference (read.capture t) progress.cash).recaptured
            (read'.payload t') = cashDifference (read.capture t) progress.cash := by
          rw [hpayload]
          rfl
        rw [hagain]
        exact hreview
      · exact ⟨row, List.mem_append_left _ hrow, hreviews⟩
    have hlater := @passed_of_reviewed _ _ _ _ _ _ _ (read'.payload t') hblocked (by
      rw [← SnapshotRead.capture_economics_eq hsame hsession]
      change ∃ row ∈ reviews ++ [adjustment], row.Reviews
        (cashDifference (read'.capture t') progress.cash)
      rw [cashDifference_recaptured hsame]
      exact hreviewed)
    rw [← SnapshotRead.capture_economics_eq hsame hsession,
      evaluateAccountPreflight_economics] at hlater
    exact hlater

end Usable

/-! ## A review and the next capture -/

namespace ReviewSample

def accountIdHash : String := "0000000000000000000000000000000000000000000000000000000000000000"

/-- A broker account with nothing but its cash. -/
def read : SnapshotRead :=
  ⟨⟨accountIdHash, .cash, ⟨900, by norm_num⟩, ⟨900, by norm_num⟩, le_refl _⟩, [], [], []⟩

/-- The strategy expects a hundred more. -/
def account : AccountState := ⟨1000, [], [], []⟩

def ledger : OperationalLedgerView := ⟨accountIdHash, .cash, [], []⟩

def binding : AccountBinding :=
  ⟨accountIdHash, .cash, "", "", "", "", "", "", [], 0⟩

def tolerance : Money := ⟨1 / 100, by norm_num⟩

/-- The difference of the capture at midnight. -/
def difference : AccountDifference := cashDifference (read.capture 0) 1000

/-- The review of the difference. -/
def adjustment : ReviewedAccountAdjustment :=
  ⟨accountIdHash, ⟨.sh, "600001"⟩, difference.session, "DIVIDEND", .availableCash,
    read.payload 0, difference, "", 0⟩

lemma reviews_difference : adjustment.Reviews difference := ⟨rfl, rfl, rfl, rfl, rfl⟩

lemma explainFills_read (t : DateTime) :
    explainFills (read.capture t) account ledger binding = .ok ⟨[], [], [], 1000⟩ := by
  have hcash : accountCash account = .ok 1000 := by
    unfold accountCash account
    norm_num
  have horders : knownAccountOrders account.orderLedger = .ok [] := if_neg (by simp [account])
  have hfills : knownAccountFillIds account.fills = .ok [] := by
    unfold knownAccountFillIds account
    exact if_pos List.nodup_nil
  unfold explainFills
  rw [horders, hfills, hcash]
  rfl

lemma blocked (t : DateTime) : ∃ result, evaluateAccountPreflight (read.capture t) account ledger
    binding tolerance (some []) = .ok result ∧ result.blockers = [.unexplainedCashChange] := by
  have haccount : isSha256 accountIdHash = true := by decide +kernel
  have hids : matchingReviewIds (some []) (cashDifference (read.capture t) 1000) = .ok [] :=
    matchingReviewIds_eq_ok.mpr ⟨haccount, rfl⟩
  have hcash : checkCash (read.capture t) 1000 tolerance (some []) =
      .ok ([.unexplainedCashChange], []) := by
    have hexceeds : tolerance.value <
        |(read.capture t).account.availableCash.value - 1000| := by
      change (1 / 100 : ℚ) < |900 - 1000|
      norm_num
    unfold checkCash
    rw [if_neg (by norm_num), if_pos hexceeds, hids]
    rfl
  obtain ⟨result, hresult, hblockers, -⟩ :=
    @evaluateAccountPreflight_of _ _ _ _ _ _ _ _ [] (explainFills_read t) hcash rfl
  exact ⟨result, hresult, hblockers⟩

lemma cashDifferenceOf_read :
    cashDifferenceOf (read.capture 0) account ledger binding = .ok difference :=
  cashDifferenceOf_eq_ok.mpr ⟨_, explainFills_read 0, rfl⟩

end ReviewSample

section Samples

open ReviewSample

/-- The review lets the reviewed snapshot itself pass. -/
theorem reviewed_snapshot_passes :
    ∃ later, evaluateAccountPreflight (read.capture 0) account ledger binding tolerance
      (some ([] ++ [adjustment])) = .ok later ∧ later.passed = true := by
  obtain ⟨result, hresult, honly⟩ := blocked 0
  exact (reviewed_cash_usable_iff hresult honly cashDifferenceOf_read reviews_difference rfl).2.1
    rfl (.inl rfl)

/-- A second later the reviewed difference blocks again. -/
theorem reviewed_cash_blocks_later :
    ¬ ∀ (read read' : SnapshotRead) (t t' : DateTime) (account : AccountState)
      (ledger : OperationalLedgerView) (binding : AccountBinding) (tolerance : Money)
      (reviews : ReviewedAdjustments) (adjustment : ReviewedAccountAdjustment)
      (d : AccountDifference) (result : AccountPreflightResult),
      evaluateAccountPreflight (read.capture t) account ledger binding tolerance (some reviews) =
        .ok result →
      result.blockers = [.unexplainedCashChange] →
      cashDifferenceOf (read.capture t) account ledger binding = .ok d → adjustment.Reviews d →
      read.economics = read'.economics → t < t' →
      ∃ later, evaluateAccountPreflight (read'.capture t') account ledger binding tolerance
        (some (reviews ++ [adjustment])) = .ok later ∧ later.passed = true := by
  intro hclaim
  obtain ⟨result, hresult, honly⟩ := blocked 0
  obtain ⟨later, hlater, hpassed⟩ := hclaim read read 0 second account ledger binding tolerance []
    adjustment difference result hresult honly cashDifferenceOf_read reviews_difference rfl
    (by decide)
  rcases recaptured_of_passed hresult honly cashDifferenceOf_read reviews_difference rfl hlater
    hpassed with hpayload | ⟨row, hrow, -⟩
  · have htime : second = 0 := congrArg (·.capturedAt) hpayload
    exact absurd htime (by decide)
  · cases hrow

end Samples

end FirmQuant
