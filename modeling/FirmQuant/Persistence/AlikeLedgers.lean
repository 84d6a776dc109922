import Mathlib.Data.String.Basic
import FirmQuant.Foundation.StableSort
import FirmQuant.Persistence.Reconciliation

/-!
# Ledgers alike

What a fill means to the ledger is its identity.  `_ordered_fills` returns the same identities for
supplied fills with the same members, in whatever order and number they come; fills of one identity
are recorded and applied alike; and ledgers that differ in nothing else than the times and the
payload digests of what was written cannot be told apart by a reconciliation.
-/

namespace FirmQuant

open Effect

namespace Ledger

open OrderAggregate

/-! ## Fills of one identity -/

section Identity

variable {executionId : ExecutionId} {fact : BrokerOrderFact} {fill fill' : BrokerFillFact}
  {fills fills' kept distinct ordered ordered' : List BrokerFillFact} {aggregate : OrderAggregate}

variable (h : fill.identity executionId = fill'.identity executionId)

include h

lemma brokerFillId_of_identity :
    fill.brokerFillId = fill'.brokerFillId :=
  congrArg FillIdentity.brokerFillId h

/-- Fills of one identity are reported by one event. -/
lemma fillEvent_of_identity :
    fillEvent fill = fillEvent fill' := by
  simp only [BrokerFillFact.identity, FillIdentity.mk.injEq] at h
  obtain ⟨hid, horder, -, -, -, -, hshares, hprice, -⟩ := h
  simp only [fillEvent, hid, horder, hshares, hprice]

/-- Whether a fill belongs to an order is read off its identity. -/
lemma fillMatches_of_identity (hmatch : fillMatches fact fill) : fillMatches fact fill' := by
  simp only [BrokerFillFact.identity, FillIdentity.mk.injEq] at h
  obtain ⟨-, horder, -, hsymbol, hside, hstatus, -, -, -, -, -, hdate, hsequence⟩ := h
  unfold fillMatches at hmatch ⊢
  rwa [← horder, ← hsymbol, ← hside, ← hstatus, ← hdate, ← hsequence]

omit h

/-- The order of fills is read off their identities. -/
def identityLe (a b : FillIdentity) : Prop :=
  a.sessionDate < b.sessionDate ∨
    (a.sessionDate = b.sessionDate ∧
      (a.executionSequence < b.executionSequence ∨
        (a.executionSequence = b.executionSequence ∧ ¬ b.brokerFillId < a.brokerFillId)))

/-- Fills that come before each other carry one id. -/
lemma identityLe_antisymm {a b : FillIdentity} (hab : identityLe a b) (hba : identityLe b a) :
    a.brokerFillId = b.brokerFillId := by
  obtain ⟨-, hab, hba⟩ := SortKey.tied hab hba
  obtain ⟨-, hab, hba⟩ := SortKey.tied hab hba
  exact le_antisymm (not_lt.mp hab) (not_lt.mp hba)

instance : Std.Total fillLe where
  total _ _ := SortKey.total (SortKey.total ((le_total _ _).imp not_lt.mpr not_lt.mpr))

instance : IsTrans BrokerFillFact fillLe where
  trans _ _ _ := SortKey.trans (SortKey.trans fun hab hbc =>
    not_lt.mpr ((not_lt.mp hab).trans (not_lt.mp hbc)))

/-- The fills that `_ordered_fills` returns are supplied ones. -/
lemma deduplicate_supplied (h : deduplicate executionId fact kept fills = .ok distinct) :
    distinct ⊆ kept ++ fills := by
  induction fills generalizing kept with
  | nil =>
    cases h
    exact List.subset_append_left _ _
  | cons fill rest ih =>
    unfold deduplicate at h
    split_ifs at h with hfill
    cases hfind : kept.find? (·.brokerFillId = fill.brokerFillId) with
    | some existing =>
      simp only [hfind] at h
      split_ifs at h with hsame
      intro f hf
      rcases List.mem_append.mp (ih h hf) with hkept | hrest
      · exact List.mem_append_left _ hkept
      · exact List.mem_append_right _ (List.mem_cons_of_mem _ hrest)
    | none =>
      simp only [hfind] at h
      intro f hf
      have hmem := ih h hf
      rwa [List.append_assoc, List.singleton_append] at hmem

/-- Fills of the order whose ids come with one identity each are taken. -/
lemma deduplicate_succeeds (kept : List BrokerFillFact) (hmatch : ∀ f ∈ fills, fillMatches fact f)
    (hsame : ∀ f ∈ kept ++ fills, ∀ g ∈ kept ++ fills, f.brokerFillId = g.brokerFillId →
      f.identity executionId = g.identity executionId) :
    ∃ distinct, deduplicate executionId fact kept fills = .ok distinct := by
  induction fills generalizing kept with
  | nil => exact ⟨kept, rfl⟩
  | cons fill rest ih =>
    have hrest : ∀ f ∈ rest, fillMatches fact f := (List.forall_mem_cons.mp hmatch).2
    unfold deduplicate
    rw [if_neg (not_not.mpr (hmatch fill List.mem_cons_self))]
    cases hfind : kept.find? (·.brokerFillId = fill.brokerFillId) with
    | some existing =>
      have hid : existing.brokerFillId = fill.brokerFillId := by simpa using List.find?_some hfind
      have hidentity : existing.identity executionId = fill.identity executionId :=
        hsame existing (List.mem_append_left _ (List.mem_of_find?_eq_some hfind)) fill
          (List.mem_append_right _ List.mem_cons_self) hid
      have hsub : kept ++ rest ⊆ kept ++ fill :: rest := by
        intro f hf
        rcases List.mem_append.mp hf with hold | hnew
        · exact List.mem_append_left _ hold
        · exact List.mem_append_right _ (List.mem_cons_of_mem _ hnew)
      dsimp only
      rw [if_pos hidentity]
      exact ih kept hrest fun f hf g hg => hsame f (hsub hf) g (hsub hg)
    | none =>
      refine ih (kept ++ [fill]) hrest fun f hf g hg => ?_
      rw [List.append_assoc, List.singleton_append] at hf hg
      exact hsame f hf g hg

/-- What `_ordered_fills` makes of fills. -/
structure Ordered (executionId : ExecutionId) (fact : BrokerOrderFact)
    (fills ordered : List BrokerFillFact) : Prop where
  supplied : ordered ⊆ fills
  kept : ∀ fill ∈ fills, ∃ f ∈ ordered, f.identity executionId = fill.identity executionId
  ids : (ordered.map (·.brokerFillId)).Nodup
  matching : ∀ f ∈ ordered, fillMatches fact f
  sorted : ordered.Pairwise fillLe

lemma orderedFills_ordered (h : orderedFills executionId fact fills = .ok ordered) :
    Ordered executionId fact fills ordered := by
  obtain ⟨hids, hmatch⟩ := orderedFills_ids h
  have hkept := orderedFills_distinct h
  unfold orderedFills at h
  obtain ⟨distinct, hfirst, ⟨⟩⟩ := bind_ok_iff.mp h
  refine ⟨fun f hf => ?_, hkept, hids, hmatch, List.pairwise_insertionSort fillLe distinct⟩
  have hdistinct := (List.perm_insertionSort fillLe distinct).mem_iff.mp hf
  simpa using deduplicate_supplied hfirst hdistinct

/-- The identities in one order do not depend on the order in which the fills were supplied. -/
lemma Ordered.identities_eq (h : Ordered executionId fact fills ordered)
    (h' : Ordered executionId fact fills' ordered') (hsame : ∀ f, f ∈ fills' ↔ f ∈ fills) :
    ordered'.map (·.identity executionId) = ordered.map (·.identity executionId) := by
  have hnodup : ∀ {l : List BrokerFillFact}, (l.map (·.brokerFillId)).Nodup →
      (l.map (·.identity executionId)).Nodup := by
    intro l hids
    refine List.Nodup.of_map FillIdentity.brokerFillId ?_
    rw [List.map_map]
    exact hids
  have hsorted : ∀ {l : List BrokerFillFact}, l.Pairwise fillLe →
      (l.map (·.identity executionId)).Pairwise identityLe :=
    fun hl => List.pairwise_map.mpr hl
  have hmem : ∀ {fills₁ ordered₁ fills₂ ordered₂ : List BrokerFillFact},
      Ordered executionId fact fills₁ ordered₁ → Ordered executionId fact fills₂ ordered₂ →
      fills₁ ⊆ fills₂ → ∀ i ∈ ordered₁.map (·.identity executionId),
        i ∈ ordered₂.map (·.identity executionId) := by
    intro fills₁ ordered₁ fills₂ ordered₂ h₁ h₂ hsub i hi
    obtain ⟨f, hf, rfl⟩ := List.mem_map.mp hi
    obtain ⟨g, hg, hidentity⟩ := h₂.kept f (hsub (h₁.supplied hf))
    exact List.mem_map.mpr ⟨g, hg, hidentity⟩
  have hperm : (ordered'.map (·.identity executionId)).Perm
      (ordered.map (·.identity executionId)) := by
    refine (List.perm_ext_iff_of_nodup (hnodup h'.ids) (hnodup h.ids)).mpr fun i => ?_
    exact ⟨hmem h' h (fun f => (hsame f).mp) i, hmem h h' (fun f => (hsame f).mpr) i⟩
  refine List.Perm.eq_of_pairwise (fun i j hi hj hij hji => ?_) (hsorted h'.sorted)
    (hsorted h.sorted) hperm
  -- Two identities of one list that carry one id are one.
  obtain ⟨f, hf, rfl⟩ := List.mem_map.mp (hperm.mem_iff.mp hi)
  obtain ⟨g, hg, rfl⟩ := List.mem_map.mp hj
  rw [List.inj_on_of_nodup_map h.ids hf hg (identityLe_antisymm hij hji)]

/-- Other supplied fills with the same members are taken too, and are the same again. -/
theorem orderedFills_same (h : orderedFills executionId fact fills = .ok ordered)
    (hsame : ∀ f, f ∈ fills' ↔ f ∈ fills) :
    ∃ ordered', orderedFills executionId fact fills' = .ok ordered' ∧
      ordered'.map (·.identity executionId) = ordered.map (·.identity executionId) := by
  have hordered := orderedFills_ordered h
  have hone : ∀ f ∈ fills, ∀ g ∈ fills, f.brokerFillId = g.brokerFillId →
      f.identity executionId = g.identity executionId := by
    intro f hf g hg hid
    obtain ⟨f₀, hf₀, hfid⟩ := hordered.kept f hf
    obtain ⟨g₀, hg₀, hgid⟩ := hordered.kept g hg
    have hids : f₀.brokerFillId = g₀.brokerFillId :=
      (brokerFillId_of_identity hfid).trans (hid.trans (brokerFillId_of_identity hgid).symm)
    rw [← hfid, ← hgid, List.inj_on_of_nodup_map hordered.ids hf₀ hg₀ hids]
  have hmatch : ∀ f ∈ fills, fillMatches fact f := by
    intro f hf
    obtain ⟨f₀, hf₀, hfid⟩ := hordered.kept f hf
    exact fillMatches_of_identity hfid (hordered.matching f₀ hf₀)
  obtain ⟨distinct, hdistinct⟩ := deduplicate_succeeds []
    (fun f hf => hmatch f ((hsame f).mp hf))
    (fun f hf g hg => hone f ((hsame f).mp (by simpa using hf)) g
      ((hsame g).mp (by simpa using hg)))
  have hrun : orderedFills executionId fact fills' = .ok (distinct.insertionSort fillLe) := by
    unfold orderedFills
    rw [hdistinct]
    rfl
  exact ⟨_, hrun, hordered.identities_eq (orderedFills_ordered hrun) hsame⟩

/-- The proven shares are read off the identities. -/
lemma provenCumulativeShares_of_identities
    (h : ordered'.map (·.identity executionId) = ordered.map (·.identity executionId)) :
    provenCumulativeShares aggregate ordered' = provenCumulativeShares aggregate ordered := by
  have hread : ∀ l : List BrokerFillFact, provenCumulativeShares aggregate l =
      aggregate.filledShares + (((l.map (·.identity executionId)).filter fun i =>
        i.brokerFillId ∉ aggregate.fills.map (·.brokerFillId)).map (·.shares)).sum := by
    intro l
    unfold provenCumulativeShares
    rw [List.filter_map, List.map_map]
    rfl
  rw [hread, hread, h]

end Identity

/-! ## Ledgers alike -/

/-- A stored fill without its time and its payload digest. -/
def timelessFill (row : FillRow) : FillRow :=
  { row with eventTime := 0, rawPayloadSha256 := "" }

/-- Ledgers that a reconciliation cannot tell apart: they hold the same versions of the same orders,
the same broker orders, event ids and fills, and evidence of the same identities. -/
structure Alike (ledger other : Ledger) : Prop where
  versions : other.executionIntents.map (fun row => (row.executionId, row.version)) =
    ledger.executionIntents.map (fun row => (row.executionId, row.version))
  brokerOrders : other.brokerOrders = ledger.brokerOrders
  eventIds : other.domainEvents.map (·.event.eventId) = ledger.domainEvents.map (·.event.eventId)
  fills : other.fills.map timelessFill = ledger.fills.map timelessFill
  evidence : ∀ identity, (∃ stored ∈ other.fillEvidence, stored.identity = identity) ↔
    ∃ stored ∈ ledger.fillEvidence, stored.identity = identity

section Alike

variable {ledger ledger' other : Ledger} {aggregate next filled final : OrderAggregate}
  {event : OrderEvent} {executionId : ExecutionId} {fact : BrokerOrderFact}
  {fill fill' : BrokerFillFact} {fills fills' : List BrokerFillFact} {time time' : DateTime}

lemma Alike.refl (ledger : Ledger) : Alike ledger ledger := ⟨rfl, rfl, rfl, rfl, fun _ => Iff.rfl⟩

lemma Alike.holdsVersion (h : Alike ledger other) (hholds : ledger.holdsVersion aggregate) :
    other.holdsVersion aggregate := by
  obtain ⟨row, hrow, hid, hversion⟩ := hholds
  have hmem : (row.executionId, row.version) ∈
      other.executionIntents.map (fun row => (row.executionId, row.version)) := by
    rw [h.versions]
    exact List.mem_map.mpr ⟨row, hrow, rfl⟩
  obtain ⟨found, hfound, hsame⟩ := List.mem_map.mp hmem
  obtain ⟨hfoundId, hfoundVersion⟩ := Prod.mk.inj hsame
  exact ⟨found, hfound, hfoundId.trans hid, hfoundVersion.trans hversion⟩

/-- A transition of an order is committed alike. -/
lemma Alike.transition (h : Alike ledger other)
    (hrun : transition aggregate event time ledger = .ok (next, ledger')) (time' : DateTime) :
    ∃ other', Ledger.transition aggregate event time' other = .ok (next, other') ∧
      Alike ledger' other' := by
  unfold Ledger.transition at hrun ⊢
  cases happly : aggregate.apply event with
  | error failure =>
    rw [happly] at hrun
    cases hrun
  | ok moved =>
    simp only [happly] at hrun ⊢
    split_ifs at hrun with hversion hholds hknown
    · cases hrun
      exact ⟨other, if_pos hversion, h⟩
    · cases hrun
      have hnew : ¬ other.domainEvents.any (·.event.eventId = event.eventId) = true := by
        intro hany
        refine hknown ?_
        obtain ⟨row, hrow, hid⟩ := List.any_eq_true.mp hany
        have hmem : row.event.eventId ∈ ledger.domainEvents.map (·.event.eventId) := by
          rw [← h.eventIds]
          exact List.mem_map.mpr ⟨row, hrow, rfl⟩
        obtain ⟨found, hfound, hsame⟩ := List.mem_map.mp hmem
        exact List.any_eq_true.mpr ⟨found, hfound, by simpa [hsame] using hid⟩
      rw [if_neg hversion, if_neg (not_not.mpr (h.holdsVersion hholds)), if_neg hnew]
      refine ⟨_, rfl, ?_, h.brokerOrders, ?_, h.fills, h.evidence⟩
      · -- The update reads and writes the version of a row only.
        have hadvanced : ∀ rows : List IntentRow, ∀ occurredAt : DateTime,
            (rows.map fun row =>
              if row.executionId = aggregate.intent.executionId ∧
                row.version = aggregate.version then IntentRow.advance row next occurredAt
              else row).map (fun row => (row.executionId, row.version)) =
              (rows.map fun row => (row.executionId, row.version)).map fun key =>
                if key.1 = aggregate.intent.executionId ∧ key.2 = aggregate.version then
                  (key.1, next.version) else key := by
          intro rows occurredAt
          rw [List.map_map, List.map_map]
          refine List.map_congr_left fun row _ => ?_
          simp only [Function.comp_apply]
          split_ifs <;> rfl
        exact (hadvanced _ _).trans ((congrArg _ h.versions).trans (hadvanced _ _).symm)
      · change (other.domainEvents ++ [_]).map _ = (ledger.domainEvents ++ [_]).map _
        rw [List.map_append, List.map_append, h.eventIds]
        rfl

lemma Alike.recordBrokerOrder {u : PUnit} (h : Alike ledger other)
    (hrun : recordBrokerOrder fact executionId ledger = .ok (u, ledger')) :
    ∃ other', Ledger.recordBrokerOrder fact executionId other = .ok (u, other') ∧
      Alike ledger' other' := by
  unfold Ledger.recordBrokerOrder at hrun ⊢
  rw [h.brokerOrders]
  cases hfind : ledger.brokerOrders.find? (·.brokerOrderId = fact.brokerOrderId) with
  | none =>
    simp only [hfind] at hrun ⊢
    split_ifs at hrun with hknown
    cases hrun
    rw [if_neg hknown]
    exact ⟨_, rfl, h.versions, rfl, h.eventIds, h.fills, h.evidence⟩
  | some row =>
    simp only [hfind] at hrun ⊢
    cases hregression : orderRegression row fact executionId with
    | some message =>
      rw [hregression] at hrun
      cases hrun
    | none =>
      rw [hregression] at hrun
      cases hrun
      exact ⟨_, rfl, h.versions, rfl, h.eventIds, h.fills, h.evidence⟩

/-- What evidence there is of, after the evidence of a fill was recorded. -/
lemma evidence_recordFillEvidence (identity : FillIdentity) :
    (∃ stored ∈ (recordFillEvidence fill executionId ledger).fillEvidence,
      stored.identity = identity) ↔
      (∃ stored ∈ ledger.fillEvidence, stored.identity = identity) ∨
        fill.identity executionId = identity := by
  unfold recordFillEvidence
  split_ifs with hmem
  · refine ⟨.inl, ?_⟩
    rintro (hold | hnew)
    · exact hold
    · exact ⟨_, hmem, hnew⟩
  · constructor
    · rintro ⟨stored, hstored, hsame⟩
      rcases List.mem_snoc.mp hstored with hold | hnew
      · exact .inl ⟨stored, hold, hsame⟩
      · rw [hnew] at hsame
        exact .inr hsame
    · rintro (⟨stored, hstored, hsame⟩ | hnew)
      · exact ⟨stored, List.mem_append_left _ hstored, hsame⟩
      · exact ⟨_, List.mem_concat_self, hnew⟩

variable (h : Alike ledger other)

include h

/-- A fill of the same identity is the same again on an alike ledger. -/
lemma Alike.fillAgain {row row' : FillRow} (hrow : timelessFill row' = timelessFill row)
    (hidentity : fill'.identity executionId = fill.identity executionId)
    (hagain : FillAgain ledger executionId fill row) : FillAgain other executionId fill' row' := by
  obtain ⟨heconomics, ⟨stored, hstored, hid⟩, hsame⟩ := hagain
  have hfill := brokerFillId_of_identity hidentity
  refine ⟨?_, ?_, fun found hfound hfoundId => ?_⟩
  · have hfields := hidentity
    simp only [BrokerFillFact.identity, FillIdentity.mk.injEq] at hfields
    obtain ⟨-, horder, -, hsymbol, hside, -, hshares, hprice, hcommission, hduty, hfee, hdate, -⟩ :=
      hfields
    change sameFillEconomics (timelessFill row') fill' executionId
    change sameFillEconomics (timelessFill row) fill executionId at heconomics
    unfold sameFillEconomics at heconomics ⊢
    rwa [hrow, horder, hsymbol, hside, hshares, hprice, hcommission, hduty, hfee, hdate]
  · obtain ⟨found, hfound, hfoundIdentity⟩ :=
      (h.evidence stored.identity).mpr ⟨stored, hstored, rfl⟩
    exact ⟨found, hfound, by rw [hfoundIdentity, hid, hfill]⟩
  · obtain ⟨known, hknown, hknownIdentity⟩ := (h.evidence found.identity).mp ⟨found, hfound, rfl⟩
    rw [← hknownIdentity, hidentity]
    refine hsame known hknown ?_
    rw [hknownIdentity, hfoundId, hfill]

/-- Fills of one identity are recorded alike. -/
lemma Alike.recordFill {u : PUnit}
    (hidentity : fill'.identity executionId = fill.identity executionId)
    (hrun : recordFill fill executionId ledger = .ok (u, ledger')) :
    ∃ other', Ledger.recordFill fill' executionId other = .ok (u, other') ∧
      Alike ledger' other' := by
  obtain ⟨hstatus, hsequence, htakes⟩ := recordFill_eq_ok.mp hrun
  have hfill := brokerFillId_of_identity hidentity
  have hstatus' : fill'.status = .confirmed :=
    (congrArg FillIdentity.status hidentity).trans hstatus
  have hsequence' : fill'.eventSequence = fill.eventSequence :=
    congrArg FillIdentity.executionSequence hidentity
  have hfind : (other.fills.find? (·.brokerFillId = fill'.brokerFillId)).map timelessFill =
      (ledger.fills.find? (·.brokerFillId = fill.brokerFillId)).map timelessFill := by
    have hread : ∀ rows : List FillRow, ∀ id : String,
        (rows.find? (·.brokerFillId = id)).map timelessFill =
          (rows.map timelessFill).find? (·.brokerFillId = id) := by
      intro rows id
      rw [List.find?_map]
      rfl
    rw [hread, hread, h.fills, hfill]
  have hevidence : ∀ identity,
      (∃ stored ∈ (recordFillEvidence fill' executionId other).fillEvidence,
        stored.identity = identity) ↔
      ∃ stored ∈ (recordFillEvidence fill executionId ledger).fillEvidence,
        stored.identity = identity := by
    intro identity
    rw [evidence_recordFillEvidence, evidence_recordFillEvidence, h.evidence, hidentity]
  have hquiet : ∀ (l : Ledger) (f : BrokerFillFact),
      (recordFillEvidence f executionId l).executionIntents = l.executionIntents ∧
        (recordFillEvidence f executionId l).brokerOrders = l.brokerOrders ∧
        (recordFillEvidence f executionId l).domainEvents = l.domainEvents ∧
        (recordFillEvidence f executionId l).fills = l.fills := by
    intro l f
    unfold recordFillEvidence
    split_ifs
    · exact ⟨rfl, rfl, rfl, rfl⟩
    · exact ⟨rfl, rfl, rfl, rfl⟩
  obtain ⟨hintents, horders, hevents, hfills⟩ := hquiet ledger fill
  obtain ⟨hintents', horders', hevents', hfills'⟩ := hquiet other fill'
  cases htakes with
  | again row hrow hagain =>
    rw [hrow] at hfind
    obtain ⟨row', hrow', hsame⟩ := Option.map_eq_some_iff.mp hfind
    refine ⟨_, recordFill_eq_ok.mpr ⟨hstatus', hsequence' ▸ hsequence, .again row' hrow'
      (h.fillAgain hsame hidentity hagain)⟩, ?_, ?_, ?_, ?_, hevidence⟩
    · rw [hintents, hintents', h.versions]
    · rw [horders, horders', h.brokerOrders]
    · rw [hevents, hevents', h.eventIds]
    · rw [hfills, hfills', h.fills]
  | new hnew hlater =>
    have hnone : ledger.fills.find? (·.brokerFillId = fill.brokerFillId) = none :=
      List.find?_eq_none.mpr fun row hrow => by simpa using hnew row hrow
    rw [hnone] at hfind
    have hnew' : other.Unrecorded fill' := fun row hrow => by
      simpa using List.find?_eq_none.mp (Option.map_eq_none_iff.mp hfind) row hrow
    refine ⟨_, recordFill_eq_ok.mpr ⟨hstatus', hsequence' ▸ hsequence, .new hnew' ?_⟩, ?_, ?_, ?_,
      ?_, hevidence⟩
    · intro stored hstored
      obtain ⟨hmem, hsession⟩ := List.mem_filter.mp hstored
      obtain ⟨known, hknown, hknownIdentity⟩ := (h.evidence stored.identity).mp ⟨stored, hmem, rfl⟩
      rw [hsequence', ← hknownIdentity]
      refine hlater known (List.mem_filter.mpr ⟨hknown, ?_⟩)
      rw [hknownIdentity]
      rw [show fill.sessionDate = fill'.sessionDate from
        (congrArg FillIdentity.sessionDate hidentity).symm,
        show fill.brokerOrderId = fill'.brokerOrderId from
        (congrArg FillIdentity.brokerOrderId hidentity).symm]
      exact hsession
    · change (recordFillEvidence fill' executionId other).executionIntents.map _ =
        (recordFillEvidence fill executionId ledger).executionIntents.map _
      rw [hintents, hintents', h.versions]
    · change (recordFillEvidence fill' executionId other).brokerOrders =
        (recordFillEvidence fill executionId ledger).brokerOrders
      rw [horders, horders', h.brokerOrders]
    · change (recordFillEvidence fill' executionId other).domainEvents.map _ =
        (recordFillEvidence fill executionId ledger).domainEvents.map _
      rw [hevents, hevents', h.eventIds]
    · have hrow : timelessFill (fillRow fill' executionId) =
          timelessFill (fillRow fill executionId) := by
        simp only [BrokerFillFact.identity, FillIdentity.mk.injEq] at hidentity
        obtain ⟨hid, horder, -, hsymbol, hside, -, hshares, hprice, hcommission, hduty, hfee, hdate,
          -⟩ := hidentity
        simp only [timelessFill, fillRow, hid, horder, hsymbol, hside, hshares, hprice,
          hcommission, hduty, hfee, hdate]
      change (other.fills ++ [_]).map _ = (ledger.fills ++ [_]).map _
      rw [List.map_append, List.map_append, h.fills, List.map_singleton, List.map_singleton, hrow]

/-- Fills of the same identities are applied alike. -/
lemma Alike.applyFills
    (hidentities : fills'.map (·.identity executionId) = fills.map (·.identity executionId))
    (howner : aggregate.intent.executionId = executionId)
    (hrun : applyFills aggregate fills ledger = .ok (next, ledger')) :
    ∃ other', Ledger.applyFills aggregate fills' other = .ok (next, other') ∧
      Alike ledger' other' := by
  induction fills generalizing ledger other aggregate fills' with
  | nil =>
    obtain rfl := List.map_eq_nil_iff.mp hidentities
    cases hrun
    exact ⟨other, rfl, h⟩
  | cons fill rest ih =>
    obtain ⟨fill', rest', rfl, hfirst, hrest⟩ := List.map_eq_cons_iff.mp hidentities
    obtain ⟨u, ledger₁, hrecord, hrun⟩ := Txn.bind_eq_ok.mp hrun
    obtain ⟨moved, ledger₂, htransition, hrun⟩ := Txn.bind_eq_ok.mp hrun
    rw [howner] at hrecord
    obtain ⟨other₁, hrecord', halike₁⟩ := h.recordFill hfirst hrecord
    obtain ⟨other₂, htransition', halike₂⟩ := halike₁.transition htransition fill'.eventTime
    rw [← fillEvent_of_identity hfirst] at htransition'
    have hmoved : moved.intent.executionId = executionId := by
      rw [transition_intent htransition, howner]
    obtain ⟨other', hrun', halike'⟩ := ih halike₂ hrest hmoved hrun
    refine ⟨other', ?_, halike'⟩
    rw [← howner] at hrecord'
    exact Txn.bind_eq_ok.mpr ⟨_, _, hrecord', Txn.bind_eq_ok.mpr ⟨_, _, htransition', hrun'⟩⟩

lemma Alike.acknowledge (hrun : acknowledge aggregate fact time ledger = .ok (next, ledger'))
    (time' : DateTime) :
    ∃ other', Ledger.acknowledge aggregate fact time' other = .ok (next, other') ∧
      Alike ledger' other' := by
  unfold Ledger.acknowledge at hrun ⊢
  split_ifs at hrun ⊢ with hneeded
  · exact h.transition hrun time'
  · cases hrun
    exact ⟨other, rfl, h⟩

lemma Alike.applyQueriedStatus
    (hrun : applyQueriedStatus aggregate fact time ledger = .ok (next, ledger'))
    (time' : DateTime) :
    ∃ other', Ledger.applyQueriedStatus aggregate fact time' other = .ok (next, other') ∧
      Alike ledger' other' := by
  rw [applyQueriedStatus_eq] at hrun ⊢
  split_ifs at hrun ⊢ with hsame
  · cases hrun
    exact ⟨other, rfl, h⟩
  · cases hevent : statusEvent fact with
    | none =>
      rw [hevent] at hrun
      cases hrun
      exact ⟨other, rfl, h⟩
    | some event =>
      rw [hevent] at hrun
      exact h.transition hrun time'

/-- A reconciliation makes the same of alike ledgers, for any supplied fills with the same members
and at any time. -/
theorem Alike.reconcileBrokerFact (hsame : ∀ f, f ∈ fills' ↔ f ∈ fills)
    (hrun : reconcileBrokerFact aggregate fact fills time ledger = .ok (final, ledger'))
    (time' : DateTime) :
    ∃ other', Ledger.reconcileBrokerFact aggregate fact fills' time' other = .ok (final, other') ∧
      Alike ledger' other' := by
  obtain ⟨ordered, recorded, filled, stored, hsteps⟩ := reconcileBrokerFact_eq_ok.mp hrun
  obtain ⟨ordered', hordered', hidentities⟩ := orderedFills_same hsteps.sorted hsame
  obtain ⟨recorded', hrecord', halike₁⟩ := h.recordBrokerOrder hsteps.record
  obtain ⟨acknowledged, ledger₁, hack, hfills⟩ := Txn.bind_eq_ok.mp hsteps.economics
  obtain ⟨other₁, hack', halike₂⟩ := halike₁.acknowledge hack time'
  have howner : acknowledged.intent.executionId = aggregate.intent.executionId :=
    congrArg ExecutionIntent.executionId (acknowledge_acknowledged hack).intent
  obtain ⟨stored', hfills', halike₃⟩ := halike₂.applyFills hidentities howner hfills
  obtain ⟨other', hstatus', halike'⟩ := halike₃.applyQueriedStatus hsteps.status time'
  refine ⟨other', reconcileBrokerFact_eq_ok.mpr ⟨ordered', recorded', filled, stored',
    hsteps.identity, hordered', ?_, hrecord', Txn.bind_eq_ok.mpr ⟨_, _, hack', hfills'⟩, hstatus',
    hsteps.cumulative⟩, halike'⟩
  exact (provenCumulativeShares_of_identities hidentities).trans hsteps.proven

end Alike

end Ledger

end FirmQuant
