import Mathlib.Logic.Encodable.Basic
import FirmQuant.Domain.Text
import FirmQuant.Foundation.Checked
import FirmQuant.Foundation.Json
import FirmQuant.Risk.Capability

/-!
# The authenticity of arm leases

`ArmBinding`, `ArmLease` and `ArmService` of `risk/arm.py`, with the texts that are authenticated.

The code of a lease authenticates the canonical JSON of the ten other fields, so a lease that
carries the code of an issued lease is that lease.  The binding is compared through its digest.
-/

namespace FirmQuant

open Effect

/-- The texts of the modes. -/
def Mode.value : Mode → String
  | .replay => "REPLAY"
  | .paper => "PAPER"
  | .shadow => "SHADOW"
  | .canary => "CANARY"
  | .live => "LIVE"

lemma Mode.value_injective : Function.Injective Mode.value := by
  intro mode mode' h
  cases mode <;> cases mode' <;> first | rfl | exact absurd h (by decide)

namespace Arm

/-! ## Bindings and leases -/

inductive ArmError
  /-- `ArmLeaseDenied`. -/
  | denied (message : String)
  /-- `DomainValidationError`. -/
  | validation (message : String)
  /-- `TypeError`. -/
  | typeError (message : String)
  deriving DecidableEq, Repr

/-- What is used of the standard library. -/
structure Library where
  /-- `hashlib.sha256` of a text, in hexadecimal. -/
  sha256 : String → String
  /-- `astimezone(UTC).isoformat()`. -/
  utcIsoformat : DateTime → String
  casefold : List Char → String

/-- `_require_digest`. -/
def requireDigest (valid : String → Bool) (label value : String) : Option ArmError :=
  if valid value then none else some (.validation (label ++ " is not a canonical digest"))

/-- The check of `ArmBinding` that a binding fails. -/
def bindingViolation (binding : ArmBinding) : Option ArmError :=
  firstViolation [
    if binding.mode = .canary ∨ binding.mode = .live then none
      else some (.denied "arm binding mode must be CANARY or LIVE"),
    requireDigest isSha256 "arm host hash" binding.hostHash,
    requireDigest isSha256 "arm account hash" binding.accountHash,
    requireDigest isGitSha "firmquant commit" binding.firmquantCommit,
    requireDigest isGitSha "uquant commit" binding.uquantCommit,
    requireDigest isSha256 "configuration digest" binding.configSha256]

/-- `as_payload`. -/
def asPayload (binding : ArmBinding) : List (String × String) :=
  [("account_hash", binding.accountHash), ("config_sha256", binding.configSha256),
    ("firmquant_commit", binding.firmquantCommit), ("host_hash", binding.hostHash),
    ("mode", binding.mode.value), ("uquant_commit", binding.uquantCommit)]

/-- `_canonical_json` of a dictionary of texts. -/
def canonicalJson (payload : List (String × String)) : String :=
  (Json.obj (payload.map fun member => (member.1, .str member.2))).dumps

/-- The fields of `ArmLease`. -/
structure LeaseFields where
  leaseId : String
  mode : Mode
  hostHash : String
  accountHash : String
  firmquantCommit : String
  uquantCommit : String
  configSha256 : String
  identityPayloadSha256 : String
  issuedAt : DateTime
  expiresAt : DateTime
  leaseMac : String
  deriving DecidableEq

/-- `binding`. -/
def LeaseFields.binding (lease : LeaseFields) : ArmBinding :=
  ⟨lease.mode, lease.hostHash, lease.accountHash, lease.firmquantCommit, lease.uquantCommit,
    lease.configSha256⟩

/-- `_LEASE_ID`. -/
def isLeaseId (text : String) : Bool :=
  match text.toList with
  | 'a' :: 'r' :: 'm' :: '_' :: digits => digits.length = 32 && digits.all isHexDigit
  | _ => false

section

variable (library : Library)

/-- `identity_payload_sha256` of a binding. -/
def identityPayloadSha256 (binding : ArmBinding) : String :=
  library.sha256 (canonicalJson (asPayload binding))

/-- The check of `ArmLease` that the fields fail. -/
def leaseViolation (lease : LeaseFields) : Option ArmError :=
  firstViolation [
    if isLeaseId lease.leaseId then none else some (.validation "arm lease id is not canonical"),
    bindingViolation lease.binding,
    if lease.identityPayloadSha256 = identityPayloadSha256 library lease.binding then none
      else some (.validation "arm lease identity payload digest is inconsistent"),
    if lease.issuedAt < lease.expiresAt then none
      else some (.validation "arm lease expiry must follow issuance"),
    requireDigest isSha256 "arm lease authentication code" lease.leaseMac]

/-- `ArmBinding`. -/
abbrev Binding := Checked bindingViolation

/-- `ArmLease`. -/
abbrev Lease := Checked (leaseViolation library)

/-- `authenticated_payload`. -/
def authenticatedPayload (lease : LeaseFields) : List (String × String) :=
  asPayload lease.binding ++ [("expires_at", library.utcIsoformat lease.expiresAt),
    ("identity_payload_sha256", lease.identityPayloadSha256),
    ("issued_at", library.utcIsoformat lease.issuedAt), ("lease_id", lease.leaseId)]

/-! ## The service -/

/-- `ArmService`, by the HMAC of its key. -/
structure Service where
  hmac : String → String

/-- `_mac`. -/
def Service.mac (service : Service) (lease : LeaseFields) : String :=
  service.hmac (canonicalJson (authenticatedPayload library lease))

/-- `_ci_detected`. -/
def ciDetected (environment : String → Option String) : Bool :=
  ["CI", "GITHUB_ACTIONS", "GITLAB_CI", "TF_BUILD", "JENKINS_URL", "BUILDKITE", "CIRCLECI"].any
    fun key => match environment key with
      | some value => library.casefold (strip value.toList) ∉ ["", "0", "false", "no"]
      | none => false

/-- `MAX_ARM_TTL`, of 15 minutes. -/
def maxArmTtl : Duration := 900000000

/-- `confirmation_phrase`. -/
def confirmationPhrase (mode : Mode) : String := "ARM FIRMQUANT REAL TRADING: " ++ mode.value

/-- `issue`, given what the operator confirms and the id that the factory makes. -/
def Service.issue (service : Service) (binding : Binding) (now : DateTime) (confirmation : String)
    (interactiveTerminal : Bool) (environment : String → Option String) (ttl : Duration)
    (leaseId : String) : Except ArmError (Lease library) := do
  refuse (interactiveTerminal = false) (.denied "arm lease requires an interactive terminal")
  refuse (ciDetected library environment = true) (.denied "arm lease issuance is forbidden in CI")
  refuse (¬ (0 < ttl ∧ ttl ≤ maxArmTtl))
    (.denied "arm lease TTL must be positive and no more than 15 minutes")
  refuse (¬ ∀ c ∈ confirmation.toList, c.toNat < 128)
    (.typeError "comparing strings with non-ASCII characters is not supported")
  refuse (confirmation ≠ confirmationPhrase binding.val.mode)
    (.denied "arm confirmation phrase did not match")
  let unsigned ← Checked.create (leaseViolation library) {
    leaseId := leaseId
    mode := binding.val.mode
    hostHash := binding.val.hostHash
    accountHash := binding.val.accountHash
    firmquantCommit := binding.val.firmquantCommit
    uquantCommit := binding.val.uquantCommit
    configSha256 := binding.val.configSha256
    identityPayloadSha256 := identityPayloadSha256 library binding.val
    issuedAt := now
    expiresAt := now + ttl
    leaseMac := String.ofList (List.replicate 64 '0') }
  Checked.create (leaseViolation library)
    { unsigned.val with leaseMac := service.mac library unsigned.val }

/-- `verify`. -/
def Service.verify (service : Service) (lease : Lease library) (binding : Binding)
    (now : DateTime) : Except ArmError PUnit := do
  refuse (lease.val.leaseMac ≠ service.mac library lease.val)
    (.denied "arm lease authentication failed")
  refuse (lease.val.expiresAt ≤ now) (.denied "arm lease expired")
  refuse (now < lease.val.issuedAt) (.denied "arm lease is not yet valid")
  refuse (lease.val.identityPayloadSha256 ≠ identityPayloadSha256 library binding.val)
    (.denied "arm lease binding does not match current identity")

/-- The service has issued the lease. -/
def Service.Issued (service : Service) (lease : Lease library) : Prop :=
  ∃ binding now confirmation interactiveTerminal environment ttl leaseId,
    service.issue library binding now confirmation interactiveTerminal environment ttl leaseId =
      .ok lease

end

/-! ## What is authenticated -/

section Texts

variable {library : Library}

/-- The text of a dictionary of texts determines the texts. -/
lemma canonicalJson_injective {payload payload' : List (String × String)}
    (hkeys : payload.map Prod.fst = payload'.map Prod.fst)
    (hnodup : (payload.map Prod.fst).Nodup)
    (h : canonicalJson payload = canonicalJson payload') : payload = payload' := by
  have hexact : ∀ texts : List (String × String), (texts.map Prod.fst).Nodup →
      (Json.obj (texts.map fun member => (member.1, Json.str member.2))).Exact := by
    intro texts htexts
    refine ⟨by rwa [List.map_map], Json.exactMembers_iff.mpr fun m hm => ?_⟩
    obtain ⟨member, -, rfl⟩ := List.mem_map.mp hm
    exact trivial
  have hnodup' := hkeys ▸ hnodup
  have hsorted := Json.dumps_injective (hexact payload hnodup) (hexact payload' hnodup') h
  have hvalue : ∀ {texts : List (String × String)} {i : ℕ} (hi : i < texts.length),
      (texts.map Prod.fst).Nodup → Json.get? texts[i].1
        (Json.obj (texts.map fun member => (member.1, Json.str member.2))).sorted =
          some (.str texts[i].2) := by
    intro texts i hi htexts
    rw [Json.get?_sorted (hexact texts htexts), Json.get?,
      Json.find?_eq_some_of_mem (hexact texts htexts).1
        (List.mem_map.mpr ⟨texts[i], List.getElem_mem hi, rfl⟩)]
    rfl
  have hlength : payload.length = payload'.length := by
    simpa using congrArg List.length hkeys
  refine List.ext_getElem hlength fun i hi hi' => ?_
  have hkey : payload[i].1 = payload'[i].1 := by
    have hsame := List.getElem_of_eq hkeys (i := i) (by rwa [List.length_map])
    rwa [List.getElem_map, List.getElem_map] at hsame
  have hread := hvalue hi hnodup
  rw [hsorted, hkey, hvalue hi' hnodup'] at hread
  injection hread with hread
  injection hread with hread
  exact Prod.ext hkey hread.symm

/-- The digest of a binding is of nothing else. -/
lemma identityPayloadSha256_injective (hsha : Function.Injective library.sha256)
    {binding binding' : ArmBinding}
    (h : identityPayloadSha256 library binding = identityPayloadSha256 library binding') :
    binding = binding' := by
  have hpayload : asPayload binding = asPayload binding' :=
    canonicalJson_injective rfl (by simp [asPayload]) (hsha h)
  obtain ⟨mode, host, account, firmquant, uquant, config⟩ := binding
  obtain ⟨mode', host', account', firmquant', uquant', config'⟩ := binding'
  simp only [asPayload, List.cons.injEq, Prod.mk.injEq, true_and, and_true] at hpayload
  obtain ⟨rfl, rfl, rfl, rfl, hmode, rfl⟩ := hpayload
  rw [Mode.value_injective hmode]

/-- Leases with one authenticated text differ at most in their codes. -/
lemma eq_of_authenticated (hutc : Function.Injective library.utcIsoformat)
    {lease lease' : LeaseFields}
    (h : canonicalJson (authenticatedPayload library lease) =
      canonicalJson (authenticatedPayload library lease')) :
    { lease with leaseMac := lease'.leaseMac } = lease' := by
  have hpayload : authenticatedPayload library lease = authenticatedPayload library lease' :=
    canonicalJson_injective rfl (by simp [authenticatedPayload, asPayload]) h
  obtain ⟨id, mode, host, account, firmquant, uquant, config, identity, issued, expires, mac⟩ :=
    lease
  obtain ⟨id', mode', host', account', firmquant', uquant', config', identity', issued', expires',
    mac'⟩ := lease'
  simp only [authenticatedPayload, asPayload, LeaseFields.binding, List.cons_append,
    List.nil_append, List.cons.injEq, Prod.mk.injEq, true_and, and_true] at hpayload
  obtain ⟨rfl, rfl, rfl, rfl, hmode, rfl, hexpires, rfl, hissued, rfl⟩ := hpayload
  rw [Mode.value_injective hmode, hutc hexpires, hutc hissued]

end Texts

/-! ## Verified leases -/

section Verified

variable {library : Library} {service : Service} {lease : Lease library} {binding : Binding}
  {now : DateTime}

lemma verify_eq_ok (hsha : Function.Injective library.sha256) :
    service.verify library lease binding now = .ok ⟨⟩ ↔
      lease.val.leaseMac = service.mac library lease.val ∧ lease.val.binding = binding.val ∧
        lease.val.issuedAt ≤ now ∧ now < lease.val.expiresAt := by
  have hchecks := firstViolation_eq_none.mp lease.property
  simp only [List.forall_mem_cons] at hchecks
  obtain ⟨-, -, hdigest, -⟩ := hchecks
  have hidentity : lease.val.identityPayloadSha256 =
      identityPayloadSha256 library lease.val.binding := by
    by_contra hne
    rw [if_neg hne] at hdigest
    cases hdigest
  have hsame : lease.val.identityPayloadSha256 = identityPayloadSha256 library binding.val ↔
      lease.val.binding = binding.val := by
    rw [hidentity]
    exact ⟨identityPayloadSha256_injective hsha, congrArg _⟩
  unfold Service.verify
  constructor
  · intro h
    obtain ⟨⟨⟩, hmac, h⟩ := bind_ok_iff.mp h
    obtain ⟨⟨⟩, hexpiry, h⟩ := bind_ok_iff.mp h
    obtain ⟨⟨⟩, hissue, h⟩ := bind_ok_iff.mp h
    exact ⟨not_not.mp (refuse_eq_ok.mp hmac), hsame.mp (not_not.mp (refuse_eq_ok.mp h)),
      not_lt.mp (refuse_eq_ok.mp hissue), not_le.mp (refuse_eq_ok.mp hexpiry)⟩
  · rintro ⟨hmac, hbinding, hissue, hexpiry⟩
    exact bind_ok_iff.mpr ⟨⟨⟩, refuse_eq_ok.mpr (not_not.mpr hmac),
      bind_ok_iff.mpr ⟨⟨⟩, refuse_eq_ok.mpr (not_le.mpr hexpiry),
        bind_ok_iff.mpr ⟨⟨⟩, refuse_eq_ok.mpr (not_lt.mpr hissue),
          refuse_eq_ok.mpr (not_not.mpr (hsame.mpr hbinding))⟩⟩⟩

lemma Service.Issued.leaseMac (h : service.Issued library lease) :
    lease.val.leaseMac = service.mac library lease.val := by
  obtain ⟨binding, now, confirmation, terminal, environment, ttl, leaseId, h⟩ := h
  iterate 5 obtain ⟨_, -, h⟩ := bind_ok_iff.mp h
  obtain ⟨unsigned, -, h⟩ := bind_ok_iff.mp h
  rw [Checked.create_eq_ok.mp h]
  rfl

lemma exists_error (h : service.verify library lease binding now ≠ .ok ⟨⟩) :
    ∃ e, service.verify library lease binding now = .error e := by
  cases hverify : service.verify library lease binding now with
  | ok => exact absurd hverify h
  | error e => exact ⟨e, rfl⟩

/-- A lease is verified exactly if it is one of the issued ones, of this binding and in its time.
An issued lease of which a field is changed, or that is used with another binding, is refused. -/
theorem verify_iff_issued (hsha : Function.Injective library.sha256)
    (hutc : Function.Injective library.utcIsoformat) (hmac : Function.Injective service.hmac)
    {issued : Set (Lease library)} (hissued : ∀ l ∈ issued, service.Issued library l)
    (hforge : lease.val.leaseMac = service.mac library lease.val →
      ∃ l ∈ issued, l.val.leaseMac = lease.val.leaseMac) :
    (service.verify library lease binding now = .ok ⟨⟩ ↔ lease ∈ issued ∧
      lease.val.binding = binding.val ∧ lease.val.issuedAt ≤ now ∧ now < lease.val.expiresAt) ∧
    (∀ l ∈ issued, lease ≠ l → lease.val.leaseMac = l.val.leaseMac ∨
      { lease.val with leaseMac := l.val.leaseMac } = l.val →
        ∃ e, service.verify library lease binding now = .error e) ∧
    ∀ l ∈ issued, l.val.binding ≠ binding.val →
      ∃ e, service.verify library l binding now = .error e := by
  have hsame : ∀ l ∈ issued, l.val.leaseMac = lease.val.leaseMac →
      lease.val.leaseMac = service.mac library lease.val → lease = l := by
    intro l hl hcode hvalid
    have htext := hmac (hvalid.symm.trans (hcode.symm.trans (hissued l hl).leaseMac))
    have hfields := eq_of_authenticated hutc htext
    rw [hcode] at hfields
    exact Subtype.ext hfields
  refine ⟨?_, ?_, ?_⟩
  · rw [verify_eq_ok hsha]
    refine and_congr_left fun _ => ⟨fun hvalid => ?_, fun hl => (hissued lease hl).leaseMac⟩
    obtain ⟨l, hl, hcode⟩ := hforge hvalid
    exact hsame l hl hcode hvalid ▸ hl
  · intro l hl hne hchanged
    refine exists_error fun h => hne ?_
    have hvalid := ((verify_eq_ok hsha).mp h).1
    rcases hchanged with hcode | hfields
    · exact hsame l hl hcode.symm hvalid
    · -- Only the code was changed, so it is no longer that of the fields.
      refine hsame l hl ?_ hvalid
      rw [(hissued l hl).leaseMac, ← hfields, hvalid]
      rfl
  · intro l hl hne
    exact exists_error fun h => hne ((verify_eq_ok hsha).mp h).2.1

end Verified

namespace Sample

def library : Library where
  sha256 := id
  utcIsoformat time := String.ofList (List.replicate (Encodable.encode time) 'a')
  casefold := String.ofList

def zeros (n : ℕ) : String := String.ofList (List.replicate n '0')

def binding : Binding :=
  ⟨⟨.live, zeros 64, zeros 64, zeros 40, zeros 40, zeros 64⟩, by decide +kernel⟩

def fields : LeaseFields :=
  ⟨"arm_" ++ zeros 32, .live, zeros 64, zeros 64, zeros 40, zeros 40, zeros 64,
    identityPayloadSha256 library binding.val, 0, 1, zeros 64⟩

lemma fields_valid : leaseViolation library fields = none := by
  refine firstViolation_eq_none.mpr ?_
  simp only [List.forall_mem_cons]
  exact ⟨by decide +kernel, binding.property, if_pos rfl, if_pos (by decide), by decide +kernel,
    by simp⟩

/-- A lease of one microsecond. -/
def lease : Lease library := ⟨fields, fields_valid⟩

/-- The code of the lease has 64 digits, and other texts have other codes. -/
def service : Service :=
  ⟨Equiv.swap (canonicalJson (authenticatedPayload library fields)) (zeros 64)⟩

lemma mac_fields : service.mac library fields = zeros 64 := Equiv.swap_apply_left _ _

lemma issued_lease : service.Issued library lease := by
  refine ⟨binding, 0, confirmationPhrase .live, true, fun _ => none, 1, "arm_" ++ zeros 32, ?_⟩
  have hphrase : ∀ c ∈ (confirmationPhrase .live).toList, c.toNat < 128 := by decide +kernel
  refine bind_ok_iff.mpr ⟨⟨⟩, rfl, bind_ok_iff.mpr ⟨⟨⟩, rfl,
    bind_ok_iff.mpr ⟨⟨⟩, rfl, bind_ok_iff.mpr ⟨⟨⟩, refuse_eq_ok.mpr (not_not.mpr
      hphrase), bind_ok_iff.mpr ⟨⟨⟩, refuse_eq_ok.mpr (not_not.mpr rfl), ?_⟩⟩⟩⟩⟩
  refine bind_ok_iff.mpr ⟨lease, Checked.create_eq_ok.mpr rfl, Checked.create_eq_ok.mpr ?_⟩
  change fields = { fields with leaseMac := service.mac library fields }
  rw [mac_fields]
  rfl

end Sample

open Sample in
/-- The lease is verified when it is issued, and refused a microsecond later. -/
theorem verify_issued_lease : service.verify library lease binding 0 = .ok ⟨⟩ ∧
    ∃ e, service.verify library lease binding 1 = .error e := by
  have hsha : Function.Injective library.sha256 := fun _ _ h => h
  have hutc : Function.Injective library.utcIsoformat := by
    intro time time' h
    have hlength := congrArg (fun text => text.toList.length) h
    simp only [library, String.toList_ofList, List.length_replicate] at hlength
    exact Encodable.encode_injective hlength
  have hverify := fun now => (@verify_iff_issued library service lease binding now hsha hutc
    (Equiv.injective _) {lease} (fun l hl => hl ▸ issued_lease) fun _ => ⟨lease, rfl, rfl⟩).1
  exact ⟨(hverify 0).mpr ⟨rfl, rfl, le_refl 0, by decide⟩,
    exists_error fun h => absurd ((hverify 1).mp h).2.2.2 (lt_irrefl 1)⟩

end Arm

end FirmQuant
