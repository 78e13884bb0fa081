import P2pUsb.Library.AsciiCase
import P2pUsb.Policy.Engine

/-! Which policy decides, and what it answers. Exact filters are compared without
regard to case, `VID:*` filters literally: a capital letter in one of these hides
the rule, and the search goes on to a broader one. -/
namespace P2pUsb

@[simp] theorem map_toLower_hex4 (value : UInt16) : (hex4 value).map Char.toLower = hex4 value := by
  rw [hex4, List.leftpad, List.map_append, List.map_replicate, Nat.map_toLower_toDigits]
  rfl

theorem eq_ignore_case_iff {a b : List Char} :
    eqIgnoreAsciiCase a b = true ↔ a.map Char.toLower = b.map Char.toLower := beq_iff_eq

def DevicePolicy.lowercased (policy : DevicePolicy) : DevicePolicy :=
  { policy with deviceFilter := policy.deviceFilter.toLower }

def DevicePolicy.restrictsClass (policy : DevicePolicy) (info : DeviceInfo) : Bool :=
  policy.restrictedDeviceClasses.any fun classes => classes.contains info.deviceClass

namespace PolicyEngine
variable {engine : PolicyEngine} {wall : Nat} {client : EndpointId} {info : DeviceInfo}
  {p q : DevicePolicy}

def lowercased (engine : PolicyEngine) : PolicyEngine :=
  { engine with policies := engine.policies.map DevicePolicy.lowercased }

def exactPolicy (engine : PolicyEngine) (info : DeviceInfo) : Option DevicePolicy :=
  engine.policies.find? fun p =>
    filterMatchesExact p.deviceFilter.toList (hex4 info.vendorId ++ ':' :: hex4 info.productId)

def vendorPolicy (engine : PolicyEngine) (info : DeviceInfo) : Option DevicePolicy :=
  engine.policies.find? fun p => p.deviceFilter.toList == hex4 info.vendorId ++ [':', '*']

/-- The policy that the `VID:*` stage would find if it compared like the exact one. -/
def vendorPolicyAnyCase (engine : PolicyEngine) (info : DeviceInfo) : Option DevicePolicy :=
  engine.policies.find? fun p =>
    eqIgnoreAsciiCase p.deviceFilter.toList (hex4 info.vendorId ++ [':', '*'])

def selectPolicy (engine : PolicyEngine) (info : DeviceInfo) : Option DevicePolicy :=
  (engine.findMatchingPolicy info).or engine.findDefaultPolicy

/-- The policy has time windows and the clock is in none of them. -/
def closedNow (engine : PolicyEngine) (wall : Nat) (policy : DevicePolicy) : Bool :=
  policy.timeWindows.any fun windows =>
    !windows.isEmpty && !(engine.isWithinTimeWindow wall windows).1

theorem find_matching_policy_eq :
    engine.findMatchingPolicy info = (engine.exactPolicy info).or (engine.vendorPolicy info) := rfl

theorem select_policy_eq : engine.selectPolicy info =
    (engine.exactPolicy info).or ((engine.vendorPolicy info).or engine.findDefaultPolicy) := by
  rw [selectPolicy, find_matching_policy_eq, Option.or_assoc]

theorem check_access_selected (selected : engine.selectPolicy info = some p) :
    engine.checkAccess wall client info = engine.evaluatePolicy wall p client info := by
  rw [selectPolicy] at selected
  rw [checkAccess, selected]

theorem check_access_unselected (unselected : engine.selectPolicy info = none) :
    engine.checkAccess wall client info =
      if engine.policies.isEmpty then .allow else .deny .noMatchingPolicy := by
  rw [selectPolicy] at unselected
  rw [checkAccess, unselected]

/-- The three checks in order. -/
theorem evaluate_policy_eq : engine.evaluatePolicy wall p client info =
    if isClientAllowed p client = false then .deny .clientNotAllowed
    else if p.restrictsClass info = true then .deny (.deviceClassRestricted info.deviceClass)
    else if engine.closedNow wall p = true then
      .deny (.outsideTimeWindow (engine.isWithinTimeWindow wall []).2 (p.timeWindows.getD []))
    else .allow := by
  unfold evaluatePolicy closedNow DevicePolicy.restrictsClass
  simp only [Bool.not_eq_true']
  cases p.timeWindows with
  | none => rfl
  | some windows =>
      simp only [Option.any_some, Option.getD_some]
      cases windows with
      | nil => rfl
      | cons w rest =>
          simp only [List.isEmpty_cons, Bool.not_false, Bool.true_and, Bool.not_eq_true',
            Bool.false_eq_true, if_false]
          cases (engine.isWithinTimeWindow wall (w :: rest)).1 <;> rfl

/-- Two policies answer alike: the first check that fails is the same. -/
structure SameAnswer (engine : PolicyEngine) (wall : Nat) (client : EndpointId) (info : DeviceInfo)
    (p q : DevicePolicy) : Prop where
  admits : isClientAllowed p client = isClientAllowed q client
  deviceClass : isClientAllowed p client = true → p.restrictsClass info = q.restrictsClass info
  closed : isClientAllowed p client = true → p.restrictsClass info = false →
    engine.closedNow wall p = engine.closedNow wall q
  windows : isClientAllowed p client = true → p.restrictsClass info = false →
    engine.closedNow wall p = true → p.timeWindows = q.timeWindows

theorem closed_now_windows (closed : engine.closedNow wall p = true) :
    ∃ windows, p.timeWindows = some windows :=
  ((Option.any_eq_true _ _).mp closed).imp fun _ found => found.1

theorem evaluate_denies_client_iff :
    engine.evaluatePolicy wall p client info = .deny .clientNotAllowed ↔
      isClientAllowed p client = false := by
  rw [evaluate_policy_eq]
  split_ifs with refused restricted closed <;> simp [refused]

theorem evaluate_denies_class_iff {deviceClass : UInt8} :
    engine.evaluatePolicy wall p client info = .deny (.deviceClassRestricted deviceClass) ↔
      isClientAllowed p client = true ∧ p.restrictsClass info = true ∧
        info.deviceClass = deviceClass := by
  rw [evaluate_policy_eq]
  split_ifs with refused restricted closed <;> simp_all

theorem evaluate_denies_time_iff {time : String} {windows : List String} :
    engine.evaluatePolicy wall p client info = .deny (.outsideTimeWindow time windows) ↔
      isClientAllowed p client = true ∧ p.restrictsClass info = false ∧
        engine.closedNow wall p = true ∧ (engine.isWithinTimeWindow wall []).2 = time ∧
        p.timeWindows.getD [] = windows := by
  rw [evaluate_policy_eq]
  split_ifs with refused restricted closed <;> simp_all

theorem evaluate_allows_iff : engine.evaluatePolicy wall p client info = .allow ↔
    isClientAllowed p client = true ∧ p.restrictsClass info = false ∧
      engine.closedNow wall p = false := by
  rw [evaluate_policy_eq]
  split_ifs with refused restricted closed <;> simp_all

theorem SameAnswer.of_eq
    (same : engine.evaluatePolicy wall p client info = engine.evaluatePolicy wall q client info) :
    engine.SameAnswer wall client info p q := by
  have admits : isClientAllowed p client = isClientAllowed q client := by
    rw [Bool.eq_iff_iff, ← not_iff_not, Bool.not_eq_true, Bool.not_eq_true]
    constructor
    · exact fun refused => evaluate_denies_client_iff.mp
        (same.symm.trans (evaluate_denies_client_iff.mpr refused))
    · exact fun refused => evaluate_denies_client_iff.mp
        (same.trans (evaluate_denies_client_iff.mpr refused))
  have deviceClass : isClientAllowed p client = true →
      p.restrictsClass info = q.restrictsClass info := by
    intro admitted
    rw [Bool.eq_iff_iff]
    constructor
    · intro restricted
      exact (evaluate_denies_class_iff.mp (same.symm.trans
        (evaluate_denies_class_iff.mpr ⟨admitted, restricted, rfl⟩))).2.1
    · intro restricted
      exact (evaluate_denies_class_iff.mp (same.trans
        (evaluate_denies_class_iff.mpr ⟨admits ▸ admitted, restricted, rfl⟩))).2.1
  have closed : isClientAllowed p client = true → p.restrictsClass info = false →
      engine.closedNow wall p = true → engine.closedNow wall q = true ∧
        q.timeWindows.getD [] = p.timeWindows.getD [] := by
    intro admitted free outside
    obtain ⟨-, -, also, -, windows⟩ := evaluate_denies_time_iff.mp (same.symm.trans
      (evaluate_denies_time_iff.mpr ⟨admitted, free, outside, rfl, rfl⟩))
    exact ⟨also, windows⟩
  refine ⟨admits, deviceClass, fun admitted free => ?_, fun admitted free outside => ?_⟩
  · rw [Bool.eq_iff_iff]
    refine ⟨fun outside => (closed admitted free outside).1, fun outside => ?_⟩
    exact (evaluate_denies_time_iff.mp (same.trans (evaluate_denies_time_iff.mpr
      ⟨admits ▸ admitted, deviceClass admitted ▸ free, outside, rfl, rfl⟩))).2.2.1
  · obtain ⟨also, windows⟩ := closed admitted free outside
    obtain ⟨ps, pw⟩ := closed_now_windows outside
    obtain ⟨qs, qw⟩ := closed_now_windows also
    rw [pw, qw] at windows ⊢
    exact congrArg some windows.symm

theorem evaluate_policy_eq_iff :
    engine.evaluatePolicy wall p client info = engine.evaluatePolicy wall q client info ↔
      engine.SameAnswer wall client info p q := by
  refine ⟨SameAnswer.of_eq, fun same => ?_⟩
  cases admitted : isClientAllowed p client with
  | false =>
      have refused : isClientAllowed q client = false := same.admits ▸ admitted
      rw [evaluate_denies_client_iff.mpr admitted, evaluate_denies_client_iff.mpr refused]
  | true =>
  have qAdmitted : isClientAllowed q client = true := same.admits ▸ admitted
  cases restricted : p.restrictsClass info with
  | true =>
      have qRestricted : q.restrictsClass info = true := same.deviceClass admitted ▸ restricted
      rw [evaluate_denies_class_iff.mpr ⟨admitted, restricted, rfl⟩,
        evaluate_denies_class_iff.mpr ⟨qAdmitted, qRestricted, rfl⟩]
  | false =>
  have qFree : q.restrictsClass info = false := same.deviceClass admitted ▸ restricted
  cases outside : engine.closedNow wall p with
  | true =>
      have qOutside : engine.closedNow wall q = true :=
        same.closed admitted restricted ▸ outside
      rw [evaluate_denies_time_iff.mpr ⟨admitted, restricted, outside, rfl, rfl⟩,
        evaluate_denies_time_iff.mpr ⟨qAdmitted, qFree, qOutside, rfl, rfl⟩,
        same.windows admitted restricted outside]
  | false =>
      have qOpen : engine.closedNow wall q = false := same.closed admitted restricted ▸ outside
      rw [evaluate_allows_iff.mpr ⟨admitted, restricted, outside⟩,
        evaluate_allows_iff.mpr ⟨qAdmitted, qFree, qOpen⟩]

/-- A policy never answers that there is none. -/
theorem evaluate_policy_matches :
    engine.evaluatePolicy wall p client info ≠ .deny .noMatchingPolicy := by
  rw [evaluate_policy_eq]
  split_ifs <;> simp

theorem lowercased_find {f g : DevicePolicy → Bool} (h : ∀ p : DevicePolicy, f p.lowercased = g p) :
    engine.lowercased.policies.find? f =
      (engine.policies.find? g).map DevicePolicy.lowercased := by
  have same : f ∘ DevicePolicy.lowercased = g := funext h
  rw [lowercased, List.find?_map, same]

theorem lowercased_filter (p : DevicePolicy) :
    p.lowercased.deviceFilter.toList = p.deviceFilter.toList.map Char.toLower :=
  String.toList_map

theorem lowercased_is_star (p : DevicePolicy) :
    (p.lowercased.deviceFilter.toList == ['*']) = (p.deviceFilter.toList == ['*']) := by
  rw [Bool.eq_iff_iff, beq_iff_eq, beq_iff_eq, lowercased_filter]
  exact List.map_toLower_eq_singleton (by decide) rfl

theorem lowercased_exact_policy :
    engine.lowercased.exactPolicy info =
      (engine.exactPolicy info).map DevicePolicy.lowercased := by
  refine lowercased_find fun p => ?_
  rw [filterMatchesExact, bne, lowercased_is_star, filterMatchesExact, bne]
  congr 1
  rw [Bool.eq_iff_iff, eq_ignore_case_iff, eq_ignore_case_iff, lowercased_filter,
    List.map_toLower_map_toLower]

/-- After lowering, the literal comparison is the one without case. -/
theorem lowercased_vendor_policy :
    engine.lowercased.vendorPolicy info =
      (engine.vendorPolicyAnyCase info).map DevicePolicy.lowercased := by
  refine lowercased_find fun p => ?_
  rw [Bool.eq_iff_iff, beq_iff_eq, eq_ignore_case_iff, lowercased_filter, List.map_append,
    map_toLower_hex4]
  rfl

theorem lowercased_default_policy :
    engine.lowercased.findDefaultPolicy =
      engine.findDefaultPolicy.map DevicePolicy.lowercased :=
  lowercased_find lowercased_is_star

theorem lowercased_select_policy :
    engine.lowercased.selectPolicy info =
      ((engine.exactPolicy info).or
        ((engine.vendorPolicyAnyCase info).or engine.findDefaultPolicy)).map
          DevicePolicy.lowercased := by
  simp only [select_policy_eq, lowercased_exact_policy, lowercased_vendor_policy,
    lowercased_default_policy, Option.map_or]

theorem lowercased_evaluate_policy :
    engine.lowercased.evaluatePolicy wall p.lowercased client info =
      engine.evaluatePolicy wall p client info := rfl

/-- If no exact filter matches, the first `VID:*` filter that matches in any case
answers like the policy that is selected without it. -/
def CaseHarmless (engine : PolicyEngine) (wall : Nat) (client : EndpointId)
    (info : DeviceInfo) : Prop :=
  engine.exactPolicy info = none → ∀ p, engine.vendorPolicyAnyCase info = some p →
    ∃ q, (engine.vendorPolicy info).or engine.findDefaultPolicy = some q ∧
      engine.SameAnswer wall client info p q

theorem vendor_policy_any_case (absent : engine.vendorPolicyAnyCase info = none) :
    engine.vendorPolicy info = none := by
  rw [vendorPolicyAnyCase, List.find?_eq_none] at absent
  refine List.find?_eq_none.mpr fun p hp literal => absent p hp ?_
  rw [eq_ignore_case_iff, beq_iff_eq.mp literal]

theorem check_access_lowercased_iff (engine : PolicyEngine) (wall : Nat) (client : EndpointId)
    (info : DeviceInfo) :
    engine.lowercased.checkAccess wall client info = engine.checkAccess wall client info ↔
      engine.CaseHarmless wall client info := by
  have lowered := @lowercased_select_policy engine info
  have literal := @select_policy_eq engine info
  cases exact : engine.exactPolicy info with
  | some p =>
      rw [exact, Option.some_or] at lowered literal
      rw [check_access_selected lowered, check_access_selected literal]
      exact iff_of_true lowercased_evaluate_policy fun absent => nomatch exact.symm.trans absent
  | none =>
  rw [exact, Option.none_or] at lowered literal
  cases anyCase : engine.vendorPolicyAnyCase info with
  | none =>
      rw [anyCase, Option.none_or] at lowered
      rw [vendor_policy_any_case anyCase, Option.none_or] at literal
      refine iff_of_true ?_ fun _ p found => nomatch anyCase.symm.trans found
      cases default : engine.findDefaultPolicy with
      | some p =>
          rw [default] at lowered literal
          rw [check_access_selected lowered, check_access_selected literal,
            lowercased_evaluate_policy]
      | none =>
          rw [default] at lowered literal
          rw [check_access_unselected lowered, check_access_unselected literal, lowercased,
            List.isEmpty_map]
  | some p =>
  rw [anyCase, Option.some_or] at lowered
  rw [check_access_selected lowered, lowercased_evaluate_policy]
  have harmless : engine.CaseHarmless wall client info ↔
      ∃ q, engine.selectPolicy info = some q ∧ engine.SameAnswer wall client info p q := by
    rw [literal]
    refine ⟨fun h => h exact p anyCase, fun h _ p' found => ?_⟩
    obtain rfl := Option.some.inj (anyCase.symm.trans found)
    exact h
  cases selected : engine.selectPolicy info with
  | some q =>
      rw [check_access_selected selected, evaluate_policy_eq_iff, harmless, selected]
      simp only [Option.some.injEq, exists_eq_left']
  | none =>
      have configured : engine.policies.isEmpty = false :=
        List.isEmpty_eq_false_iff_exists_mem.mpr ⟨p, List.mem_of_find?_eq_some anyCase⟩
      rw [check_access_unselected selected, configured, harmless, selected]
      refine iff_of_false evaluate_policy_matches ?_
      rintro ⟨q, wrong, -⟩
      cases wrong

/-- One client for the devices of a vendor, with a capital letter in the rule, and
everyone for all other devices. -/
def capitalRules : PolicyEngine where
  policies := [
    { deviceFilter := "1D6B:*"
      allowedClients := ["owner"]
      timeWindows := none
      maxSessionDuration := none
      restrictedDeviceClasses := none },
    { deviceFilter := "*"
      allowedClients := ["*"]
      timeWindows := none
      maxSessionDuration := none
      restrictedDeviceClasses := none }]
  timezoneOffsetHours := 0

def rootHub : DeviceInfo where
  id := ⟨1⟩
  vendorId := 0x1d6b
  productId := 2
  busNumber := 1
  deviceAddress := 1
  manufacturer := none
  product := none
  serialNumber := none
  deviceClass := 9
  subclass := 0
  protocol := 1
  speed := .high
  numConfigurations := 1

theorem capital_rule_skipped :
    capitalRules.checkAccess 0 ⟨"guest"⟩ rootHub = .allow ∧
      capitalRules.lowercased.checkAccess 0 ⟨"guest"⟩ rootHub = .deny .clientNotAllowed := by
  refine ⟨by decide, ?_⟩
  have selected : capitalRules.lowercased.selectPolicy rootHub =
      some (DevicePolicy.lowercased _) := lowercased_select_policy.trans rfl
  rw [check_access_selected selected, lowercased_evaluate_policy]
  decide

end PolicyEngine
end P2pUsb
